import Webhooks.System.Copies

/-!
# Facts on the bus and the rows they announce

In a sequential run, where no two processes hold copies of rows at the same
time, the `webhooks.delivery.succeeded` and `webhooks.delivery.dead` facts about
a row count the times it entered the status, each committed by the write that
moves the row. The one way into `dead` that tells nobody is the dead letter of an
oversized payload, at planning.
-/
namespace Webhooks

open Interleaving (Config Run StepCondition)

variable {ι : Type} {env : Env} {σ σ' : Store} {l l' : Proc} {a : Act} {status : Status} {id : Uuid}

/-! ## Announcing and entering -/

/-- The topic that announces a terminal status. -/
def Status.topic : Status → Option String
  | .succeeded => some deliverySucceeded
  | .dead => some deliveryDead
  | _ => none

def Json.isText (s : String) : Json → Bool
  | .str t => t = s
  | _ => false

/-- The fact says that this row is in this status. -/
def BusEvent.announces (status : Status) (id : Uuid) (fact : BusEvent) : Bool :=
  status.topic = some fact.topic && (fact.payload.get "delivery_id").isText id.str

def Store.announced (σ : Store) (status : Status) (id : Uuid) : Nat :=
  σ.outbox.countP (·.announces status id)

/-- One where the row enters the status, and none where it does not. -/
def enters (status : Status) (before after : Option Delivery) : Nat :=
  if after.any (·.status = status) && !before.any (·.status = status) then 1 else 0

/-- The row with this id after an act, from the one before. -/
def Act.onDelivery (env : Env) (id : Uuid) (row : Option Delivery) : Act → Option Delivery
  | .write t w => w.onDelivery env t id row
  | _ => row

/-- The row with this id through a trace, and how often it has entered the status. -/
def followed (env : Env) (status : Status) (id : Uuid) (start : Option Delivery)
    (tr : List (Interleaving.Event ι Act)) : Option Delivery × Nat :=
  tr.foldl (fun p ev =>
    match ev with
    | .act _ a => (a.onDelivery env id p.1, p.2 + enters status p.1 (a.onDelivery env id p.1))
    | .tick => p) (start, 0)

def entered (env : Env) (status : Status) (id : Uuid) (start : Option Delivery)
    (tr : List (Interleaving.Event ι Act)) : Nat :=
  (followed env status id start tr).2

theorem enters_of_imp {before after : Option Delivery}
    (h : after.any (·.status = status) = true → before.any (·.status = status) = true) :
    enters status before after = 0 := by
  unfold enters
  cases was : before.any (·.status = status) with
  | true => simp
  | false =>
    cases is : after.any (·.status = status) with
    | true => cases (h is).symm.trans was
    | false => rfl

@[simp] theorem enters_self (row : Option Delivery) : enters status row row = 0 :=
  enters_of_imp id

theorem followed_act (start : Option Delivery) (tr : List (Interleaving.Event ι Act)) (i : ι) :
    followed env status id start (tr ++ [.act i a]) =
      let p := followed env status id start tr
      (a.onDelivery env id p.1, p.2 + enters status p.1 (a.onDelivery env id p.1)) := by
  simp [followed]

theorem followed_tick (start : Option Delivery) (tr : List (Interleaving.Event ι Act)) :
    followed env status id start (tr ++ [.tick]) = followed env status id start tr := by
  simp [followed]

@[simp] theorem announces_succeeded (row : Delivery) :
    (emitDeliverySucceeded row).announces status id =
      decide (status = .succeeded ∧ row.id = id) := by
  have key : row.id.str = id.str ↔ row.id = id := Uuid.str_injective.eq_iff
  cases status <;>
    simp [BusEvent.announces, emitDeliverySucceeded, Status.topic, Json.get, Json.isText, key,
      deliverySucceeded, deliveryDead]

@[simp] theorem announces_dead (row : Delivery) :
    (emitDeliveryDead row).announces status id = decide (status = .dead ∧ row.id = id) := by
  have key : row.id.str = id.str ↔ row.id = id := Uuid.str_injective.eq_iff
  cases status <;>
    simp [BusEvent.announces, emitDeliveryDead, Status.topic, Json.get, Json.isText, key,
      deliverySucceeded, deliveryDead]

@[simp] theorem announces_disabled (rule : Subscription) (reason : String) :
    (emitSubscriptionDisabled rule reason).announces status id = false := by
  cases status <;>
    simp [BusEvent.announces, emitSubscriptionDisabled, Status.topic, deliverySucceeded,
      deliveryDead, subscriptionDisabled]

theorem terminal_cases (terminal : status ∈ terminalStatuses) :
    status = .succeeded ∨ status = .dead := by
  simpa [terminalStatuses] using terminal

/-- The facts of an outcome announce the terminal status it gives the row, once. -/
theorem Applied.announces {now later : Time} {draw : UnitDraw} {row : Delivery}
    {rule : Subscription} {result : DeliveryResult} {o : Outcome}
    (h : Applied env now later draw row rule result o) (terminal : status ∈ terminalStatuses) :
    o.events.countP (·.announces status id) =
      if o.row.id = id ∧ o.row.status = status then 1 else 0 := by
  have silent : ∀ u : RuleUpdate, (u.events rule).countP (·.announces status id) = 0 := by
    intro u
    cases u <;> simp [RuleUpdate.events]
  cases h with
  | succeeded _ =>
    rcases terminal_cases terminal with rfl | rfl <;>
      simp [List.countP_cons, Delivery.succeed, Delivery.tried]
  | retrying delay _ _ _ _ =>
    rcases terminal_cases terminal with rfl | rfl <;> simp [Delivery.retryAt]
  | dead _ _ =>
    rcases terminal_cases terminal with rfl | rfl <;>
      simp [List.countP_append, silent, List.countP_cons, Delivery.die, Delivery.tried]

/-! ## Sequential runs -/

/-- A process between two calls: idle, or about to load rows and attempt them. -/
def Proc.atRest : Proc → Prop
  | .idle => True
  | .attemptingIds _ _ _ => True
  | _ => False

theorem Proc.atRest.held? (rest : l.atRest) : l.held? = none := by
  cases l <;> first | rfl | exact rest.elim

theorem Proc.atRest.knows (rest : l.atRest) : l.Knows env fun _ => True := by
  cases l <;> trivial

theorem Proc.atRest.plans (rest : l.atRest) : l.Plans env := by
  cases l <;> trivial

/-- One operation at a time: no other process holds a copy of a row. -/
def sequential : StepCondition ι Store Proc Act := fun c ev _ =>
  match ev with
  | .tick => True
  | .act i _ => ∀ j, j ≠ i → (c.locals j).held? = none

/-- No event is planned whose payload is oversized. -/
def plansNoDeadLetter (env : Env) : StepCondition ι Store Proc Act := fun c ev _ =>
  match ev with
  | .tick => True
  | .act i a => a.isWrite = true → ∀ event row rules planned,
      c.locals i = .inserting event row rules planned → oversized env event.data = false

def sequentialAndPlanned (env : Env) : StepCondition ι Store Proc Act := fun c ev d =>
  sequential c ev d ∧ plansNoDeadLetter env c ev d

/-- Every copy is the row as it is stored. -/
structure Synced (env : Env) (c : Config ι Store Proc) : Prop where
  rows : RowsHold env (fun _ => True) c
  plans : ∀ i, (c.locals i).Plans env
  current : ∀ i row, (c.locals i).held? = some row → c.store.deliveries.get? row.id = some row

/-- A process that acts alone keeps its copy current. -/
theorem Step.current (h : Step env σ l a σ' l')
    (current : ∀ row, l.held? = some row → σ.deliveries.get? row.id = some row) :
    ∀ row, l'.held? = some row → σ'.deliveries.get? row.id = some row := by
  intro row held
  obtain ⟨same, old | new⟩ := h.held held
  · rw [same]
    exact current row old
  · rwa [same]

theorem Synced.step [DecidableEq ι] {c d : Config ι Store Proc} {ev : Interleaving.Event ι Act}
    (synced : Synced env c) (h : Interleaving.Step (protocol env) c ev d)
    (ok : sequential c ev d) : Synced env d := by
  refine ⟨(rowInvariant_true env).step synced.rows h, ?_, ?_⟩
  · cases h with
    | act hstep =>
      exact Config.forall_set (hstep.plans (synced.plans _)) fun j _ => synced.plans j
    | tick => exact synced.plans
  · cases h with
    | @act i a s l hstep =>
      refine Config.forall_set
        (Q := fun _ l => ∀ row, Proc.held? l = some row → s.deliveries.get? row.id = some row)
        (hstep.current (synced.current i)) ?_
      intro j hj row copy
      rw [ok j hj] at copy
      cases copy
    | tick htick =>
      obtain ⟨t, -, rfl⟩ := htick
      exact synced.current

/-- A write commits the fact that a row has entered a terminal status exactly when it moves the
row there. -/
theorem Synced.announces {c d : Config ι Store Proc} (synced : Synced env c) {i : ι} {t : Time}
    {w : Write} (h : Step env c.store (c.locals i) (.write t w) σ' l')
    (ok : plansNoDeadLetter env c (.act i (.write t w)) d) (terminal : status ∈ terminalStatuses)
    (id : Uuid) : w.events.countP (·.announces status id) =
      enters status (c.store.deliveries.get? id)
        (w.onDelivery env t id (c.store.deliveries.get? id)) := by
  have still : ∀ p : Delivery → Bool, enters status (c.store.deliveries.get? id)
      ((c.store.deliveries.get? id).filter p) = 0 := by
    intro p
    apply enters_of_imp
    cases c.store.deliveries.get? id with
    | none => simp
    | some row =>
      intro h
      simp only [Option.filter_some] at h
      split at h
      · exact h
      · cases h
  cases w with
  | plan new =>
    obtain ⟨event, rules, planned, here, -⟩ := h.of_plan
    have plans := synced.plans i
    rw [here] at plans
    obtain ⟨rule, id', now, later, rfl⟩ := plans
    have small := ok rfl _ _ _ _ here
    simp only [Write.onDelivery]
    split
    · symm
      apply enters_of_imp
      rcases terminal_cases terminal with rfl | rfl <;>
        simp [Delivery.inserted, planDelivery, small]
    · simp [Write.events]
  | claim id' now =>
    simp only [Write.onDelivery]
    split
    · symm
      apply enters_of_imp
      cases c.store.deliveries.get? id <;> simp [Delivery.claimedAt]
    · simp [Write.events]
  | outcome o =>
    obtain ⟨copy, rule, result, caller, now, later, draw, here, -, -, -, happly⟩ := h.of_outcome
    have applied := applied_of_apply happly
    have current := synced.current i copy (by rw [here]; rfl)
    have knows := synced.rows.copies i
    rw [here] at knows
    rw [Write.events, applied.announces terminal]
    simp only [Write.onDelivery]
    by_cases own : id = o.row.id
    · rw [← applied.rowId, ← own] at current
      have before : copy.status ≠ status := by
        rintro same
        have : copy.isTerminal = true := by rw [Delivery.isTerminal, same]; simpa using terminal
        rw [knows.2] at this
        cases this
      rw [current, if_pos own]
      simp [own, enters, before, Delivery.saved]
    · simp [own, Ne.symm own]
  | replay new =>
    obtain ⟨copy, now, here, -, -, hreplay⟩ := h.of_replay
    obtain ⟨-, rfl⟩ := replay_eq_ok hreplay
    simp only [Write.onDelivery]
    split
    · symm
      apply enters_of_imp
      rcases terminal_cases terminal with rfl | rfl <;> simp [Delivery.saved, Delivery.requeued]
    · simp [Write.events]
  | purge status before => exact (still _).symm
  | create rule => simp [Write.onDelivery, Write.events]
  | patch rule changes => simp [Write.onDelivery, Write.events]
  | rotate i secret => simp [Write.onDelivery, Write.events]
  | remove i => exact (still _).symm

/-- The facts a step commits about a row are those of the step it takes itself. -/
theorem Synced.step_announces [DecidableEq ι] {c d : Config ι Store Proc}
    {ev : Interleaving.Event ι Act} (synced : Synced env c)
    (h : Interleaving.Step (protocol env) c ev d) (ok : plansNoDeadLetter env c ev d)
    (terminal : status ∈ terminalStatuses) (id : Uuid) :
    ∃ facts, d.store.outbox = c.store.outbox ++ facts ∧
      facts.countP (·.announces status id) =
        enters status (c.store.deliveries.get? id) (d.store.deliveries.get? id) := by
  cases h with
  | @act i a s l hstep =>
    obtain ⟨w, rfl, hexec⟩ | ⟨-, quiet⟩ := hstep.effect
    · refine ⟨w.events, exec_outbox hexec, ?_⟩
      rw [synced.announces hstep ok terminal, Config.store_set, exec_deliveries hexec]
    · exact ⟨[], by simp [quiet.outbox], by simp [quiet.deliveries]⟩
  | tick htick =>
    obtain ⟨t, -, rfl⟩ := htick
    exact ⟨[], by simp, by simp⟩

/-- The row a trace leads to is the stored one. -/
theorem followed_step [DecidableEq ι] {d e : Config ι Store Proc}
    {tr : List (Interleaving.Event ι Act)} {ev : Interleaving.Event ι Act}
    (h : Interleaving.Step (protocol env) d ev e) (start : Option Delivery)
    (same : (followed env status id start tr).1 = d.store.deliveries.get? id) :
    followed env status id start (tr ++ [ev]) =
      (e.store.deliveries.get? id, (followed env status id start tr).2 +
        enters status (d.store.deliveries.get? id) (e.store.deliveries.get? id)) := by
  cases h with
  | @act i a s l hstep =>
    have after : a.onDelivery env id (d.store.deliveries.get? id) = s.deliveries.get? id := by
      obtain ⟨w, rfl, hexec⟩ | ⟨silent, quiet⟩ := hstep.effect
      · exact (exec_deliveries hexec id).symm
      · rw [quiet.deliveries]
        cases a <;> first | rfl | cases silent
    simp only [followed_act, same, after, Config.store_set]
  | tick htick =>
    obtain ⟨t, -, rfl⟩ := htick
    rw [followed_tick]
    simp [← same]

theorem synced_of_atRest {c : Config ι Store Proc} (rest : ∀ i, (c.locals i).atRest) :
    Synced env c := by
  refine ⟨⟨fun _ _ _ => trivial, fun i => (rest i).knows⟩, fun i => (rest i).plans, ?_⟩
  intro i row copy
  rw [(rest i).held?] at copy
  cases copy

/-- In a sequential run that plans no oversized event, the facts on the bus that announce a row's
terminal status are as many as the times the row has entered it, and each is committed by the
step that moves the row. -/
theorem facts_match_rows [DecidableEq ι] {c d : Config ι Store Proc}
    {tr : List (Interleaving.Event ι Act)} (rest : ∀ i, (c.locals i).atRest)
    (run : Run (protocol env) (sequentialAndPlanned env) c tr d) (status : Status)
    (terminal : status ∈ terminalStatuses) (id : Uuid) :
    d.store.announced status id =
        c.store.announced status id + entered env status id (c.store.deliveries.get? id) tr ∧
      ∀ ev e, Interleaving.Step (protocol env) d ev e → sequentialAndPlanned env d ev e →
        ∃ facts, e.store.outbox = d.store.outbox ++ facts ∧
          facts.countP (·.announces status id) =
            enters status (d.store.deliveries.get? id) (e.store.deliveries.get? id) := by
  suffices Synced env d ∧
      (followed env status id (c.store.deliveries.get? id) tr).1 = d.store.deliveries.get? id ∧
      d.store.announced status id =
        c.store.announced status id + entered env status id (c.store.deliveries.get? id) tr from
    ⟨this.2.2, fun ev e hs ok => this.1.step_announces hs ok.2 terminal id⟩
  refine run.invariant (I := fun tr d => Synced env d ∧
      (followed env status id (c.store.deliveries.get? id) tr).1 = d.store.deliveries.get? id ∧
      d.store.announced status id =
        c.store.announced status id + entered env status id (c.store.deliveries.get? id) tr) ?_
    ⟨synced_of_atRest rest, rfl, rfl⟩
  rintro tr d ev e ⟨synced, same, count⟩ hs ok
  have after := followed_step hs (c.store.deliveries.get? id) same
  obtain ⟨facts, outbox, new⟩ := synced.step_announces hs ok.2 terminal id
  refine ⟨synced.step hs ok.1, by rw [after], ?_⟩
  rw [Store.announced, outbox, List.countP_append, new, entered, after, ← Nat.add_assoc]
  exact congrArg (· + _) count

/-- One more step of the only process that acts. -/
theorem sequential_solo [DecidableEq ι] {ok : StepCondition ι Store Proc Act}
    {c d : Config ι Store Proc} {i : ι} {tr : List (Interleaving.Event ι Act)}
    (run : Run (protocol env) ok c tr d ∧ ∀ j, j ≠ i → d.locals j = .idle)
    (step : Step env d.store (d.locals i) a σ l)
    (allowed : sequential d (.act i a) (d.set i σ l) → ok d (.act i a) (d.set i σ l)) :
    Run (protocol env) ok c (tr ++ [.act i a]) (d.set i σ l) ∧
      ∀ j, j ≠ i → (d.set i σ l).locals j = .idle := by
  refine ⟨run.1.act i step (allowed fun j hj => by rw [run.2 j hj]; rfl), ?_⟩
  intro j hj
  rw [Config.locals_set_of_ne _ _ _ hj]
  exact run.2 j hj

/-- One event, planned and drained: one success, announced once. -/
theorem facts_match_rows_delivered : ∃ tr, ∃ d : Config Nat Store Proc,
    Run (protocol sampleEnv) (sequentialAndPlanned sampleEnv) sampleStart tr d ∧
      entered sampleEnv .succeeded (sampleUuid 2) none tr = 1 ∧
      d.store.announced .succeeded (sampleUuid 2) = 1 := by
  obtain ⟨tr, d, run, once⟩ : ∃ tr, ∃ d : Config Nat Store Proc,
      Run (protocol sampleEnv) (sequentialAndPlanned sampleEnv) sampleStart tr d ∧
        entered sampleEnv .succeeded (sampleUuid 2) none tr = 1 := by
    have silent : ∀ {c d : Config Nat Store Proc} {a : Act}, a.isWrite = false →
        sequential c (.act 0 a) d → sequentialAndPlanned sampleEnv c (.act 0 a) d :=
      fun quiet alone => ⟨alone, fun h => by cases quiet.symm.trans h⟩
    have start : Run (protocol sampleEnv) (sequentialAndPlanned sampleEnv) sampleStart []
        sampleStart ∧ ∀ j, j ≠ 0 → sampleStart.locals j = .idle := ⟨.nil _, fun _ _ => rfl⟩
    have matched := sequential_solo start (.matched sampleEvent rfl) (silent rfl)
    have built := sequential_solo matched
      (@Step.build _ _ _ sampleRule _ _ (sampleUuid 2) 0 0 rfl List.not_mem_nil le_rfl le_rfl)
      (silent rfl)
    have planned := sequential_solo built (.insert rfl) fun alone => ⟨alone, fun _ _ _ _ _ h => by
      rw [Config.locals_set_self] at h
      cases h
      decide +kernel⟩
    have returned := sequential_solo planned (.returned (by decide)) (silent rfl)
    have due := sequential_solo returned (.due 100 0 le_rfl) (silent rfl)
    have claimed := sequential_solo due (@Step.claim _ _ _ (sampleUuid 2) _ 0 le_rfl
      (exec_claim canLease_defaults rfl))
      fun alone => ⟨alone, fun _ => by simp⟩
    have loaded := sequential_solo claimed (@Step.drainLoad _ _ _ _ _ _ sampleRule rfl rfl)
      (silent rfl)
    have called := sequential_solo loaded (@Step.call _ _ _ _ _ .deliverWs rfl) (silent rfl)
    have answered := sequential_solo called (.answer .returnedOther rfl) (silent rfl)
    have committed := sequential_solo answered (.commit 0 0 sampleDraw le_rfl le_rfl rfl rfl)
      fun alone => ⟨alone, fun _ => by simp⟩
    exact ⟨_, _, committed.1, by decide +kernel⟩
  have facts := facts_match_rows (c := sampleStart) (fun _ => trivial) run .succeeded (by decide)
    (sampleUuid 2)
  refine ⟨tr, d, run, once, facts.1.trans ?_⟩
  exact (congrArg (0 + ·) once).trans rfl

/-- An oversized event is dead-lettered when it is planned, and no fact announces it. -/
theorem dead_letter_unannounced : ∃ tr, ∃ d : Config Nat Store Proc,
    Run (protocol eightBytes) sequential sampleStart tr d ∧
      entered eightBytes .dead (sampleUuid 2) none tr = 1 ∧
      d.store.announced .dead (sampleUuid 2) = 0 := by
  have start : Run (protocol eightBytes) sequential sampleStart [] sampleStart ∧
      ∀ j, j ≠ 0 → sampleStart.locals j = .idle := ⟨.nil _, fun _ _ => rfl⟩
  have matched := sequential_solo start (.matched oversizedEvent rfl) id
  have built := sequential_solo matched
    (@Step.build _ _ _ sampleRule _ _ (sampleUuid 2) 0 0 rfl List.not_mem_nil le_rfl le_rfl) id
  have planned := sequential_solo built (.insert rfl) id
  have returned := sequential_solo planned (.returned (by decide)) id
  exact ⟨_, _, returned.1, by decide +kernel, by decide +kernel⟩

end Webhooks
