import Webhooks.LostRace

/-!
# One rule's failure and the other rules

The loop of `dispatch_event`, rule by rule: a rule whose insert is refused and not
recovered ends it, and with it the turns of the rules behind and the registration
of the inline attempts. `handle_event` swallows the exception, so nobody plans the
rest. In a block of the caller the insert of a rule that has gone is not refused:
the loop goes on, and the commit fails for all of them.
-/
namespace Webhooks

section
variable (env : Env) (event : Event) (plannings : Uuid → Planning)

/-- `handle_event`: never raises into the bus. -/
def handleEventOn : OnConnection Unit :=
  tryCatch (do let _ ← dispatchEventOn env event plannings; return ()) fun _ => return ()

/-- The row `plan_delivery` would insert for the rule. -/
def plannedRow (rule : Subscription) : Delivery :=
  let planning := plannings rule.id
  planDelivery env rule event planning.id planning.now planning.later

/-- The turns of the loop that end well, each with the row found or created. -/
def turns : List Subscription → DbConnection → List (Subscription × Delivery × Bool)
  | [], _ => []
  | rule :: rules, connection =>
    match planDeliveryOn env rule event (plannings rule.id) connection with
    | (.ok (row, created), connection) => (rule, row, created) :: turns rules connection
    | (.error _, _) => []

def createdIn (log : List (Subscription × Delivery × Bool)) : List Delivery :=
  log.filterMap fun turn => if turn.2.2 then some turn.2.1 else none

def HasRow (σ : Store) (rule : Subscription) : Prop :=
  (σ.deliveries.lookup? (idempotencyKey event.eventId rule.id)).isSome

/-- There is no row for the rule, and the database would refuse one. -/
def Unwritable (σ : Store) (rule : Subscription) : Prop :=
  ¬HasRow event σ rule ∧ exec env σ (.plan (plannedRow env event plannings rule)) = none

/-- The rule of the row is there. -/
def HasRule (σ : Store) (row : Delivery) : Prop :=
  (σ.subscriptions.get? row.subscriptionId).isSome

/-- One rule's failure leaves the others alone, in a call that starts on this connection: every
rule had its turn, or has its row, or can have none; a created row whose rule is there is not kept
from its commit, neither by an error in the block nor by the foreign key of another row; and
inline, an attempt waits for every row that was created. -/
structure Unsilenced (connection : DbConnection) : Prop where
  rows : ∀ rule ∈ rulesToPlan env event connection,
    rule ∈ (turns env event plannings (rulesToPlan env event connection) connection).map Prod.fst ∨
      HasRow event (dispatchEventOn env event plannings connection).2.view rule ∨
      Unwritable env event plannings (dispatchEventOn env event plannings connection).2.view rule
  kept : (∃ row ∈ createdIn (turns env event plannings (rulesToPlan env event connection)
      connection), HasRule (dispatchEventOn env event plannings connection).2.view row) →
    (dispatchEventOn env event plannings connection).2.needsRollback = false ∧
      (connection.inAtomicBlock = true →
        ∀ row ∈ createdIn (turns env event plannings (rulesToPlan env event connection) connection),
          (dispatchEventOn env event plannings connection).2.view.refers row.id = true)
  attempted : inlineDispatch env = true → ∃ hooks,
    (dispatchEventOn env event plannings connection).2.runOnCommit =
        connection.runOnCommit ++ hooks ∧
      ∀ row ∈ createdIn (turns env event plannings (rulesToPlan env event connection) connection),
        ∃ hook ∈ hooks, row ∈ hook.planned

/-- The rule's insert is refused, and the recovery finds nothing: the caller has a block open, or
there is no row with the key. -/
structure Fails (rule : Subscription) (connection : DbConnection) : Prop where
  free : ¬HasRow event connection.view rule
  refused : exec (env.within connection.inAtomicBlock)
    ((plannings rule.id).meanwhile connection.view)
    (.plan (plannedRow env event plannings rule)) = none
  unrecovered : connection.inAtomicBlock = true ∨
    ¬HasRow event ((plannings rule.id).meanwhile connection.view) rule

/-- Where a rule fails, no rule behind it is owed a row any more; what was created before it is to
wait for no attempt, and is committed already unless its rule has gone. Where none fails in a block
of the caller, all of the created rows have their rules, or none of them. -/
structure Spared (connection : DbConnection) : Prop where
  stops : ∀ before rule after planned here,
    rulesToPlan env event connection = before ++ rule :: after →
    planRules env event plannings before [] connection = (.ok planned, here) →
    Fails env event plannings rule here →
    (∀ later ∈ after, HasRow event ((plannings rule.id).meanwhile here.view) later ∨
      Unwritable env event plannings ((plannings rule.id).meanwhile here.view) later) ∧
    ((∃ row ∈ planned, HasRule ((plannings rule.id).meanwhile here.view) row) →
      connection.inAtomicBlock = false) ∧
    (planned ≠ [] → inlineDispatch env = false)
  commits : ∀ planned here,
    planRules env event plannings (rulesToPlan env event connection) [] connection =
      (.ok planned, here) →
    connection.inAtomicBlock = true → (∃ row ∈ planned, HasRule here.view row) →
    ∀ row ∈ planned, here.view.refers row.id = true

end

variable {env : Env} {event : Event} {plannings : Uuid → Planning} {rule : Subscription}
  {rules : List Subscription} {planned : List Delivery} {connection here : DbConnection}

/-! ## One turn -/

theorem not_hasRow_iff {σ : Store} :
    ¬HasRow event σ rule ↔ σ.deliveries.lookup? (idempotencyKey event.eventId rule.id) = none :=
  Option.not_isSome_iff_eq_none

/-- A rule that fails ends the loop: its turn raises, and an open block is marked. -/
theorem planDeliveryOn_of_fails (usable : connection.needsRollback = false)
    (h : Fails env event plannings rule connection) :
    ∃ exc, planDeliveryOn env rule event (plannings rule.id) connection =
      (.error exc, (connection.after (plannings rule.id).meanwhile).markForRollback) := by
  obtain ⟨free, refused, unrecovered⟩ := h
  have refused' : exec (env.within (connection.after (plannings rule.id).meanwhile).inAtomicBlock)
      (connection.after (plannings rule.id).meanwhile).view
      (.plan (planDelivery env rule event (plannings rule.id).id (plannings rule.id).now
        (plannings rule.id).later)) = none := refused
  rw [planDeliveryOn_apply usable, not_hasRow_iff.1 free]
  simp only [refused']
  rcases unrecovered with inside | missing
  · have inside' : (connection.after (plannings rule.id).meanwhile).inAtomicBlock = true := inside
    rw [inside', if_pos rfl]
    exact ⟨_, rfl⟩
  · have missing' : (connection.after (plannings rule.id).meanwhile).view.deliveries.lookup?
        (idempotencyKey event.eventId rule.id) = none := not_hasRow_iff.1 missing
    rw [missing']
    split
    · exact ⟨_, rfl⟩
    · exact ⟨_, rfl⟩

/-- Any other rule is served, and its turn leaves the connection in order. -/
theorem planDeliveryOn_of_not_fails (usable : connection.needsRollback = false)
    (h : ¬Fails env event plannings rule connection) :
    ∃ row created here,
      planDeliveryOn env rule event (plannings rule.id) connection = (.ok (row, created), here) ∧
        here.needsRollback = false ∧ here.inAtomicBlock = connection.inAtomicBlock ∧
        here.runOnCommit = connection.runOnCommit := by
  rw [planDeliveryOn_apply usable]
  cases found : connection.view.deliveries.lookup? (idempotencyKey event.eventId rule.id) with
  | some existing => exact ⟨existing, false, connection, rfl, usable, rfl, rfl⟩
  | none =>
    dsimp only
    cases stored : exec (env.within (connection.after (plannings rule.id).meanwhile).inAtomicBlock)
        (connection.after (plannings rule.id).meanwhile).view
        (.plan (planDelivery env rule event (plannings rule.id).id (plannings rule.id).now
          (plannings rule.id).later)) with
    | some view => exact ⟨_, true, _, rfl, usable, rfl, rfl⟩
    | none =>
      have recovered : ¬(connection.inAtomicBlock = true ∨
          ¬HasRow event ((plannings rule.id).meanwhile connection.view) rule) :=
        fun unrecovered => h ⟨not_hasRow_iff.2 found, stored, unrecovered⟩
      rw [not_or, not_not] at recovered
      have outside := Bool.eq_false_iff.2 recovered.1
      obtain ⟨other, taken⟩ := Option.isSome_iff_exists.1 recovered.2
      have outside' : (connection.after (plannings rule.id).meanwhile).inAtomicBlock = false :=
        outside
      have taken' : (connection.after (plannings rule.id).meanwhile).view.deliveries.lookup?
        (idempotencyKey event.eventId rule.id) = some other := taken
      dsimp only
      rw [outside', taken']
      exact ⟨other, false, _, rfl, outside, rfl, rfl⟩

/-! ## The loop -/

theorem createdIn_cons (turn : Subscription × Delivery × Bool)
    (log : List (Subscription × Delivery × Bool)) (planned : List Delivery) :
    (if turn.2.2 then planned ++ [turn.2.1] else planned) ++ createdIn log =
      planned ++ createdIn (turn :: log) := by
  obtain ⟨rule, row, created⟩ := turn
  cases created <;> simp [createdIn]

/-- A loop that ends has served its rules, each in its turn, and has left the connection in
order. -/
theorem planRules_eq_ok {result : List Delivery} (usable : connection.needsRollback = false)
    (h : planRules env event plannings rules planned connection = (.ok result, here)) :
    result = planned ++ createdIn (turns env event plannings rules connection) ∧
      (turns env event plannings rules connection).map Prod.fst = rules ∧
      here.needsRollback = false ∧ here.inAtomicBlock = connection.inAtomicBlock ∧
      here.runOnCommit = connection.runOnCommit := by
  induction rules generalizing planned connection with
  | nil =>
    cases h
    exact ⟨by simp [createdIn, turns], rfl, usable, rfl, rfl⟩
  | cons rule rules ih =>
    rw [planRules, bind_apply] at h
    by_cases fails : Fails env event plannings rule connection
    · obtain ⟨exc, raised⟩ := planDeliveryOn_of_fails usable fails
      rw [raised] at h
      cases h
    · obtain ⟨row, created, mid, served, usable', block, hooks⟩ :=
        planDeliveryOn_of_not_fails usable fails
      rw [served] at h
      obtain ⟨rfl, names, done, block', hooks'⟩ := ih usable' h
      rw [turns, served]
      refine ⟨createdIn_cons (rule, row, created) _ planned, ?_, done, block'.trans block,
        hooks'.trans hooks⟩
      rw [List.map_cons, names]

/-- A loop that raises has come to a rule that fails. -/
theorem planRules_eq_error {exc : PyException} (usable : connection.needsRollback = false)
    (h : planRules env event plannings rules planned connection = (.error exc, here)) :
    ∃ before rule after result mid, rules = before ++ rule :: after ∧
      planRules env event plannings before planned connection = (.ok result, mid) ∧
      Fails env event plannings rule mid := by
  induction rules generalizing planned connection with
  | nil => cases h
  | cons rule rules ih =>
    by_cases fails : Fails env event plannings rule connection
    · exact ⟨[], rule, rules, planned, connection, rfl, rfl, fails⟩
    · obtain ⟨row, created, mid, served, usable', -, -⟩ :=
        planDeliveryOn_of_not_fails usable fails
      rw [planRules, bind_apply, served] at h
      obtain ⟨before, other, after, result, last, rfl, loop, fails'⟩ := ih usable' h
      refine ⟨rule :: before, other, after, result, last, rfl, ?_, fails'⟩
      rw [planRules, bind_apply, served]
      exact loop

theorem turns_append {result : List Delivery} {before rest : List Subscription}
    (h : planRules env event plannings before planned connection = (.ok result, here)) :
    turns env event plannings (before ++ rest) connection =
      turns env event plannings before connection ++ turns env event plannings rest here := by
  induction before generalizing planned connection with
  | nil =>
    cases h
    rfl
  | cons rule before ih =>
    rw [planRules, bind_apply] at h
    rw [List.cons_append, turns, turns]
    cases turn : planDeliveryOn env rule event (plannings rule.id) connection with
    | mk outcome mid =>
      rw [turn] at h
      cases outcome with
      | error exc => cases h
      | ok outcome =>
        dsimp only at h ⊢
        rw [ih h]
        rfl

/-! ## The call -/

theorem handleEventOn_apply : handleEventOn env event plannings connection =
    (.ok (), (dispatchEventOn env event plannings connection).2) := by
  unfold handleEventOn
  rw [tryCatch_apply, bind_apply]
  cases dispatchEventOn env event plannings connection with
  | mk result here => cases result <;> rfl

theorem nodup_rulesToPlan : (rulesToPlan env event connection).Nodup := by
  unfold rulesToPlan
  split
  · exact List.nodup_nil
  · have rows := connection.view.subscriptions.keys.of_map
    exact (List.perm_insertionSort _ _).nodup_iff.2 (rows.filter _)

/-- Where the call stops: the loop has served the rules before, and comes to one that fails. -/
structure StopsAt (env : Env) (event : Event) (plannings : Uuid → Planning)
    (connection : DbConnection) (before : List Subscription) (rule : Subscription)
    (after : List Subscription) (planned : List Delivery) (here : DbConnection) : Prop where
  rules : rulesToPlan env event connection = before ++ rule :: after
  loop : planRules env event plannings before [] connection = (.ok planned, here)
  fails : Fails env event plannings rule here

variable {before after : List Subscription}

section
variable (usable : connection.needsRollback = false)
include usable

theorem StopsAt.dispatch
    (h : StopsAt env event plannings connection before rule after planned here) :
    (dispatchEventOn env event plannings connection).2 =
      (here.after (plannings rule.id).meanwhile).markForRollback := by
  obtain ⟨-, -, usable', -, -⟩ := planRules_eq_ok usable h.loop
  obtain ⟨exc, raised⟩ := planDeliveryOn_of_fails usable' h.fails
  rw [dispatchEventOn_apply usable, h.rules, planRules_append, h.loop]
  dsimp only
  rw [planRules, bind_apply, raised]

/-- The rules before have had their turns, and nobody behind. -/
theorem StopsAt.turns
    (h : StopsAt env event plannings connection before rule after planned here) :
    turns env event plannings (rulesToPlan env event connection) connection =
        turns env event plannings before connection ∧
      (turns env event plannings before connection).map Prod.fst = before ∧
      createdIn (turns env event plannings before connection) = planned := by
  obtain ⟨created, served, usable', -, -⟩ := planRules_eq_ok usable h.loop
  obtain ⟨exc, raised⟩ := planDeliveryOn_of_fails usable' h.fails
  refine ⟨?_, served, created.symm⟩
  rw [h.rules, turns_append h.loop, Webhooks.turns, raised]
  exact List.append_nil _

/-- A call that stops silences nobody just when nobody behind is owed a row, and nothing that was
created is lost or left without its attempt. -/
theorem StopsAt.unsilenced_iff
    (h : StopsAt env event plannings connection before rule after planned here) :
    Unsilenced env event plannings connection ↔
      (∀ later ∈ after, HasRow event ((plannings rule.id).meanwhile here.view) later ∨
        Unwritable env event plannings ((plannings rule.id).meanwhile here.view) later) ∧
      ((∃ row ∈ planned, HasRule ((plannings rule.id).meanwhile here.view) row) →
        connection.inAtomicBlock = false) ∧
      (planned ≠ [] → inlineDispatch env = false) := by
  have ended := h.dispatch usable
  obtain ⟨log, served, created⟩ := h.turns usable
  obtain ⟨-, -, -, block, hooks⟩ := planRules_eq_ok usable h.loop
  have view : (dispatchEventOn env event plannings connection).2.view =
    (plannings rule.id).meanwhile here.view := by rw [ended]; rfl
  have marked : (dispatchEventOn env event plannings connection).2.needsRollback =
    connection.inAtomicBlock := by rw [ended, ← block]; rfl
  have registered : (dispatchEventOn env event plannings connection).2.runOnCommit =
    connection.runOnCommit := by rw [ended, ← hooks]; rfl
  constructor
  · rintro ⟨rows, kept, attempted⟩
    rw [log, created] at kept attempted
    rw [marked, view] at kept
    refine ⟨fun later hmem => ?_, fun alive => (kept alive).1, fun some => ?_⟩
    · rw [← view]
      have inside : later ∈ rulesToPlan env event connection := by
        rw [h.rules]
        exact List.mem_append_right _ (List.mem_cons_of_mem _ hmem)
      refine (rows later inside).resolve_left ?_
      rw [log, served]
      have apart := h.rules ▸ @nodup_rulesToPlan env event connection
      exact fun early => List.disjoint_of_nodup_append apart early (List.mem_cons_of_mem _ hmem)
    · rw [← Bool.not_eq_true]
      intro inline
      obtain ⟨more, same, each⟩ := attempted inline
      rw [registered] at same
      have none : more = [] := by simpa using same
      obtain ⟨row, rest, rfl⟩ := List.exists_cons_of_ne_nil some
      obtain ⟨hook, hmem, -⟩ := each row List.mem_cons_self
      rw [none] at hmem
      cases hmem
  · rintro ⟨others, unharmed, unawaited⟩
    refine ⟨fun other hmem => ?_, fun alive => ?_, fun inline => ⟨[], ?_, ?_⟩⟩
    · rw [log, served, view]
      rw [h.rules, List.mem_append, List.mem_cons] at hmem
      rcases hmem with early | rfl | later
      · exact .inl early
      · by_cases there : HasRow event ((plannings other.id).meanwhile here.view) other
        · exact .inr (.inl there)
        · exact .inr (.inr ⟨there, exec_plan_within h.fails.refused⟩)
      · exact .inr (others other later)
    · rw [log, created, view] at alive
      have outside := unharmed alive
      rw [marked]
      exact ⟨outside, fun inside => absurd (inside.symm.trans outside) nofun⟩
    · rw [registered, List.append_nil]
    · rw [log, created]
      intro row hmem
      have off := unawaited (List.ne_nil_of_mem hmem)
      rw [inline] at off
      cases off

/-- A call whose loop ends has served every rule; what it has created is committed already, or can
be if every row has its rule. -/
theorem unsilenced_iff_of_loop
    (loop : planRules env event plannings (rulesToPlan env event connection) [] connection =
      (.ok planned, here)) : Unsilenced env event plannings connection ↔
      (connection.inAtomicBlock = true → (∃ row ∈ planned, HasRule here.view row) →
        ∀ row ∈ planned, here.view.refers row.id = true) := by
  obtain ⟨created, served, usable', -, hooks⟩ := planRules_eq_ok usable loop
  have ended := @dispatchEventOn_apply env event connection plannings usable
  rw [loop] at ended
  have final : (dispatchEventOn env event plannings connection).2 =
      if planned ≠ [] ∧ inlineDispatch env = true then
        { here with runOnCommit := here.runOnCommit ++ [⟨event, planned⟩] } else here :=
    congrArg Prod.snd ended
  have view : (dispatchEventOn env event plannings connection).2.view = here.view := by
    rw [final]
    split <;> rfl
  have unmarked : (dispatchEventOn env event plannings connection).2.needsRollback = false := by
    rw [final]
    split <;> exact usable'
  rw [List.nil_append] at created
  constructor
  · rintro ⟨-, kept, -⟩ inside alive
    rw [← created, view] at kept
    exact (kept alive).2 inside
  · intro referred
    refine ⟨fun rule hmem => .inl (by rw [served]; exact hmem), fun alive => ?_, fun inline => ?_⟩
    · rw [← created, view] at alive ⊢
      exact ⟨unmarked, fun inside => referred inside alive⟩
    · rw [final, ← created]
      by_cases some : planned = []
      · subst some
        exact ⟨[], by simp [hooks], fun row absent => absurd absent List.not_mem_nil⟩
      · rw [if_pos ⟨some, inline⟩]
        refine ⟨[⟨event, planned⟩], by rw [hooks], fun row hmem => ?_⟩
        exact ⟨_, List.mem_singleton_self _, hmem⟩

end

/-- Whoever calls, `handle_event` returns with what `dispatch_event` has left, and a failing rule
leaves the other rules alone if and only if, wherever the loop comes to a rule that fails, nobody
behind it is owed a row, and rows created before it neither wait for an inline attempt nor stand in
the caller's block, and a block in which the loop ends holds no row without its rule among
others. -/
theorem dispatch_unsilenced_iff (env : Env) (event : Event) (plannings : Uuid → Planning)
    (connection : DbConnection) (usable : connection.needsRollback = false) :
    handleEventOn env event plannings connection =
        (.ok (), (dispatchEventOn env event plannings connection).2) ∧
      (Unsilenced env event plannings connection ↔ Spared env event plannings connection) := by
  refine ⟨handleEventOn_apply, ?_⟩
  constructor
  · refine fun unsilenced => ⟨?_, ?_⟩
    · intro before rule after planned here rules loop fails
      have stops : StopsAt env event plannings connection before rule after planned here :=
        ⟨rules, loop, fails⟩
      exact (stops.unsilenced_iff usable).1 unsilenced
    · intro planned here loop
      exact (unsilenced_iff_of_loop usable loop).1 unsilenced
  · rintro ⟨stops, commits⟩
    cases loop : planRules env event plannings (rulesToPlan env event connection) [] connection with
    | mk result here =>
      cases result with
      | ok planned => exact (unsilenced_iff_of_loop usable loop).2 (commits planned here loop)
      | error exc =>
        obtain ⟨before, rule, after, planned, mid, rules, served, fails⟩ :=
          planRules_eq_error usable loop
        have stop : StopsAt env event plannings connection before rule after planned mid :=
          ⟨rules, served, fails⟩
        exact (stop.unsilenced_iff usable).2 (stops _ _ _ _ _ rules served fails)

theorem spared_single (block : Bool) : Spared sampleEnv sampleEvent (fun _ => racePlanning)
    ⟨sampleStore, block, false, []⟩ := by
  refine ⟨?_, ?_⟩
  · intro before rule after planned here rules loop _
    have single : rulesToPlan sampleEnv sampleEvent ⟨sampleStore, block, false, []⟩ =
      [sampleRule] := rfl
    rw [single] at rules
    cases before with
    | nil =>
      cases loop
      cases rules
      exact ⟨fun later absent => absurd absent List.not_mem_nil,
        fun ⟨_, absent, _⟩ => absurd absent List.not_mem_nil, fun some => absurd rfl some⟩
    | cons other before => simp at rules
  · intro planned here loop inside
    cases inside
    cases loop

/-- The only rule loses its race, outside of blocks and in one. -/
theorem dispatch_unsilenced_single :
    Unsilenced sampleEnv sampleEvent (fun _ => racePlanning) ⟨sampleStore, false, false, []⟩ ∧
      Unsilenced sampleEnv sampleEvent (fun _ => racePlanning) ⟨sampleStore, true, false, []⟩ :=
  ⟨(dispatch_unsilenced_iff sampleEnv sampleEvent (fun _ => racePlanning) _ rfl).2.2
      (spared_single false),
    (dispatch_unsilenced_iff sampleEnv sampleEvent (fun _ => racePlanning) _ rfl).2.2
      (spared_single true)⟩

/-! ## A rule that is deleted on the way -/

def deletedRule : Subscription := { sampleRule with id := sampleUuid 5 }

def twoRules : DbConnection where
  view := { sampleStore with
    subscriptions := ⟨[sampleRule, deletedRule], by decide, by decide⟩ }
  inAtomicBlock := false
  needsRollback := false
  runOnCommit := []

/-- Somebody deletes the rule between its match and its insert. -/
def deletingPlanning : Planning where
  id := sampleUuid 2
  now := 0
  later := 0
  meanwhile σ := (exec sampleEnv σ (.remove deletedRule.id)).getD σ

theorem stopsAt_deletedRule : StopsAt sampleEnv sampleEvent (fun _ => deletingPlanning) twoRules []
    deletedRule [sampleRule] [] twoRules where
  rules := by rfl
  loop := rfl
  fails := ⟨not_hasRow_iff.2 rfl, rfl, .inr (not_hasRow_iff.2 rfl)⟩

/-- In a block of the caller both rules are served, the deleted one with a row whose key leads
nowhere. -/
def callersBlock : DbConnection := { twoRules with inAtomicBlock := true }

def splitPlanning (id : Uuid) : Planning :=
  if id = deletedRule.id then deletingPlanning else ⟨sampleUuid 3, 0, 0, fun σ => σ⟩

theorem planRules_callersBlock : ∃ planned here,
    planRules sampleEnv sampleEvent splitPlanning
      (rulesToPlan sampleEnv sampleEvent callersBlock) [] callersBlock = (.ok planned, here) ∧
    (∃ row ∈ planned, HasRule here.view row) ∧ ∃ row ∈ planned, here.view.refers row.id = false :=
  ⟨_, _, rfl, ⟨_, List.mem_cons_of_mem _ List.mem_cons_self, rfl⟩, ⟨_, List.mem_cons_self, rfl⟩⟩

/-- The rule behind it could have its row, and has none; and in a block of the caller it has one,
which cannot be committed. -/
theorem deleted_rule_silences :
    sampleRule ∈ rulesToPlan sampleEnv sampleEvent twoRules ∧
      ¬HasRow sampleEvent (handleEventOn sampleEnv sampleEvent (fun _ => deletingPlanning)
        twoRules).2.view sampleRule ∧
      ¬Unsilenced sampleEnv sampleEvent (fun _ => deletingPlanning) twoRules ∧
      ¬Unsilenced sampleEnv sampleEvent splitPlanning callersBlock := by
  have ended := stopsAt_deletedRule.dispatch rfl
  refine ⟨by rw [stopsAt_deletedRule.rules]; simp, ?_, fun unsilenced => ?_, fun unsilenced => ?_⟩
  · rw [handleEventOn_apply, ended]
    exact not_hasRow_iff.2 rfl
  · obtain ⟨others, -⟩ := (stopsAt_deletedRule.unsilenced_iff rfl).1 unsilenced
    rcases others sampleRule List.mem_cons_self with there | ⟨-, refused⟩
    · cases there
    · cases refused
  · obtain ⟨planned, here, loop, alive, row, hmem, dangling⟩ := planRules_callersBlock
    have referred := (unsilenced_iff_of_loop rfl loop).1 unsilenced rfl alive row hmem
    exact absurd (dangling.symm.trans referred) nofun

end Webhooks
