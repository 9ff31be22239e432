import Webhooks.Sequential.Progress
import Webhooks.Sequential.Waiting

/-!
# Inline or deferred

`DISPATCH_MODE` decides who makes the first attempts of an event: the dispatch itself, or
the next drain. The rows of one event belong to rules of their own, so their attempts do
not notice each other, and it makes no difference who makes them: the same rows, rules,
facts and messages come of it, up to the order and to what the clock stamps.
-/
namespace Webhooks

variable {env : Env} {σ σ₀ τ : Store} {row : Delivery} {rule : Subscription} {w : World}

/-! ## What an attempt commits -/

/-- What an attempt at the row under the rule commits, if it commits anything. -/
def attemptOutcome (env : Env) (row : Delivery) (rule : Subscription) (w : World) :
    Option Outcome :=
  if row.isTerminal then none
  else
    match attemptResult env row rule w with
    | .error _ => none
    | .ok result =>
      match apply env w.now w.later w.draw row rule result with
      | .error _ => none
      | .ok o =>
        if env.backend.acceptsDelivery o.row && o.update.all (env.backend.integers ·.failures) then
          some o
        else none

theorem applied_of_attemptOutcome {o : Outcome} (h : attemptOutcome env row rule w = some o) :
    ∃ result, Applied env w.now w.later w.draw row rule result o := by
  unfold attemptOutcome at h
  split at h
  · cases h
  · split at h
    · cases h
    · next result _ =>
      split at h
      · cases h
      · next happly =>
        split at h <;> cases h
        exact ⟨result, applied_of_apply happly⟩

/-- A call on a stored row commits its outcome, and does nothing without one. -/
theorem attemptById_attemptOutcome (loaded : σ.load row.id = some (row, rule)) :
    (attemptOutcome env row rule w).elim (attemptById env row.id σ w = σ) fun o =>
      exec env σ (.outcome o) = some (attemptById env row.id σ w) := by
  have called : attemptById env row.id σ w =
      (attempt env σ row rule w).toOption.getD σ := by
    simp only [attemptById, loaded]
    cases attempt env σ row rule w <;> rfl
  rw [called]
  unfold attemptOutcome attempt
  cases row.isTerminal with
  | true => rfl
  | false =>
    simp only [Bool.false_eq_true, if_false]
    cases attemptResult env row rule w with
    | error => rfl
    | ok result =>
      cases happly : apply env w.now w.later w.draw row rule result with
      | error => simp [bind, Except.bind, happly, Except.toOption]
      | ok o =>
        have taken := exec_outcome_isSome loaded (applied_of_apply happly)
        have fits : (env.backend.acceptsDelivery o.row &&
            o.update.all (env.backend.integers ·.failures)) = (exec env σ (.outcome o)).isSome := by
          rw [Bool.eq_iff_iff, taken, Bool.and_eq_true]
          cases o.update <;> simp
        simp only [bind, Except.bind, happly, fits]
        cases hexec : exec env σ (.outcome o) with
        | none => rfl
        | some σ' => exact hexec

/-- The outcome with another stamp on its row. -/
def Outcome.stamped (o : Outcome) (t : Time) : Outcome :=
  { o with row := { o.row with updatedAt := t } }

theorem apply_claimedAt (start later : Time) (draw : UnitDraw) (result : DeliveryResult)
    (now : Time) (lease : ℚ) :
    apply env start later draw (row.claimedAt now lease) rule result =
      (apply env start later draw row rule result).map (·.stamped now) := by
  have attempts : ((row.claimedAt now lease).tried result start).attempts =
      (row.tried result start).attempts := rfl
  unfold apply
  dsimp only
  rw [attempts]
  split
  · rfl
  · split
    · split <;> rfl
    · rfl

/-- A claim changes nothing an attempt looks at. -/
theorem attemptOutcome_claimedAt (now : Time) (lease : ℚ) :
    attemptOutcome env (row.claimedAt now lease) rule w =
      (attemptOutcome env row rule w).map (·.stamped now) := by
  have terminal : (row.claimedAt now lease).isTerminal = row.isTerminal := rfl
  have result : attemptResult env (row.claimedAt now lease) rule w =
      attemptResult env row rule w := rfl
  unfold attemptOutcome
  rw [terminal, result]
  split
  · rfl
  · split
    · rfl
    · rw [apply_claimedAt]
      cases apply env w.now w.later w.draw row rule _ with
      | error => rfl
      | ok o =>
        have accepted : env.backend.acceptsDelivery (o.stamped now).row =
            env.backend.acceptsDelivery o.row := rfl
        have update : (o.stamped now).update = o.update := rfl
        dsimp only [Except.map]
        rw [accepted, update]
        split <;> rfl

/-! ## Turns of rows that do not notice each other -/

section
variable (env : Env) (outside : Outside) (moments : Uuid → Moment) (σ₀ : Store)

/-- What the attempt at a row commits in a store in which nobody else had a turn. -/
def Store.outcomeOf (id : Uuid) : Option Outcome :=
  (σ₀.load id).bind fun loaded =>
    attemptOutcome env loaded.1 loaded.2 ((moments id).world env outside [])

/-- A site in which the rows of `done` have had their turn: what each left of its row at `t`, or
what its claim left of it; what it left of its rule; the facts it put on the bus; and what it
sent. -/
structure Turned (idle : Uuid → Delivery → Delivery) (t : Uuid → Time) (sent₀ : List Message)
    (done : List Uuid) (s : Site) : Prop where
  rows : ∀ id, s.store.deliveries.get? id =
    if id ∈ done then
      (σ₀.deliveries.get? id).map fun row =>
        (σ₀.outcomeOf env outside moments id).elim (idle id row) (·.row.saved (t id) true)
    else σ₀.deliveries.get? id
  rested : ∀ k, (∀ id ∈ done, σ₀.owes k id = false) →
    s.store.subscriptions.get? k = σ₀.subscriptions.get? k
  struck : ∀ k, ∀ id ∈ done, σ₀.owes k id = true →
    s.store.subscriptions.get? k = (σ₀.subscriptions.get? k).map fun rule =>
      ((σ₀.outcomeOf env outside moments id).bind Outcome.update).elim rule (·.saveOn (t id) rule)
  outbox : s.store.outbox = σ₀.outbox ++
    done.flatMap fun id => (σ₀.outcomeOf env outside moments id).elim [] Outcome.events
  sent : s.sent = sent₀ ++ done.flatMap fun id => attemptMessage env (moments id) id σ₀

end

section
variable {outside : Outside} {moments : Uuid → Moment} {idle : Uuid → Delivery → Delivery}
  {t : Uuid → Time} {sent₀ : List Message} {done : List Uuid} {s : Site} {id : Uuid}

theorem Turned.start (s : Site) : Turned env outside moments s.store idle t s.sent [] s where
  rows _ := by simp
  rested _ _ := rfl
  struck _ _ h := absurd h List.not_mem_nil
  outbox := by simp
  sent := by simp

/-- The row as its turn finds it, untouched or claimed. -/
def Prepares (idle : Uuid → Delivery → Delivery) (id : Uuid) (row : Delivery) : Prop :=
  idle id row = row ∨ ∃ now lease, idle id row = row.claimedAt now lease

theorem Prepares.frame (h : Prepares idle id row) : (idle id row).id = row.id ∧
    (idle id row).subscriptionId = row.subscriptionId ∧
    (idle id row).isTerminal = row.isTerminal ∧
    ∀ rule, buildContext (idle id row) rule = buildContext row rule := by
  rcases h with same | ⟨now, lease, same⟩ <;> rw [same] <;> exact ⟨rfl, rfl, rfl, fun _ => rfl⟩

/-- Of a row in either state the same comes, but for the stamp. -/
theorem Prepares.outcome (h : Prepares idle id row) (rule : Subscription) (w : World) :
    ∃ f : Outcome → Outcome,
      attemptOutcome env (idle id row) rule w = (attemptOutcome env row rule w).map f ∧
      ∀ o, (∀ t, (f o).row.saved t true = o.row.saved t true) ∧ (f o).row.id = o.row.id ∧
        (f o).rule = o.rule ∧ (f o).update = o.update ∧ (f o).events = o.events := by
  rcases h with same | ⟨now, lease, same⟩
  · exact ⟨fun o => o, by rw [same, Option.map_id'], fun _ => ⟨fun _ => rfl, rfl, rfl, rfl, rfl⟩⟩
  · exact ⟨(·.stamped now), by rw [same, attemptOutcome_claimedAt],
      fun _ => ⟨fun _ => rfl, rfl, rfl, rfl, rfl⟩⟩

/-- What the turn of a row does, whether the row has been claimed for it or not. -/
structure Prepared (idle : Uuid → Delivery → Delivery) (t : Uuid → Time) (row : Delivery)
    (σ τ : Store) : Prop where
  rows : ∀ k, τ.deliveries.get? k =
    if k = row.id then some (idle row.id row) else σ.deliveries.get? k
  rules : τ.subscriptions = σ.subscriptions
  outbox : τ.outbox = σ.outbox
  clock : τ.clock = t row.id

/-- What a turn that has been prepared leaves in the store. -/
structure TurnLeft (t : Uuid → Time) (row waiting : Delivery) (out : Option Outcome)
    (σ τ : Store) : Prop where
  rows : ∀ k, τ.deliveries.get? k =
    if k = row.id then some (out.elim waiting (·.row.saved (t row.id) true))
    else σ.deliveries.get? k
  rules : ∀ k, τ.subscriptions.get? k =
    if k = row.subscriptionId then
      (σ.subscriptions.get? k).map fun rule =>
        (out.bind Outcome.update).elim rule (·.saveOn (t row.id) rule)
    else σ.subscriptions.get? k
  outbox : τ.outbox = σ.outbox ++ out.elim [] Outcome.events

theorem Prepared.left (prepared : Prepared idle t row σ τ) (prepares : Prepares idle row.id row)
    (hrule : σ.subscriptions.get? row.subscriptionId = some rule) :
    TurnLeft t row (idle row.id row) (attemptOutcome env row rule w) σ
      (attemptById env row.id τ w) := by
  obtain ⟨key, owner, -, -⟩ := prepares.frame
  have loaded : τ.load (idle row.id row).id = some (idle row.id row, rule) := by
    rw [key]
    simp [Store.load, prepared.rows, prepared.rules, owner, hrule]
  have committed := @attemptById_attemptOutcome env τ (idle row.id row) rule w loaded
  obtain ⟨f, same, alike⟩ := @Prepares.outcome env row idle row.id prepares rule w
  rw [same, key] at committed
  cases out : attemptOutcome env row rule w with
  | none =>
    have idles : attemptById env row.id τ w = τ := by simpa [out] using committed
    rw [idles]
    refine ⟨prepared.rows, fun k => ?_, ?_⟩
    · rw [prepared.rules]
      split <;> simp
    · simp [prepared.outbox]
  | some o =>
    have saved : exec env τ (.outcome (f o)) = some (attemptById env row.id τ w) := by
      simpa [out] using committed
    obtain ⟨stamp, rowId, ruleId, update, events⟩ := alike o
    obtain ⟨result, applied⟩ := applied_of_attemptOutcome out
    refine ⟨fun k => ?_, fun k => ?_, ?_⟩
    · rw [exec_deliveries saved]
      simp only [Write.onDelivery, rowId, applied.rowId, prepared.rows]
      split <;> simp [prepared.clock, stamp]
    · have own : rule.id = row.subscriptionId := Table.key_of_get? hrule
      rw [exec_subscriptions saved, prepared.rules]
      simp only [Write.onSubscription, ruleId, applied.ruleId, own, update, prepared.clock]
      rfl
    · rw [exec_outbox saved, prepared.outbox]
      exact congrArg _ events

theorem Turned.next (h : Turned env outside moments σ₀ idle t sent₀ done s) (deaf : outside.Deaf)
    (loaded : σ₀.load row.id = some (row, rule))
    (apart : ∀ j ∈ done, σ₀.owes row.subscriptionId j = false)
    (prepares : Prepares idle row.id row) (prepared : Prepared idle t row s.store τ) :
    Turned env outside moments σ₀ idle t sent₀ (done ++ [row.id])
      ({ s with store := τ }.attempt env outside (moments row.id) row.id) := by
  obtain ⟨stored, hrule⟩ := Store.get?_of_load loaded
  obtain ⟨key, owner, terminal, context⟩ := prepares.frame
  have there : s.store.subscriptions.get? row.subscriptionId = some rule := by
    rw [h.rested _ apart, hrule]
  have outcome : σ₀.outcomeOf env outside moments row.id =
      attemptOutcome env row rule ((moments row.id).world env outside []) := by
    simp [Store.outcomeOf, loaded]
  have message : attemptMessage env (moments row.id) row.id τ =
      attemptMessage env (moments row.id) row.id σ₀ := by
    have loaded' : τ.load row.id = some (idle row.id row, rule) := by
      simp [Store.load, prepared.rows, prepared.rules, owner, there]
    simp only [attemptMessage, loaded', loaded, terminal, context]
  have owes (k : Uuid) : σ₀.owes k row.id = true ↔ k = row.subscriptionId := by
    simp [Store.owes, stored, eq_comm]
  have left : TurnLeft t row (idle row.id row) (σ₀.outcomeOf env outside moments row.id) s.store
      ({ s with store := τ }.attempt env outside (moments row.id) row.id).store := by
    rw [outcome, ← world_of_deaf deaf (moments row.id) s.sent]
    exact prepared.left prepares there
  constructor
  · intro k
    rw [left.rows, h.rows]
    by_cases own : k = row.id
    · simp [own, stored]
    · simp [own]
  · intro k others
    have other : k ≠ row.subscriptionId := by
      intro own
      have := others row.id (List.mem_append_right _ (List.mem_singleton_self _))
      simp [(owes k).2 own] at this
    rw [left.rules, if_neg other]
    exact h.rested k fun j hj => others j (List.mem_append_left _ hj)
  · intro k j hj own
    rw [left.rules]
    rcases List.mem_append.1 hj with earlier | last
    · have other : k ≠ row.subscriptionId := by
        rintro rfl
        rw [apart j earlier] at own
        cases own
      rw [if_neg other]
      exact h.struck k j earlier own
    · obtain rfl := List.mem_singleton.1 last
      obtain rfl := (owes k).1 own
      rw [if_pos rfl, h.rested _ apart]
  · rw [left.outbox, h.outbox, List.flatMap_append, List.append_assoc]
    simp
  · have sent : ({ s with store := τ }.attempt env outside (moments row.id) row.id).sent =
        s.sent ++ attemptMessage env (moments row.id) row.id τ := rfl
    rw [sent, message, h.sent, List.flatMap_append, List.append_assoc]
    simp

/-- Rows that are there with their rules, each of a rule of its own. -/
structure Independent (σ : Store) (ids : List Uuid) : Prop where
  loads : ∀ id ∈ ids, ∃ row rule, σ.load id = some (row, rule)
  apart : ids.Pairwise fun i j => ∀ k, σ.owes k i = true → σ.owes k j = false

theorem Independent.last {ids : List Uuid} (h : Independent σ₀ (ids ++ [id])) :
    Independent σ₀ ids ∧ ∃ row rule, σ₀.load id = some (row, rule) ∧ row.id = id ∧
      row.id ∉ ids ∧ ∀ j ∈ ids, σ₀.owes row.subscriptionId j = false := by
  obtain ⟨row, rule, loaded⟩ := h.loads id (List.mem_append_right _ (List.mem_singleton_self id))
  have stored := (Store.get?_of_load loaded).1
  have owes : σ₀.owes row.subscriptionId id = true := by simp [Store.owes, stored]
  obtain ⟨earlier, -, across⟩ := List.pairwise_append.1 h.apart
  have apart (j : Uuid) (hj : j ∈ ids) : σ₀.owes row.subscriptionId j = false := by
    rw [Bool.eq_false_iff]
    intro shared
    have := across j hj id (List.mem_singleton_self id) _ shared
    simp [owes] at this
  obtain rfl : row.id = id := Table.key_of_get? stored
  refine ⟨⟨fun j hj => h.loads j (List.mem_append_left _ hj), earlier⟩, row, rule, loaded, rfl, ?_,
    apart⟩
  intro again
  rw [apart _ again] at owes
  cases owes

/-- Turns one after the other, each prepared for its row. -/
theorem Turned.all {f : Site → Uuid → Site} {ids : List Uuid} (deaf : outside.Deaf)
    (independent : Independent s.store ids)
    (prepares : ∀ id row, Prepares idle id row) (P : Site → Prop) (start : P s)
    (step : ∀ s' row, row.id ∈ ids → P s' → s.store.deliveries.get? row.id = some row →
      s'.store.deliveries.get? row.id = some row → P (f s' row.id) ∧
        ∃ τ, f s' row.id = { s' with store := τ }.attempt env outside (moments row.id) row.id ∧
          Prepared idle t row s'.store τ) :
    Turned env outside moments s.store idle t s.sent ids (ids.foldl f s) ∧ P (ids.foldl f s) := by
  induction ids using List.reverseRecOn with
  | nil => exact ⟨.start s, start⟩
  | append_singleton ids id ih =>
    obtain ⟨before, row, rule, loaded, rfl, fresh, apart⟩ := independent.last
    obtain ⟨turned, kept⟩ :=
      ih before fun s' row hrow => step s' row (List.mem_append_left _ hrow)
    have stored := (Store.get?_of_load loaded).1
    have still : (ids.foldl f s).store.deliveries.get? row.id = some row := by
      rw [turned.rows, if_neg fresh, stored]
    obtain ⟨keeps, τ, turn, prepared⟩ :=
      step _ row (List.mem_append_right _ (List.mem_singleton_self _)) kept stored still
    rw [List.foldl_concat]
    refine ⟨?_, keeps⟩
    rw [turn]
    exact turned.next deaf loaded apart (prepares _ row) prepared

theorem clock_attemptById (id : Uuid) (σ : Store) (w : World) :
    (attemptById env id σ w).clock = σ.clock := by
  rcases attemptById_cases env id σ w with same | ⟨_, _, _, _, -, -, -, hexec⟩
  · rw [same]
  · exact (exec_frame hexec).1

/-- The attempts of a dispatch. -/
theorem turned_inline {ids : List Uuid} (deaf : outside.Deaf)
    (independent : Independent s.store ids) :
    Turned env outside moments s.store (fun _ row => row) (fun _ => s.store.clock) s.sent ids
      (ids.foldl (fun s id => s.attempt env outside (moments id) id) s) := by
  refine (Turned.all deaf independent (fun _ _ => .inl rfl)
    (fun s' => s'.store.clock = s.store.clock) rfl ?_).1
  intro s' row _ clock _ stored
  refine ⟨(clock_attemptById row.id s'.store _).trans clock, s'.store, rfl, fun k => ?_, rfl, rfl,
    clock⟩
  split
  · next own => rw [own, stored]
  · rfl

/-- The attempts of a drain. -/
theorem turned_drain {ids : List Uuid} {now : Time} (deaf : outside.Deaf)
    (independent : Independent s.store ids) (late : ∀ id, now ≤ (moments id).claimed)
    (leases : ∀ id, env.settings.canLease (moments id).claimed = true)
    (due : ∀ id ∈ ids, ∃ row, s.store.deliveries.get? id = some row ∧ row.isDueAt now = true) :
    Turned env outside moments s.store
      (fun id row => row.claimedAt (moments id).claimed env.settings.lease)
      (fun id => (moments id).clock) s.sent ids
      (ids.foldl (Site.drainOne env outside moments) s) := by
  refine (Turned.all deaf independent (fun _ _ => .inr ⟨_, _, rfl⟩) (fun _ => True) trivial ?_).1
  intro s' row selected _ base stored
  obtain ⟨found, hfound, isDue⟩ := due row.id selected
  cases base.symm.trans hfound
  have dueThen : row.isDueAt (moments row.id).claimed = true :=
    Delivery.isDueAt_mono isDue (late row.id)
  obtain ⟨τ, claim⟩ : ∃ τ, exec env (s'.tick (moments row.id).clock).store
      (.claim row.id (moments row.id).claimed) = some τ := by
    simp [exec, Site.tick, stored, dueThen, leases]
  refine ⟨trivial, τ, ?_, fun k => ?_, ?_, ?_, (exec_frame claim).1⟩
  · unfold Site.drainOne
    dsimp only
    rw [claim]
    rfl
  · rw [exec_deliveries claim]
    simp only [Write.onDelivery, Site.tick]
    split
    · next own => rw [own, stored]; rfl
    · rfl
  · simp only [exec, Option.ite_none_right_eq_some, Option.some.injEq] at claim
    obtain ⟨-, rfl⟩ := claim
    rfl
  · have := exec_outbox claim
    simpa [Write.events, Site.tick] using this

end

/-! ## Planning in either mode -/

/-- The installation with `DISPATCH_MODE` set to `"inline"`. -/
def Env.inline (env : Env) : Env :=
  { env with settings := { env.settings with dispatchMode := "inline" } }

theorem planRules_inline (event : Event) (plannings : Uuid → Planning)
    (rules : List Subscription) (planned : List Delivery) :
    planRules env.inline event plannings rules planned =
      planRules env event plannings rules planned := by
  have one : planDeliveryOn env.inline = planDeliveryOn env := rfl
  induction rules generalizing planned with
  | nil => rfl
  | cons rule rules ih => simp only [planRules, one, ih]

/-- The rows a dispatch has planned so far, each new and stored as it was built. -/
structure PlannedRows (env : Env) (event : Event) (plannings : Uuid → Planning) (σ₀ σ : Store)
    (rows : List Delivery) : Prop where
  stored : ∀ new ∈ rows, σ.deliveries.get? new.id = some new
  others : ∀ id, id ∉ rows.map (·.id) → σ.deliveries.get? id = σ₀.deliveries.get? id
  distinct : (rows.map (·.id)).Nodup
  drawn : ∀ new ∈ rows, ∃ rule, new = (plannedRow env event plannings rule).inserted σ₀.clock
  linked : ∀ new ∈ rows, ∃ rule, σ.subscriptions.get? new.subscriptionId = some rule
  rules : σ.subscriptions = σ₀.subscriptions
  outbox : σ.outbox = σ₀.outbox
  clock : σ.clock = σ₀.clock

section
variable {event : Event} {plannings : Uuid → Planning}

theorem PlannedRows.start (σ : Store) : PlannedRows env event plannings σ σ [] where
  stored _ h := absurd h List.not_mem_nil
  others _ _ := rfl
  distinct := List.nodup_nil
  drawn _ h := absurd h List.not_mem_nil
  linked _ h := absurd h List.not_mem_nil
  rules := rfl
  outbox := rfl
  clock := rfl

theorem kept_plannedRows (σ₀ : Store) :
    KeptByInserts env event plannings (PlannedRows env event plannings σ₀) := by
  intro σ σ' rows rule there planned hexec
  have absent := absent_of_plan hexec
  have clock := (exec_frame hexec).1
  have same : σ'.subscriptions = σ.subscriptions := by
    simp only [exec, Option.ite_none_right_eq_some, Option.map_eq_some_iff] at hexec
    obtain ⟨-, _, -, rfl⟩ := hexec
    rfl
  have fresh : (plannedRow env event plannings rule).id ∉ rows.map (·.id) := by
    intro taken
    obtain ⟨old, hold, key⟩ := List.mem_map.1 taken
    have taken := planned.stored old hold
    rw [key] at taken
    cases taken.symm.trans absent
  have puts (id : Uuid) : σ'.deliveries.get? id =
      if id = (plannedRow env event plannings rule).id then
        some ((plannedRow env event plannings rule).inserted σ.clock)
      else σ.deliveries.get? id := exec_deliveries hexec id
  refine ⟨fun new hnew => ?_, fun id other => ?_, ?_, fun new hnew => ?_, fun new hnew => ?_,
    same.trans planned.rules, ?_, clock.trans planned.clock⟩
  · rw [puts]
    rcases List.mem_append.1 hnew with old | last
    · rw [if_neg, planned.stored new old]
      exact fun own => fresh (own ▸ List.mem_map_of_mem old)
    · obtain rfl := List.mem_singleton.1 last
      exact if_pos rfl
  · rw [List.map_append, List.mem_append, not_or] at other
    rw [puts, if_neg, planned.others id other.1]
    exact fun own => other.2 (by simp [own, Delivery.inserted])
  · rw [List.map_append, List.nodup_append]
    refine ⟨planned.distinct, List.nodup_singleton _, fun a ha b hb => ?_⟩
    obtain rfl := List.mem_singleton.1 hb
    intro own
    have key : a = (plannedRow env event plannings rule).id := own
    exact fresh (key ▸ ha)
  · rcases List.mem_append.1 hnew with old | last
    · exact planned.drawn new old
    · obtain rfl := List.mem_singleton.1 last
      exact ⟨rule, by rw [planned.clock]⟩
  · rw [same]
    rcases List.mem_append.1 hnew with old | last
    · exact planned.linked new old
    · obtain rfl := List.mem_singleton.1 last
      exact ⟨rule, there⟩
  · rw [exec_outbox hexec, planned.outbox]
    exact List.append_nil _

/-- A dispatch that returns has planned the rows it returns, in either mode. -/
theorem dispatchEvent_returned {planned : List Delivery}
    (returned : (dispatchEventOn env event (fun id => (plannings id).alone) σ.autocommit).1 =
      .ok planned) : ∃ τ, PlannedRows env event plannings σ τ planned ∧
      (σ.dispatchEvent env event plannings).view = τ ∧
      (σ.dispatchEvent env.inline event plannings).view = τ ∧
      (inlineDispatch env = false → (σ.dispatchEvent env event plannings).hookIds = []) ∧
      (σ.dispatchEvent env.inline event plannings).hookIds = planned.map (·.id) := by
  cases reacts : isIgnored env event with
  | true =>
    have none : dispatchEventOn env event (fun id => (plannings id).alone) σ.autocommit =
        (.ok [], σ.autocommit) := by
      simp only [dispatchEventOn, reacts, if_true]
      rfl
    have none' : dispatchEventOn env.inline event (fun id => (plannings id).alone) σ.autocommit =
        (.ok [], σ.autocommit) := by
      have reacts' : isIgnored env.inline event = true := reacts
      simp only [dispatchEventOn, reacts', if_true]
      rfl
    rw [none] at returned
    cases returned
    unfold Store.dispatchEvent
    rw [none, none']
    exact ⟨σ, .start σ, rfl, rfl, fun _ => rfl, rfl⟩
  | false =>
    have reacts' : isIgnored env.inline event = false := reacts
    have ended := @dispatchEventOn_autocommit env event (fun id => (plannings id).alone) σ reacts
    have ended' := @dispatchEventOn_autocommit env.inline event (fun id => (plannings id).alone) σ
      reacts'
    rw [planRules_inline] at ended'
    obtain ⟨τ, rows, kept, left, result⟩ := planRules_induction (kept_plannedRows σ)
      (@stored_of_matching env σ event) (.start σ)
    have same : matchingSubscriptions env.inline σ.subscriptions.rows event.eventType event.data =
        matchingSubscriptions env σ.subscriptions.rows event.eventType event.data := rfl
    rw [same] at ended'
    unfold Store.dispatchEvent
    rw [ended] at returned ⊢
    rw [ended']
    generalize planRules env event _ _ [] σ.autocommit = outcome at left result returned
    obtain ⟨exc | found, connection⟩ := outcome
    · cases returned
    · cases left
      obtain rfl := result found rfl
      cases returned
      have mode : inlineDispatch env.inline = true := by
        simp [inlineDispatch, Env.inline, orText]
      refine ⟨τ, kept, ?_, ?_, fun deferred => ?_, ?_⟩
      · dsimp only
        split <;> rfl
      · dsimp only
        split <;> rfl
      · simp [deferred, DbConnection.hookIds]
      · rcases eq_or_ne planned [] with rfl | some
        · simp [DbConnection.hookIds]
        · dsimp only
          rw [if_pos ⟨some, mode⟩]
          simp [DbConnection.hookIds]

/-- The rows of one event are of different rules. -/
theorem PlannedRows.independent {rows : List Delivery}
    (planned : PlannedRows env event plannings σ₀ τ rows) {ids : List Uuid} (distinct : ids.Nodup)
    (among : ids ⊆ rows.map (·.id)) : Independent τ ids := by
  have found (id : Uuid) (hid : id ∈ ids) :
      ∃ row ∈ rows, row.id = id ∧ τ.deliveries.get? id = some row := by
    obtain ⟨row, hrow, rfl⟩ := List.mem_map.1 (among hid)
    exact ⟨row, hrow, rfl, planned.stored row hrow⟩
  constructor
  · intro id hid
    obtain ⟨row, hrow, -, stored⟩ := found id hid
    obtain ⟨rule, hrule⟩ := planned.linked row hrow
    exact ⟨row, rule, by simp [Store.load, stored, hrule]⟩
  · refine distinct.imp_of_mem fun {i j} hi hj apart k owes => ?_
    obtain ⟨row, hrow, own, stored⟩ := found i hi
    obtain ⟨other, hother, own', stored'⟩ := found j hj
    rw [Bool.eq_false_iff]
    intro owes'
    simp only [Store.owes, stored, stored', Option.any_some, decide_eq_true_eq] at owes owes'
    obtain ⟨rule, built⟩ := planned.drawn row hrow
    obtain ⟨rule', built'⟩ := planned.drawn other hother
    have key : row.idempotencyKey = other.idempotencyKey := by
      have ruleId : rule.id = rule'.id := by
        rw [built] at owes
        rw [built'] at owes'
        exact owes.trans owes'.symm
      rw [built, built']
      exact congrArg (idempotencyKey event.eventId) ruleId
    have same := Table.eq_of_uniq τ.deliveries (Table.mem_of_get? stored)
      (Table.mem_of_get? stored') key
    exact apart (by rw [← own, ← own', same])

end

/-! ## The two modes -/

section
variable (env) (moments : Uuid → Moment)

/-- A row after an inline attempt and after a drain: the same but for `updated_at`; or still as it
was planned, where the attempt raised, and leased to the drain. -/
inductive SameRow : Delivery → Delivery → Prop where
  | stamped (row : Delivery) (t : Time) : SameRow row { row with updatedAt := t }
  | leased (row : Delivery) : row.status = .pending →
      SameRow row (row.claimedAt (moments row.id).claimed env.settings.lease)

/-- Two sites with the same rows and rules, up to what the clock stamps, and the same facts and
messages, up to their order. -/
structure Agree (s s' : Site) : Prop where
  rows : ∀ id, Option.Rel (SameRow env moments) (s.store.deliveries.get? id)
    (s'.store.deliveries.get? id)
  rules : ∀ id, Option.Rel (fun rule rule' => ∃ t, rule' = { rule with updatedAt := t })
    (s.store.subscriptions.get? id) (s'.store.subscriptions.get? id)
  outbox : s'.store.outbox.Perm s.store.outbox
  sent : s'.sent.Perm s.sent

end

section
variable {outside : Outside} {moments : Uuid → Moment} {s : Site} {event : Event}
  {plannings : Uuid → Planning}

theorem outcomeOf_of_isTerminal {id : Uuid} (stored : σ₀.deliveries.get? id = some row)
    (ended : row.isTerminal = true) : σ₀.outcomeOf env outside moments id = none ∧
      attemptMessage env (moments id) id σ₀ = [] := by
  cases hrule : σ₀.subscriptions.get? row.subscriptionId <;>
    simp [Store.outcomeOf, attemptMessage, Store.load, stored, hrule, attemptOutcome, ended]

/-- Where nobody else is due and the batch is large enough, a drain takes every planned row that
is open. -/
theorem PlannedRows.dueIds {rows : List Delivery} {now : Time} {limit : ℕ}
    (planned : PlannedRows env event plannings σ₀ τ rows)
    (quiet : ∀ row ∈ σ₀.deliveries.rows, row.isDueAt now = false)
    (order : ∀ id, (plannings id).now ≤ now) (room : rows.length ≤ limit) :
    τ.dueIds now limit ⊆ rows.map (·.id) ∧
      ∀ row ∈ rows, row.id ∉ τ.dueIds now limit → row.isTerminal = true := by
  have batch := firstDue_dueIds τ now limit
  have among : τ.dueIds now limit ⊆ rows.map (·.id) := by
    intro id hid
    obtain ⟨row, stored, due⟩ := batch.due id hid
    by_contra other
    rw [planned.others id other] at stored
    rw [quiet row (Table.mem_of_get? stored)] at due
    cases due
  refine ⟨among, fun row hrow left => ?_⟩
  cases hopen : row.isTerminal with
  | true => rfl
  | false =>
    have due : row.isDueAt now = true := by
      obtain ⟨rule, rfl⟩ := planned.drawn row hrow
      have small : oversized env event.data = false := by
        rw [Bool.eq_false_iff]
        intro big
        simp [plannedRow, planDelivery, Delivery.inserted, big, Delivery.isTerminal,
          terminalStatuses] at hopen
      rw [Delivery.isDueAt_iff, Delivery.isDue_eq_not_isTerminal, hopen]
      exact ⟨rfl, (plannings rule.id).now, by simp [plannedRow, planDelivery, Delivery.inserted,
        small], order rule.id⟩
    have full := length_dueIds_of_not_mem (planned.stored row hrow) due left
    have fewer : τ.dueIds now limit ⊆ (rows.map (·.id)).erase row.id := by
      intro id hid
      refine (List.mem_erase_of_ne ?_).2 (among hid)
      rintro rfl
      exact left hid
    have counted := (List.subperm_of_subset batch.nodup fewer).length_le
    rw [List.length_erase_of_mem (List.mem_map_of_mem hrow), List.length_map] at counted
    have some := List.length_pos_of_mem hrow
    omega

/-- Two sites in which the same rows have had their turns, but for some that have ended. -/
theorem agree_of_turned {all few : List Uuid} {t t' : Uuid → Time} {sent₀ : List Message}
    {s s' : Site}
    (h : Turned env outside moments σ₀ (fun _ row => row) t sent₀ all s)
    (h' : Turned env outside moments σ₀
      (fun id row => row.claimedAt (moments id).claimed env.settings.lease) t' sent₀ few s')
    (distinct : few.Nodup) (distinct' : all.Nodup) (among : few ⊆ all)
    (fresh : ∀ id ∈ few, ∀ row, σ₀.deliveries.get? id = some row → row.status = .pending)
    (ended : ∀ id ∈ all, id ∉ few → ∃ row, σ₀.deliveries.get? id = some row ∧
      row.isTerminal = true) : Agree env moments s s' := by
  have nothing (id : Uuid) (hid : id ∈ all) (left : id ∉ few) :
      σ₀.outcomeOf env outside moments id = none ∧ attemptMessage env (moments id) id σ₀ = [] := by
    obtain ⟨row, stored, terminal⟩ := ended id hid left
    exact outcomeOf_of_isTerminal stored terminal
  refine ⟨fun id => ?_, fun k => ?_, ?_, ?_⟩
  · rw [h.rows, h'.rows]
    cases stored : σ₀.deliveries.get? id with
    | none => simp
    | some row =>
      obtain rfl := Table.key_of_get? stored
      by_cases late : row.id ∈ few
      · simp only [late, among late, if_true, Option.map_some]
        cases σ₀.outcomeOf env outside moments row.id with
        | none => exact .some (.leased row (fresh _ late row stored))
        | some o => exact .some (.stamped (o.row.saved (t row.id) true) (t' row.id))
      · simp only [late, if_false]
        have same : SameRow env moments row row := .stamped row row.updatedAt
        split
        · next early =>
          rw [(nothing _ early late).1]
          exact .some same
        · exact .some same
  · have refl (rule : Option Subscription) :
        Option.Rel (fun rule rule' : Subscription => ∃ t, rule' = { rule with updatedAt := t })
          rule rule := by
      cases rule with
      | none => exact .none
      | some rule => exact .some ⟨rule.updatedAt, rfl⟩
    by_cases late : ∃ id ∈ few, σ₀.owes k id = true
    · obtain ⟨id, hid, owes⟩ := late
      rw [h.struck k id (among hid) owes, h'.struck k id hid owes]
      cases σ₀.subscriptions.get? k with
      | none => exact .none
      | some rule =>
        refine .some ?_
        cases (σ₀.outcomeOf env outside moments id).bind Outcome.update with
        | none => exact ⟨rule.updatedAt, rfl⟩
        | some u => exact ⟨t' id, rfl⟩
    · simp only [not_exists, not_and, Bool.not_eq_true] at late
      rw [h'.rested k late]
      by_cases early : ∃ id ∈ all, σ₀.owes k id = true
      · obtain ⟨id, hid, owes⟩ := early
        have left : id ∉ few := by
          intro again
          rw [late id again] at owes
          cases owes
        rw [h.struck k id hid owes, (nothing id hid left).1]
        simpa using refl _
      · simp only [not_exists, not_and, Bool.not_eq_true] at early
        rw [h.rested k early]
        exact refl _
  · rw [h.outbox, h'.outbox]
    refine List.Perm.append_left _ (Rounds.perm_flatMap_of_subset distinct distinct' among ?_)
    intro id hid left
    rw [(nothing id hid left).1]
    rfl
  · rw [h.sent, h'.sent]
    exact List.Perm.append_left _ (Rounds.perm_flatMap_of_subset distinct distinct' among
      fun id hid left => (nothing id hid left).2)

/-- Where nobody else is due, an event dispatched inline and one dispatched deferred with a drain
behind it come to the same. -/
theorem inline_agrees {now : Time} {limit : ℕ} {planned : List Delivery} (deaf : outside.Deaf)
    (deferred : inlineDispatch env = false)
    (returned : (dispatchEventOn env event (fun id => (plannings id).alone) s.store.autocommit).1 =
      .ok planned)
    (quiet : ∀ row ∈ s.store.deliveries.rows, row.isDueAt now = false)
    (order : ∀ id, (plannings id).now ≤ now) (late : ∀ id, now ≤ (moments id).claimed)
    (leases : ∀ id, env.settings.canLease (moments id).claimed = true)
    (room : planned.length ≤ limit) :
    Agree env moments (s.dispatch env.inline outside event plannings moments)
      ((s.dispatch env outside event plannings moments).drain env outside moments now limit) := by
  obtain ⟨τ, rows, left, left', none, all⟩ := dispatchEvent_returned returned
  obtain ⟨among, ended⟩ := rows.dueIds quiet order room
  have batch := firstDue_dueIds τ now limit
  have inline : s.dispatch env.inline outside event plannings moments =
      (planned.map (·.id)).foldl (fun s id => s.attempt env outside (moments id) id)
        { s with store := τ } := by
    unfold Site.dispatch
    dsimp only
    rw [left', all]
    rfl
  have deferral : (s.dispatch env outside event plannings moments).drain env outside moments now
      limit = (τ.dueIds now limit).foldl (Site.drainOne env outside moments)
        { s with store := τ } := by
    unfold Site.dispatch Site.drain
    dsimp only
    rw [left, none deferred, List.foldl_nil, leasable_eq fun id _ => leases id]
  rw [inline, deferral]
  refine agree_of_turned
    (turned_inline (s := { s with store := τ }) deaf (rows.independent rows.distinct fun _ h => h))
    (turned_drain (s := { s with store := τ }) deaf (rows.independent batch.nodup among) late leases
      batch.due)
    batch.nodup rows.distinct among ?_ ?_
  · intro id hid row stored
    obtain ⟨found, hfound, due⟩ := batch.due id hid
    cases stored.symm.trans hfound
    obtain ⟨row', hrow', own⟩ := List.mem_map.1 (among hid)
    have stored' := rows.stored row' hrow'
    rw [own] at stored'
    cases stored.symm.trans stored'
    obtain ⟨rule, rfl⟩ := rows.drawn row hrow'
    have waits := Delivery.isDue_iff _ |>.1 (Delivery.isDueAt_iff.1 due).1
    cases big : oversized env event.data with
    | true => simp [plannedRow, planDelivery, Delivery.inserted, big] at waits
    | false => simp [plannedRow, planDelivery, Delivery.inserted, big]
  · intro id hid unselected
    obtain ⟨row, hrow, rfl⟩ := List.mem_map.1 hid
    exact ⟨row, rows.stored row hrow, ended row hrow unselected⟩

/-- Two rules that hear the event, and an older row that is to be tried later. -/
def modesStore : Store :=
  { sampleStore with
    subscriptions := twoRules.view.subscriptions
    deliveries := ⟨[{ earlierRow with status := .retrying, nextAttemptAt := some 1000 }],
      by decide, by decide⟩ }

def modesPlannings (id : Uuid) : Planning :=
  ⟨if id = sampleRule.id then sampleUuid 2 else sampleUuid 3, 0, 0, fun σ => σ⟩

/-- Both frames are sent. -/
theorem inline_agrees_two :
    let inline := modesStore.site.dispatch sampleEnv.inline silentOutside sampleEvent
      modesPlannings fun _ => sampleMoment
    let deferred := (modesStore.site.dispatch sampleEnv silentOutside sampleEvent
      modesPlannings fun _ => sampleMoment).drain sampleEnv silentOutside
        (fun _ => sampleMoment) 1 10
    Agree sampleEnv (fun _ => sampleMoment) inline deferred ∧ inline.sent.length = 2 := by
  have deaf : silentOutside.Deaf := ⟨fun _ => rfl, fun _ => rfl, fun _ => rfl, fun _ => rfl⟩
  have quiet : ∀ row ∈ modesStore.site.store.deliveries.rows, row.isDueAt 1 = false := by
    decide +kernel
  obtain ⟨planned, returned, few⟩ : ∃ planned, (dispatchEventOn sampleEnv sampleEvent
      (fun id => (modesPlannings id).alone) modesStore.site.store.autocommit).1 = .ok planned ∧
        planned.length = 2 := ⟨_, rfl, rfl⟩
  have leases (_ : Uuid) : sampleEnv.settings.canLease 1 = true := by decide +kernel
  exact ⟨inline_agrees deaf (by decide) returned quiet (fun _ => zero_le_one) (fun _ => le_rfl)
    leases (by omega), by decide +kernel⟩

end

end Webhooks
