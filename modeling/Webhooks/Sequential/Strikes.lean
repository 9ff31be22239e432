import Webhooks.Services.Strikes
import Webhooks.System.Runs

/-!
# The strike machine, one operation at a time

Outcomes and patches of one rule, each on a fresh load and run to its end before
the next. An operation that raises, is refused, or that the database does not
take leaves no trace. The columns of the rule and the facts on the bus are those
of a circuit breaker run over the operations that committed.
-/
namespace Webhooks

open CircuitBreaker (Op sinceReset)

/-- An outcome `_apply` writes for a delivery of the rule, or a patch of the rule. -/
inductive RuleOp where
  | outcome (row : Delivery) (result : DeliveryResult) (now later : Time) (draw : UnitDraw)
  | update (changes : Changes)

section
variable (env : Env)

/-- What the operation writes, on a fresh load of the rule. -/
def RuleOp.write (rule : Subscription) : RuleOp → Option Write
  | .outcome row result now later draw =>
    match apply env now later draw row rule result with
    | .ok o => some (.outcome o)
    | .error _ => none
  | .update changes =>
    match updateSubscription env rule changes with
    | .ok new => some (.patch new changes)
    | .error _ => none

/-- The write an operation commits to the store, if it commits any, and the store after it. -/
def committed (id : Uuid) (σ : Store) (op : RuleOp) : Option (Write × Store) := do
  let rule ← σ.subscriptions.get? id
  let w ← op.write env rule
  let σ' ← exec env σ w
  return (w, σ')

def perform (id : Uuid) (σ : Store) (op : RuleOp) : Store :=
  ((committed env id σ op).map Prod.snd).getD σ

def performAll (id : Uuid) (σ : Store) (ops : List RuleOp) : Store := ops.foldl (perform env id) σ

/-- What an operation turned out to be: a success, a dead letter, a switch, or nothing. -/
def effect (id : Uuid) (σ : Store) (op : RuleOp) : Op Time :=
  ((committed env id σ op).map fun p => p.1.op).getD .neutral

def history (id : Uuid) (σ : Store) : List RuleOp → List (Op Time)
  | [] => []
  | op :: ops => effect env id σ op :: history id (perform env id σ op) ops

def isActiveIn (id : Uuid) (σ : Store) : Bool := (σ.subscriptions.get? id).any (·.isActive)

/-- The last operation that turned the rule from active to inactive. -/
def lastDeactivation (id : Uuid) (σ : Store) : List RuleOp → Option (Op Time)
  | [] => none
  | op :: ops =>
    (lastDeactivation id (perform env id σ op) ops).or
      (if isActiveIn id σ && !isActiveIn id (perform env id σ op) then some (effect env id σ op)
        else none)

end

variable {env : Env} {id : Uuid} {σ : Store} {rule start : Subscription} {op : RuleOp}
  {ops : List RuleOp}

theorem performAll_snoc :
    performAll env id σ (ops ++ [op]) = perform env id (performAll env id σ ops) op := by
  simp [performAll]

theorem history_snoc : history env id σ (ops ++ [op]) =
    history env id σ ops ++ [effect env id (performAll env id σ ops) op] := by
  induction ops generalizing σ with
  | nil => rfl
  | cons first ops ih => exact congrArg (_ :: ·) ih

theorem committed_eq_some {w : Write} {σ' : Store} :
    committed env id σ op = some (w, σ') ↔ ∃ rule, σ.subscriptions.get? id = some rule ∧
      op.write env rule = some w ∧ exec env σ w = some σ' := by
  simp only [committed, Option.bind_eq_bind, Option.bind_eq_some_iff, Option.pure_def,
    Option.some.injEq, Prod.mk.injEq]
  constructor
  · rintro ⟨rule, hrule, w', hw, σ'', hexec, rfl, rfl⟩; exact ⟨rule, hrule, hw, hexec⟩
  · rintro ⟨rule, hrule, hw, hexec⟩; exact ⟨rule, hrule, w, hw, σ', hexec, rfl, rfl⟩

/-- The facts a store has on the bus about the rule being disabled. -/
def disablings (id : Uuid) (σ : Store) : List BusEvent := σ.outbox.filter (·.disables id)

/-- A committed operation is one step of the breaker, and says so when it trips. -/
theorem RuleOp.commit {w : Write} {σ' : Store} (h : σ.subscriptions.get? id = some rule)
    (hw : op.write env rule = some w) (hexec : exec env σ w = some σ') :
    (∃ rule', σ'.subscriptions.get? id = some rule' ∧
      rule'.health = rule.health.step (strikesOut env) w.op) ∧
    disablings id σ' = disablings id σ ++
      if rule.health.trips (strikesOut env) w.op then
        [emitSubscriptionDisabled rule (disabledReason (rule.consecutiveFailures + 1))]
      else [] := by
  have key : rule.id = id := Table.key_of_get? h
  have rules := exec_subscriptions hexec id
  rw [disablings, exec_outbox hexec, List.filter_append, ← disablings]
  rw [h] at rules
  cases op with
  | outcome row result now later draw =>
    simp only [RuleOp.write] at hw
    split at hw
    · next o happly =>
      cases hw
      have applied := applied_of_apply happly
      have about : o.rule = id := applied.ruleId.trans key
      refine ⟨⟨_, rules.trans (if_pos about.symm), ?_⟩, ?_⟩
      · exact applied.health (fun _ => ⟨rfl, rfl⟩) applied.nothing_to_reset
      · rw [← key]
        exact congrArg _ applied.disabled
    · cases hw
  | update changes =>
    simp only [RuleOp.write] at hw
    split at hw
    · next new saved =>
      cases hw
      refine ⟨⟨new.saved σ.clock true, rules.trans (if_pos ?_), ?_⟩, ?_⟩
      · rw [updateSubscription_id saved, key]
      · exact (health_updateSubscription saved : new.health = _)
      · rw [show (Write.patch new changes).op = changes.op from rfl, CircuitBreaker.State.trips,
          changes.op_isFailure]
        rfl
    · cases hw

/-- One operation is one step of the breaker, and says so when it trips. -/
theorem perform_health (h : σ.subscriptions.get? id = some rule) (op : RuleOp) :
    (∃ rule', (perform env id σ op).subscriptions.get? id = some rule' ∧
      rule'.health = rule.health.step (strikesOut env) (effect env id σ op)) ∧
    disablings id (perform env id σ op) = disablings id σ ++
      if rule.health.trips (strikesOut env) (effect env id σ op) then
        [emitSubscriptionDisabled rule (disabledReason (rule.consecutiveFailures + 1))]
      else [] := by
  unfold perform effect
  cases hc : committed env id σ op with
  | none => exact ⟨⟨rule, h, rfl⟩, by simp [CircuitBreaker.State.trips, Op.isFailure]⟩
  | some p =>
    obtain ⟨w, σ'⟩ := p
    obtain ⟨rule', hrule', hw, hexec⟩ := committed_eq_some.1 hc
    rw [h] at hrule'
    cases hrule'
    exact RuleOp.commit h hw hexec

/-- After any operations the rule is the breaker after what they turned out to be. -/
theorem performAll_health (h : σ.subscriptions.get? id = some start) (ops : List RuleOp) :
    ∃ rule, (performAll env id σ ops).subscriptions.get? id = some rule ∧
      rule.health = start.health.run (strikesOut env) (history env id σ ops) := by
  induction ops using List.reverseRecOn with
  | nil => exact ⟨start, h, rfl⟩
  | append_singleton ops op ih =>
    obtain ⟨rule, hrule, health⟩ := ih
    obtain ⟨⟨rule', hrule', step⟩, -⟩ := perform_health hrule op
    refine ⟨rule', by rw [performAll_snoc]; exact hrule', ?_⟩
    rw [step, health, history_snoc, CircuitBreaker.State.run_snoc]

theorem lastDeactivation_eq (h : σ.subscriptions.get? id = some start) :
    lastDeactivation env id σ ops =
      start.health.lastDrop (strikesOut env) (history env id σ ops) := by
  induction ops generalizing σ start with
  | nil => rfl
  | cons op ops ih =>
    obtain ⟨⟨rule', hrule', step⟩, -⟩ := perform_health h op
    have before : isActiveIn id σ = start.health.active := by rw [isActiveIn, h]; rfl
    have after : isActiveIn id (perform env id σ op) =
        (start.health.step (strikesOut env) (effect env id σ op)).active := by
      rw [isActiveIn, hrule', ← step]; rfl
    rw [lastDeactivation, history, CircuitBreaker.State.lastDrop, ih hrule', step, before, after]

/-- From a rule that was just created, with `DISABLE_AFTER_DEAD` positive, and after any
operations: the count is that of the dead letters since the last success or re-activation; an
active rule is below the limit and shows no `disabled_at`; an inactive one shows it exactly if
its last deactivation was a dead letter; and the next operation deactivates the rule by strikes,
with one fact on the bus, exactly if it is a dead letter that brings the count of an active rule
to the limit. -/
theorem strike_machine_exact (positive : 0 < env.settings.disableAfterDead)
    (created : σ.subscriptions.get? id = some start) (fresh : start.health = .fresh)
    (ops : List RuleOp) :
    ∃ rule, (performAll env id σ ops).subscriptions.get? id = some rule ∧
      rule.consecutiveFailures = sinceReset (history env id σ ops) ∧
      (rule.isActive = true → (rule.consecutiveFailures : Int) < env.settings.disableAfterDead ∧
        rule.disabledAt = none) ∧
      (rule.disabledAt.isSome = true ↔ rule.isActive = false ∧
        ∃ op, lastDeactivation env id σ ops = some op ∧ op.isFailure = true) ∧
      ∀ op, ∃ rule', (performAll env id σ (ops ++ [op])).subscriptions.get? id = some rule' ∧
        let dead := (effect env id (performAll env id σ ops) op).isFailure = true
        let reached := env.settings.disableAfterDead ≤
          (sinceReset (history env id σ (ops ++ [op])) : Int)
        (dead ∧ rule.isActive = true ∧ rule'.isActive = false ↔
          dead ∧ rule.isActive = true ∧ reached) ∧
        (dead ∧ rule.isActive = true ∧ reached →
          disablings id (performAll env id σ (ops ++ [op])) =
            disablings id (performAll env id σ ops) ++
              [emitSubscriptionDisabled rule (disabledReason rule'.consecutiveFailures)]) ∧
        (¬(dead ∧ rule.isActive = true ∧ reached) →
          disablings id (performAll env id σ (ops ++ [op])) =
            disablings id (performAll env id σ ops)) := by
  have zero := strikesOut_zero positive
  have limit : ∀ n : Nat, strikesOut env n = true ↔ env.settings.disableAfterDead ≤ (n : Int) :=
    fun n => strikesOut_iff.trans ⟨And.right, fun h => ⟨positive.ne', h⟩⟩
  obtain ⟨rule, hrule, health⟩ := performAll_health created ops
  rw [fresh] at health
  have sound : rule.health.Sound (strikesOut env) := by
    rw [health]; exact (CircuitBreaker.State.sound_fresh zero).run zero
  refine ⟨rule, hrule, ?_, fun active => ⟨?_, sound.untripped active⟩, ?_, ?_⟩
  · calc rule.consecutiveFailures
        = (CircuitBreaker.State.fresh.run (strikesOut env) (history env id σ ops)).strikes :=
          congrArg CircuitBreaker.State.strikes health
      _ = sinceReset (history env id σ ops) := CircuitBreaker.State.strikes_run
  · have below := sound.below active
    rw [Bool.eq_false_iff, Ne, limit] at below
    exact not_le.1 below
  · rw [lastDeactivation_eq created, fresh]
    have tripped := CircuitBreaker.State.trippedAt_run zero (history env id σ ops)
    rw [← health] at tripped
    exact tripped
  · intro op
    obtain ⟨⟨rule', hrule', step⟩, facts⟩ := perform_health hrule op
    rw [← performAll_snoc] at hrule' facts
    have trips : rule.health.trips (strikesOut env) (effect env id (performAll env id σ ops) op)
          = true ↔ (effect env id (performAll env id σ ops) op).isFailure = true ∧
        rule.isActive = true ∧
        env.settings.disableAfterDead ≤ (sinceReset (history env id σ (ops ++ [op])) : Int) := by
      rw [health, CircuitBreaker.State.trips_iff, ← history_snoc, limit, ← health]
      rfl
    refine ⟨rule', hrule', ?_, fun reached => ?_, fun quiet => ?_⟩
    · rw [← trips, CircuitBreaker.State.trips_iff_drops, ← step]
      rfl
    · have tripped := trips.2 reached
      have strikes : rule'.consecutiveFailures = rule.consecutiveFailures + 1 := by
        have count := congrArg CircuitBreaker.State.strikes step
        rw [CircuitBreaker.State.strikes_of_trips tripped] at count
        exact count
      rw [facts, if_pos tripped, strikes]
    · rw [facts, if_neg (fun tripped => quiet (trips.1 tripped)), List.append_nil]

def deadLetter : RuleOp :=
  .outcome sampleRow { ok := false, retryable := false } 5 5 sampleDraw

def reactivated : List RuleOp := [deadLetter, .update { isActive := some true }, deadLetter]

/-- One strike allowed: a dead letter, a re-activation that clears it, and a dead letter again. -/
theorem strike_machine_exact_twice : ∃ rule,
    (performAll oneStrike sampleRule.id sampleRowStore reactivated).subscriptions.get?
        sampleRule.id = some rule ∧
      rule.consecutiveFailures = 1 ∧ rule.isActive = false ∧ rule.disabledAt.isSome = true := by
  obtain ⟨rule, hrule, count, -, shown, -⟩ :=
    strike_machine_exact (show 0 < oneStrike.settings.disableAfterDead by decide)
      (show sampleRowStore.subscriptions.get? sampleRule.id = some sampleRule from rfl) rfl
      reactivated
  have once : sinceReset (history oneStrike sampleRule.id sampleRowStore reactivated) = 1 := by
    decide +kernel
  have off : isActiveIn sampleRule.id
      (performAll oneStrike sampleRule.id sampleRowStore reactivated) = false := by
    decide +kernel
  have byStrikes : (lastDeactivation oneStrike sampleRule.id sampleRowStore reactivated).any
      Op.isFailure = true := by
    decide +kernel
  rw [isActiveIn, hrule] at off
  exact ⟨rule, hrule, count.trans once, off, shown.2 ⟨off, (Option.any_eq_true _ _).1 byStrikes⟩⟩

end Webhooks
