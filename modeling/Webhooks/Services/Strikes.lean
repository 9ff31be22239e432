import Webhooks.Library.CircuitBreaker
import Webhooks.Store

/-!
# The strike machine is a circuit breaker

`is_active`, `consecutive_failures` and `disabled_at` of a rule are a circuit
breaker with the limit `DISABLE_AFTER_DEAD`. What `_apply` and
`update_subscription` save on a rule is the breaker's step, as long as the copy
they worked on has the health that is stored.
-/
namespace Webhooks

open CircuitBreaker (Op)

def Subscription.health (rule : Subscription) : CircuitBreaker.State Time :=
  ⟨rule.isActive, rule.consecutiveFailures, rule.disabledAt⟩

/-- `DISABLE_AFTER_DEAD` is set, and reached. -/
def strikesOut (env : Env) (failures : Nat) : Bool :=
  env.settings.disableAfterDead ≠ 0 ∧ env.settings.disableAfterDead ≤ failures

theorem strikesOut_iff {env : Env} {failures : Nat} : strikesOut env failures = true ↔
    env.settings.disableAfterDead ≠ 0 ∧ env.settings.disableAfterDead ≤ failures := by
  simp [strikesOut]

theorem strikesOut_zero {env : Env} (positive : 0 < env.settings.disableAfterDead) :
    strikesOut env 0 = false := by
  rw [Bool.eq_false_iff, Ne, strikesOut_iff]
  omega

/-- When a dead letter disables the rule; the time of one that does not is never read. -/
def Outcome.strikeTime (o : Outcome) : Time :=
  match o.update with
  | some (.disable _ now) => now
  | _ => o.row.updatedAt

/-- What an outcome is to the breaker. -/
def Outcome.op (o : Outcome) : Op Time :=
  match o.row.status with
  | .succeeded => .success
  | .dead => .failure o.strikeTime
  | _ => .neutral

/-- What a patch is to the breaker. -/
def Changes.op (changes : Changes) : Op Time :=
  match changes.isActive with
  | none => .neutral
  | some false => .disable
  | some true => .enable

theorem Changes.op_isFailure (changes : Changes) : changes.op.isFailure = false := by
  unfold Changes.op
  rcases changes.isActive with _ | _ | _ <;> rfl

/-- What a write is to the breaker of the rule it is about. -/
def Write.op : Write → Op Time
  | .outcome o => o.op
  | .patch _ changes => changes.op
  | _ => .neutral

/-- A fact that this rule was disabled by its strikes. -/
def BusEvent.disables (id : Uuid) (event : BusEvent) : Bool :=
  event.topic = subscriptionDisabled && event.key = id.str

variable {env : Env} {now later t : Time} {draw : UnitDraw} {row : Delivery}
  {copy rule : Subscription} {result : DeliveryResult} {o : Outcome}

/-- A dead letter disables the rule exactly when it trips the breaker. -/
theorem registerFailure_eq : registerFailure env rule now =
    if rule.health.trips (strikesOut env) (.failure t) then
      .disable (rule.consecutiveFailures + 1) now
    else .strike (rule.consecutiveFailures + 1) := by
  refine if_congr ?_ rfl rfl
  simp only [CircuitBreaker.State.trips, Op.isFailure, Subscription.health, Bool.true_and,
    Bool.and_eq_true, strikesOut_iff]
  constructor
  · rintro ⟨set, reached, active⟩; exact ⟨active, set, reached⟩
  · rintro ⟨active, set, reached⟩; exact ⟨set, reached, active⟩

/-- The stored rule after an outcome, where the copy `_apply` worked on was not stale. -/
theorem Applied.health (h : Applied env now later draw row copy result o)
    (fresh : o.row.status = .dead →
      rule.consecutiveFailures = copy.consecutiveFailures ∧ rule.isActive = copy.isActive)
    (kept : o.row.status = .succeeded → o.update = none → rule.consecutiveFailures = 0) :
    (o.update.elim rule fun u => u.saveOn t rule).health =
      rule.health.step (strikesOut env) o.op := by
  cases h with
  | succeeded ok =>
    have kept := kept rfl
    simp only [registerSuccess] at kept ⊢
    split
    · rfl
    · next skipped =>
      rw [if_neg skipped] at kept
      simp [Subscription.health, CircuitBreaker.State.step, Outcome.op, Delivery.succeed, kept rfl]
  | retrying delay _ _ _ _ => rfl
  | dead _ _ =>
    obtain ⟨strikes, active⟩ := fresh rfl
    have same : rule.health.trips (strikesOut env) (.failure later) =
        copy.health.trips (strikesOut env) (.failure later) := by
      simp [CircuitBreaker.State.trips, Subscription.health, strikes, active]
    simp only [registerFailure_eq (t := later), Option.elim_some, Outcome.op, Delivery.die,
      Outcome.strikeTime]
    by_cases trips : copy.health.trips (strikesOut env) (.failure later) = true
    · simp only [if_pos trips, CircuitBreaker.State.step, same.trans trips, if_true]
      simp [RuleUpdate.saveOn, RuleUpdate.apply, Subscription.saved, Subscription.health, strikes]
    · have still : ∀ t', rule.health.trips (strikesOut env) (.failure t') = false :=
        fun t' => Bool.eq_false_iff.2 fun h => trips (same.symm.trans h)
      simp only [if_neg trips, CircuitBreaker.State.step, still, Bool.false_eq_true, if_false]
      simp [RuleUpdate.saveOn, RuleUpdate.apply, Subscription.saved, Subscription.health, strikes]

/-- A success that writes nothing on the rule had nothing to reset in its copy. -/
theorem Applied.nothing_to_reset (h : Applied env now later draw row copy result o)
    (ok : o.row.status = .succeeded) (skipped : o.update = none) :
    copy.consecutiveFailures = 0 := by
  cases h with
  | succeeded _ =>
    simp only [registerSuccess] at skipped
    split at skipped
    · cases skipped
    · next same => by_contra some; exact same (.inl some)
  | retrying _ _ _ _ _ => cases ok
  | dead _ _ => cases ok

/-- The facts an outcome puts on the bus about the rule being disabled. -/
theorem Applied.disabled (h : Applied env now later draw row copy result o) :
    o.events.filter (·.disables copy.id) =
      if copy.health.trips (strikesOut env) o.op then
        [emitSubscriptionDisabled copy (disabledReason (copy.consecutiveFailures + 1))]
      else [] := by
  cases h with
  | succeeded _ => rfl
  | retrying _ _ _ _ _ => rfl
  | dead _ _ =>
    have other : (emitDeliveryDead ((row.tried result now).die now)).disables copy.id = false := rfl
    rw [List.filter_append, List.filter_singleton, other, Bool.cond_false, List.append_nil]
    show List.filter (·.disables copy.id) ((registerFailure env copy later).events copy) =
      if copy.health.trips (strikesOut env) (.failure later) then _ else _
    rw [registerFailure_eq (t := later)]
    by_cases trips : copy.health.trips (strikesOut env) (.failure later) = true
    · rw [if_pos trips, if_pos trips]
      simp [RuleUpdate.events, BusEvent.disables, emitSubscriptionDisabled]
    · rw [if_neg trips, if_neg trips]
      rfl

/-- Facts about one rule do not say that another was disabled. -/
theorem Applied.disabled_other (h : Applied env now later draw row copy result o) {id : Uuid}
    (other : copy.id ≠ id) : o.events.filter (·.disables id) = [] := by
  have about : ∀ u : RuleUpdate, (u.events copy).filter (·.disables id) = [] := by
    intro u
    cases u with
    | disable failures now =>
      have key : copy.id.str ≠ id.str := fun same => other (Uuid.str_injective same)
      simp [RuleUpdate.events, BusEvent.disables, emitSubscriptionDisabled, key]
    | _ => rfl
  cases h with
  | succeeded _ => rfl
  | retrying _ _ _ _ _ => rfl
  | dead _ _ => rw [List.filter_append, about]; rfl

theorem health_setActive (changes : Changes) :
    (rule.setActive changes.isActive).health = rule.health.step (strikesOut env) changes.op := by
  unfold Changes.op
  rcases changes.isActive with _ | _ | _ <;> rfl

/-- The rule an update saves has the health its copy had, stepped. -/
theorem health_updateSubscription {new : Subscription} {changes : Changes}
    (h : updateSubscription env rule changes = .ok new) :
    new.health = rule.health.step (strikesOut env) changes.op := by
  rw [updateSubscription_eq_ok h]
  exact health_setActive changes

end Webhooks
