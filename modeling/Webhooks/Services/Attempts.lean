import Mathlib.Data.Rat.Cast.Order
import Mathlib.Order.Interval.Set.Defs
import Webhooks.Deliveries
import Webhooks.Errors
import Webhooks.Events

/-!
# The attempt machine

One try at one delivery: the context a handler gets, what its behaviour counts
as, and the outcome `_apply` writes — the whole row, some columns of the rule
and the facts for the bus, in one transaction.
-/
namespace Webhooks

/-- What `random.random()` draws. -/
abbrev UnitDraw := Set.Icc (0 : ℚ) 1

/-- The least power that no longer rounds to a finite double. -/
def floatOverflow : ℚ := 2 ^ 1024 - 2 ^ 970

section
variable (env : Env)

/-- `random.uniform(-ratio, ratio)`. -/
def uniform (ratio : ℚ) (draw : UnitDraw) : ℚ := -ratio + 2 * ratio * draw.1

/-- Exponential backoff with a cap and jitter, in seconds. -/
def backoffSeconds (attemptNumber : Nat) (draw : UnitDraw) : Except PyException ℚ :=
  let base := env.settings.base
  let factor := env.settings.factor
  let cap := env.settings.cap
  let ratio := env.settings.jitterRatio
  let power := factor ^ (attemptNumber - 1)
  if floatOverflow ≤ |power| then
    .error ⟨"OverflowError", some "(34, 'Numerical result out of range')"⟩
  else
    let delay := min (base * power) cap
    .ok (max 0 (delay + delay * uniform ratio draw))

/-- `now + timedelta(seconds=backoff_seconds(attempts))`. -/
def retryDate (now : Time) (attemptNumber : Nat) (draw : UnitDraw) : Except PyException Time := do
  addSeconds now (← backoffSeconds env attemptNumber draw)

def buildContext (row : Delivery) (rule : Subscription) : DeliveryContext where
  deliveryId := row.id.str
  subscriptionId := rule.id.str
  eventType := row.eventType
  eventId := row.eventId
  payload := row.payload.orEmpty
  target := rule.target.orEmpty
  secret := rule.secret
  attempt := row.attempts + 1
  createdAt := some row.createdAt

/-- The result `attempt` passes to `_apply`, unless an exception leaves `attempt`: the
exception's own text may raise, and so may the fields of a malformed result. -/
def Behaviour.result : Behaviour → Except PyException DeliveryResult
  | .returned result => .ok result
  | .malformed exc => .error exc
  | .returnedOther => .ok { ok := true }
  | .raised exc =>
    match exc.text with
    | some text => .ok { ok := false, retryable := true, detail := exc.typeName ++ ": " ++ text }
    | none => .error exc

/-- The result of a delivery whose type is no longer in the registry. -/
def unknownTypeResult (text : String) : DeliveryResult :=
  { ok := false, retryable := false, detail := text }

/-! ## The delay of a retry -/

/-- `min(base * factor^(n-1), cap)`. -/
def Settings.plannedDelay (settings : Settings) (n : Nat) : ℚ :=
  min (settings.base * settings.factor ^ (n - 1)) settings.cap

/-- The planned delay with its jitter, and never below zero. -/
def Settings.jitteredDelay (settings : Settings) (n : Nat) (draw : UnitDraw) : ℚ :=
  max 0 (settings.plannedDelay n + settings.plannedDelay n * uniform settings.jitterRatio draw)

/-- A retry that attempt `n` asks for at `now` has a date: the power of its backoff is a finite
float, and the delay does not lead out of the calendar. -/
structure Schedulable (settings : Settings) (now : Time) (n : Nat) (draw : UnitDraw) : Prop where
  finite : |settings.factor| ^ (n - 1) < floatOverflow
  dated : isDate (now + settings.jitteredDelay n draw) = true

section
variable {env : Env} {n : Nat} {draw : UnitDraw} {now next : Time} {delay : ℚ}

theorem backoffSeconds_eq_ok : backoffSeconds env n draw = .ok delay ↔
    |env.settings.factor| ^ (n - 1) < floatOverflow ∧
      delay = env.settings.jitteredDelay n draw := by
  simp only [backoffSeconds, abs_pow]
  split
  · next infinite => simp [not_lt.2 infinite]
  · next finite =>
    simp only [Except.ok.injEq, not_le.1 finite, true_and]
    exact eq_comm

theorem retryDate_eq_ok : retryDate env now n draw = .ok next ↔
    ∃ delay, backoffSeconds env n draw = .ok delay ∧ isDate (now + delay) = true ∧
      next = now + delay := by
  unfold retryDate
  cases backoffSeconds env n draw with
  | error exc => simp [bind, Except.bind]
  | ok delay => simpa [bind, Except.bind] using addSeconds_eq_ok

theorem schedulable_iff :
    Schedulable env.settings now n draw ↔ ∃ next, retryDate env now n draw = .ok next := by
  constructor
  · rintro ⟨finite, dated⟩
    exact ⟨_, retryDate_eq_ok.2 ⟨_, backoffSeconds_eq_ok.2 ⟨finite, rfl⟩, dated, rfl⟩⟩
  · rintro ⟨next, h⟩
    obtain ⟨delay, hdelay, dated, -⟩ := retryDate_eq_ok.1 h
    obtain ⟨finite, rfl⟩ := backoffSeconds_eq_ok.1 hdelay
    exact ⟨finite, dated⟩

end

/-! ## The outcome -/

/-- The columns of the rule `_apply` and `_register_failure` save. -/
inductive RuleUpdate where
  | success (now : Time)
  | strike (failures : Nat)
  | disable (failures : Nat) (now : Time)
deriving DecidableEq

/-- The strike count it saves. -/
def RuleUpdate.failures : RuleUpdate → Nat
  | .success _ => 0
  | .strike failures => failures
  | .disable failures _ => failures

def RuleUpdate.apply (rule : Subscription) : RuleUpdate → Subscription
  | .success now => { rule with consecutiveFailures := 0, lastDeliveryAt := some now }
  | .strike failures => { rule with consecutiveFailures := failures }
  | .disable failures now =>
    { rule with consecutiveFailures := failures, isActive := false, disabledAt := some now }

/-- What one attempt commits. -/
structure Outcome where
  row : Delivery
  rule : Uuid
  update : Option RuleUpdate
  events : List BusEvent

/-- `_register_failure`: the strike, and whether it disables the rule. -/
def registerFailure (rule : Subscription) (now : Time) : RuleUpdate :=
  let threshold := env.settings.disableAfterDead
  let failures := rule.consecutiveFailures + 1
  if threshold ≠ 0 ∧ threshold ≤ failures ∧ rule.isActive then .disable failures now
  else .strike failures

def disabledReason (failures : Nat) : String :=
  toString failures ++ " consecutive dead-lettered deliveries"

def RuleUpdate.events (rule : Subscription) : RuleUpdate → List BusEvent
  | .disable failures _ => [emitSubscriptionDisabled rule (disabledReason failures)]
  | _ => []

/-- The row with the bookkeeping every outcome shares. -/
def Delivery.tried (row : Delivery) (result : DeliveryResult) (now : Time) : Delivery :=
  { row with
    attempts := row.attempts + 1
    lastAttemptAt := some now
    responseStatus := result.statusCode
    lastError := String.ofList (result.detail.toList.take 2000) }

def Delivery.succeed (row : Delivery) (now : Time) : Delivery :=
  { row with status := .succeeded, completedAt := some now, nextAttemptAt := none, lastError := "" }

def Delivery.retryAt (row : Delivery) (next : Time) : Delivery :=
  { row with status := .retrying, nextAttemptAt := some next }

def Delivery.die (row : Delivery) (now : Time) : Delivery :=
  { row with status := .dead, completedAt := some now, nextAttemptAt := none }

/-- The columns a success saves on the rule, when there is something to save. -/
def registerSuccess (rule : Subscription) (now : Time) : Option RuleUpdate :=
  if rule.consecutiveFailures ≠ 0 ∨ rule.lastDeliveryAt ≠ some now then some (.success now)
  else none

/-- `_apply`; `now` and `later` are its two readings of the clock. -/
def apply (now later : Time) (draw : UnitDraw) (row : Delivery) (rule : Subscription)
    (result : DeliveryResult) : Except PyException Outcome :=
  let tried := row.tried result now
  if result.ok then
    let row := tried.succeed now
    .ok ⟨row, rule.id, registerSuccess rule now, [emitDeliverySucceeded row]⟩
  else if result.retryable ∧ (tried.attempts : Int) < env.settings.attemptLimit then
    match retryDate env now tried.attempts draw with
    | .ok next => .ok ⟨tried.retryAt next, rule.id, none, []⟩
    | .error exc => .error exc
  else
    let row := tried.die now
    let update := registerFailure env rule later
    .ok ⟨row, rule.id, some update, update.events rule ++ [emitDeliveryDead row]⟩

/-- The three outcomes of `_apply`, each with the test that leads to it. -/
inductive Applied (now later : Time) (draw : UnitDraw) (row : Delivery) (rule : Subscription)
    (result : DeliveryResult) : Outcome → Prop where
  | succeeded : result.ok = true →
      Applied now later draw row rule result
        ⟨(row.tried result now).succeed now, rule.id, registerSuccess rule now,
          [emitDeliverySucceeded ((row.tried result now).succeed now)]⟩
  | retrying (delay : ℚ) : result.ok = false → result.retryable = true →
      ((row.attempts + 1 : Nat) : Int) < env.settings.attemptLimit →
      backoffSeconds env (row.attempts + 1) draw = .ok delay → isDate (now + delay) = true →
      Applied now later draw row rule result
        ⟨(row.tried result now).retryAt (now + delay), rule.id, none, []⟩
  | dead : result.ok = false →
      ¬(result.retryable = true ∧ ((row.attempts + 1 : Nat) : Int) < env.settings.attemptLimit) →
      Applied now later draw row rule result
        ⟨(row.tried result now).die now, rule.id, some (registerFailure env rule later),
          (registerFailure env rule later).events rule ++
            [emitDeliveryDead ((row.tried result now).die now)]⟩

variable {env} in
theorem applied_of_apply {now later : Time} {draw : UnitDraw} {row : Delivery}
    {rule : Subscription} {result : DeliveryResult} {o : Outcome}
    (h : apply env now later draw row rule result = .ok o) :
    Applied env now later draw row rule result o := by
  unfold apply at h
  dsimp only at h
  split at h
  · next hok => cases h; exact .succeeded hok
  · next hok =>
    rw [Bool.not_eq_true] at hok
    split at h
    · next hmore =>
      split at h
      · next next hnext =>
        cases h
        obtain ⟨delay, hdelay, date, rfl⟩ := retryDate_eq_ok.1 hnext
        exact .retrying delay hok hmore.1 hmore.2 hdelay date
      · cases h
    · next hlast => cases h; exact .dead hok hlast

section
variable {env : Env} {now later : Time} {draw : UnitDraw} {row : Delivery} {rule : Subscription}
  {result : DeliveryResult} {o : Outcome}

/-- A retryable failure below the limit is written down with the date of its retry, if it has
one. -/
theorem apply_of_retry (failed : result.ok = false) (retryable : result.retryable = true)
    (more : ((row.attempts + 1 : Nat) : Int) < env.settings.attemptLimit) :
    apply env now later draw row rule result =
      (retryDate env now (row.attempts + 1) draw).map fun next =>
        ⟨(row.tried result now).retryAt next, rule.id, none, []⟩ := by
  have below : ((row.tried result now).attempts : Int) < env.settings.attemptLimit := more
  simp only [apply, failed, retryable, below, Bool.false_eq_true, if_false, and_self, if_true]
  have attempts : (row.tried result now).attempts = row.attempts + 1 := rfl
  rw [attempts]
  cases retryDate env now (row.attempts + 1) draw <;> rfl

theorem Applied.rowId (h : Applied env now later draw row rule result o) :
    o.row.id = row.id := by
  cases h <;> rfl

theorem Applied.ruleId (h : Applied env now later draw row rule result o) :
    o.rule = rule.id := by
  cases h <;> rfl

end

def Status.name : Status → String
  | .pending => "pending"
  | .retrying => "retrying"
  | .succeeded => "succeeded"
  | .dead => "dead"

def Delivery.requeued (row : Delivery) (now : Time) : Delivery :=
  { row with
    status := .pending
    attempts := 0
    completedAt := none
    nextAttemptAt := some now
    lastError := ""
    responseStatus := none }

/-- `replay`: only a dead row goes back in the queue. -/
def replay (row : Delivery) (now : Time) : Except ServiceError Delivery :=
  if row.status = .dead then .ok (row.requeued now)
  else .error (.refused ⟨409, err409NotReplayable, [("status", .str row.status.name)]⟩)

end

end Webhooks
