import Webhooks.Python

/-!
# Settings

The settings the modelled functions read, under their names and with the
defaults of `DEFAULTS`. A setting of zero, or an empty text, is falsy, and each
reader falls back to its own constant: `orInt`, `orSeconds` and `orText` are the
three spellings of `value or constant`. Nothing checks the sign of a duration or
of a ratio; a result that needs one says so.
-/
namespace Webhooks

def orInt (n fallback : Int) : Int := if n = 0 then fallback else n

def orSeconds (q fallback : ℚ) : ℚ := if q = 0 then fallback else q

def orText (s fallback : String) : String := if s = "" then fallback else s

/-- The four built-in deliveries, or a callable of the host known by a name. -/
inductive Handler where
  | deliverWebhook
  | deliverNotification
  | deliverWs
  | deliverCustom
  | host (name : String)
deriving DecidableEq

/-- The `handler` of a delivery type: a callable, a dotted path, or nothing. -/
inductive HandlerField where
  | callable (handler : Handler)
  | path (dotted : String)
  | missing
deriving DecidableEq

/-- The `target_validator` of a delivery type: a callable of the host, or a dotted path. -/
inductive ValidatorField where
  | callable (name : String)
  | path (dotted : String)
deriving DecidableEq

/-- A delivery type: the keys of its spec that validation and dispatch read. -/
structure DeliverySpec where
  handler : HandlerField
  requiredTargetKeys : List String
  anyOfTargetKeys : List String
  targetValidator : Option ValidatorField
  signed : Bool
deriving DecidableEq

structure Settings where
  deliveryTypes : List (String × Option DeliverySpec) := []
  watchEvents : List String := []
  watchCatalog : Bool := true
  ignoreEvents : List String :=
    ["webhooks.delivery.succeeded", "webhooks.delivery.dead", "webhooks.subscription.disabled"]
  dispatchMode : String := "deferred"
  drainBatchSize : Nat := 100
  claimLeaseSeconds : ℚ := 120
  maxAttempts : Int := 8
  backoffBaseSeconds : ℚ := 10
  backoffFactor : ℚ := 3
  backoffCapSeconds : ℚ := 3600
  jitterRatio : ℚ := 1 / 10
  disableAfterDead : Int := 5
  maxPayloadBytes : Int := 262144
  userAgent : String := "stapel-webhooks/1.0"
  allowInsecureTargets : Bool := false
  signatureHeader : String := "X-Stapel-Signature"
  signatureScheme : String := "v1"
  signatureToleranceSeconds : Int := 300
  secretBytes : Int := 32
  succeededRetentionDays : Option Int := some 7
  deadRetentionDays : Option Int := some 90
  maxSubscriptionsPerOwner : Int := 100
  maxFilterDepth : Int := 4
  allowedCustomPaths : List String := []

/-- `DEFAULTS`. -/
def defaults : Settings := {}

/-- How long a claimed row stays invisible. -/
def Settings.lease (s : Settings) : ℚ := orSeconds s.claimLeaseSeconds 120

/-- Whether the lease of a claim at `now` ends at a date; `claim` raises where it does not. -/
def Settings.canLease (s : Settings) (now : Time) : Bool := isDate (now + s.lease)

def Settings.attemptLimit (s : Settings) : Int := orInt s.maxAttempts 1

def Settings.base (s : Settings) : ℚ := orSeconds s.backoffBaseSeconds 10

def Settings.factor (s : Settings) : ℚ := orSeconds s.backoffFactor 2

def Settings.cap (s : Settings) : ℚ := orSeconds s.backoffCapSeconds 3600

/-- No setting of the backoff has a minus sign. -/
structure Settings.BackoffNonneg (s : Settings) : Prop where
  base : 0 ≤ s.backoffBaseSeconds
  factor : 0 ≤ s.backoffFactor
  cap : 0 ≤ s.backoffCapSeconds
  ratio : 0 ≤ s.jitterRatio

theorem orSeconds_pos {q fallback : ℚ} (nonneg : 0 ≤ q) (pos : 0 < fallback) :
    0 < orSeconds q fallback := by
  unfold orSeconds
  split
  · exact pos
  · next some => exact lt_of_le_of_ne nonneg (Ne.symm some)

namespace Settings.BackoffNonneg

variable {s : Settings} (h : s.BackoffNonneg)
include h

theorem base_pos : 0 < s.base := orSeconds_pos h.base (by norm_num)

theorem factor_pos : 0 < s.factor := orSeconds_pos h.factor (by norm_num)

theorem cap_pos : 0 < s.cap := orSeconds_pos h.cap (by norm_num)

end Settings.BackoffNonneg

theorem canLease_defaults : defaults.canLease 0 = true := by decide +kernel

theorem defaults_backoffNonneg : defaults.BackoffNonneg := by
  constructor <;> norm_num [defaults]

end Webhooks
