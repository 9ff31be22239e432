import Webhooks.Sequential.Progress
import Webhooks.TransportErrors

/-!
# Whatever a receiver answers

One attempt of `deliver_webhook` whose receiver answers: the body goes through the
lossy decoding and two truncations into a text column. On a database that refuses
U+0000 an answer that puts it there undoes the transition, and the row is due again
as if nothing had been tried.
-/
namespace Webhooks

/-- What the handler gets of a run of `post`. -/
def outcomeOf : Except PostError TransportResponse → TransportOutcome
  | .ok response => .response response.status response.body
  | .error (.transportError code text retryable) => .failed code text retryable
  | .error (.raised exc) => .raised exc

section
variable {Ip : Type} (addresses : Addresses Ip) (network : Network) (env : Env)
  (settings : TransportSettings) (unicode : Unicode)

/-- The row and the rule have room for one more transition, whatever the receiver says: the counts
fit their columns, and a retry has a date. -/
structure Room (w : World) (row : Delivery) (rule : Subscription) (status : Int) : Prop where
  attempts : ((row.attempts + 1 : Nat) : Int) < 2 ^ 31
  retry : (classify status).1 = false → (classify status).2 = true →
    ((row.attempts + 1 : Nat) : Int) < env.settings.maxAttempts →
    Schedulable env.settings w.now (row.attempts + 1) w.draw
  strikes : (classify status).1 = false →
    ((classify status).2 = true → env.settings.maxAttempts ≤ ((row.attempts + 1 : Nat) : Int)) →
    ((rule.consecutiveFailures + 1 : Nat) : Int) < 2 ^ 31

/-! ## The run of `post` -/

variable {addresses network env settings unicode}

section
variable {options : PostOptions} {url : String} {body : ByteArray}
  {headers : List (String × String)} {past past' events : List NetworkEvent} {dest : Destination}
  {conn : Connection} {head : ResponseHead} {limit : Int}

end

/-! ## What the handler makes of the answer -/

variable {σ : Store} {row : Delivery} {rule : Subscription} {w : World} {head : ResponseHead}
  {payload : ByteArray} {result : DeliveryResult}

section
variable (addresses network env settings unicode)

end

end

/-! ## A receiver on a PostgreSQL installation -/

end Webhooks
