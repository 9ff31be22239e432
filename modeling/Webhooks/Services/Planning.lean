import Mathlib.Data.List.Lex
import Webhooks.Matching
import Webhooks.PythonText
import Webhooks.Services.Authoring

/-!
# Matching and planning

The rules an event matches, and the delivery row planned for one of them. An
oversized payload is dead-lettered in the planned row itself.
-/
namespace Webhooks

/-- An emitted comm Action. -/
structure Event where
  eventType : String
  eventId : String
  payload : Json

/-- The payload `dispatch_event` works with: `event.payload or {}`. -/
def Event.data (event : Event) : Json := event.payload.orEmpty

/-- `Meta.ordering` of a table: newest first, then by descending id. -/
def newestFirst (a b : Subscription) : Prop :=
  b.createdAt < a.createdAt ∨ b.createdAt = a.createdAt ∧ b.id.digits ≤ a.id.digits

instance (a b : Subscription) : Decidable (newestFirst a b) := inferInstanceAs (Decidable (_ ∨ _))

section
variable (env : Env)

/-- Whether the matcher takes the rule; a predicate that raises does not match. -/
def accepts (rule : Subscription) (payload : Json) : Bool :=
  match env.matcher payload rule.payloadFilter with
  | .ok b => b
  | .error _ => false

/-- An active rule of this event type whose filter accepts the payload. -/
def isMatching (eventType : String) (payload : Json) (rule : Subscription) : Bool :=
  rule.eventType = eventType && rule.isActive && accepts env rule payload

def matchingSubscriptions (rules : List Subscription) (eventType : String) (payload : Json) :
    List Subscription :=
  (rules.filter (isMatching env eventType payload)).insertionSort newestFirst

theorem mem_matchingSubscriptions {rules : List Subscription} {eventType : String} {payload : Json}
    {rule : Subscription} : rule ∈ matchingSubscriptions env rules eventType payload ↔
      rule ∈ rules ∧ isMatching env eventType payload rule := by
  simp [matchingSubscriptions, List.mem_insertionSort]

/-- With the matcher of this package, a valid rule takes exactly the payloads that satisfy its
filter. -/
theorem accepts_iff_satisfies {rule : Subscription}
    (seam : env.matcher = matchesPredicate env.interpreter) (valid : rule.valid env)
    (payload : Json) : accepts env rule payload = true ↔ Satisfies payload rule.payloadFilter := by
  obtain ⟨b, hb, holds⟩ := answers_matches payload (validateFilter_of_valid valid)
  rw [accepts, seam, hb]
  exact holds

/-! ## Planning one row -/

def idempotencyKey (eventId : String) (subscriptionId : Uuid) : String :=
  orText eventId "noid" ++ ":" ++ subscriptionId.str

def payloadLimit : Int := env.settings.maxPayloadBytes

def oversized (payload : Json) : Bool :=
  payloadLimit env ≠ 0 ∧
    payloadLimit env < ((dumps env.interpreter .default payload).toUTF8.size : Int)

def oversizedError : String :=
  "payload exceeds MAX_PAYLOAD_BYTES (" ++ toString (payloadLimit env) ++ ")"

/-- The row `plan_delivery` inserts; `now` and `later` are its two readings of the clock. -/
def planDelivery (rule : Subscription) (event : Event) (id : Uuid) (now later : Time) :
    Delivery :=
  let big := oversized env event.data
  { id
    subscriptionId := rule.id
    eventType := event.eventType
    eventId := event.eventId
    idempotencyKey := idempotencyKey event.eventId rule.id
    payload := if event.data.isDict then event.data else .obj []
    status := if big then .dead else .pending
    attempts := 0
    nextAttemptAt := if big then none else some now
    lastAttemptAt := none
    completedAt := if big then some later else none
    responseStatus := none
    lastError := if big then oversizedError env else ""
    createdAt := later
    updatedAt := later }

/-- Whether `dispatch_event` returns before matching anything. -/
def isIgnored (event : Event) : Bool :=
  event.eventType = "" || event.eventType ∈ ignoredEvents env

/-- `DISPATCH_MODE` is `"inline"`. -/
def inlineDispatch : Bool := orText env.settings.dispatchMode "deferred" = "inline"

end

/-! ## What the columns take -/

theorem nul_not_mem_toString_int (n : Int) : Char.ofNat 0 ∉ (toString n).toList := by
  intro h
  rcases mem_toString_int h with digit | dash
  · exact absurd digit (by decide)
  · exact absurd dash (by decide)

theorem nul_not_mem_oversizedError (env : Env) :
    Char.ofNat 0 ∉ (oversizedError env).toList := by
  intro h
  unfold oversizedError at h
  simp only [String.toList_append] at h
  rcases List.mem_append.1 h with h | h
  · rcases List.mem_append.1 h with h | h
    · exact absurd h (by decide +kernel)
    · exact nul_not_mem_toString_int _ h
  · exact absurd h (by decide)

/-- What the columns of a planned row must take: the event's id and its payload. -/
structure Acceptable (env : Env) (event : Event) : Prop where
  eventId : env.backend.acceptsText event.eventId = true
  short : event.eventId.length ≤ 64
  payload : env.backend.acceptsJson (if event.data.isDict then event.data else .obj []) = true

variable {env : Env} {event : Event}

theorem acceptsChars_idempotencyKey (h : Acceptable env event) (id : Uuid) :
    env.backend.acceptsChars 200 (idempotencyKey event.eventId id) = true := by
  have head : env.backend.acceptsText (orText event.eventId "noid") = true ∧
      (orText event.eventId "noid").length ≤ 64 := by
    unfold orText
    split
    · exact ⟨Backend.acceptsText_of_not_mem (by decide), by decide⟩
    · exact ⟨h.eventId, h.short⟩
  have text : env.backend.acceptsText (idempotencyKey event.eventId id) = true :=
    Backend.acceptsText_append (Backend.acceptsText_append head.1 (by decide)) id.nul_not_mem_str
  have length : (idempotencyKey event.eventId id).length ≤ 200 := by
    have tail : id.str.length = 36 := by
      rw [Uuid.str, String.length_ofList]; exact id.length_chars
    have colon : (":" : String).length = 1 := by decide
    rw [idempotencyKey, String.length_append, String.length_append]
    have := head.2
    omega
  simp [Backend.acceptsChars, text, length]

/-- The database takes the row planned for a rule it has taken. -/
theorem acceptsDelivery_planDelivery (h : Acceptable env event) {rule : Subscription}
    (eventType : env.backend.acceptsChars 128 event.eventType = true) (id : Uuid)
    (now later : Time) :
    env.backend.acceptsDelivery (planDelivery env rule event id now later) = true := by
  have eventId : env.backend.acceptsChars 64 event.eventId = true := by
    simp [Backend.acceptsChars, h.eventId, h.short]
  have error : env.backend.acceptsText
      (if oversized env event.data = true then oversizedError env else "") = true := by
    split
    · exact Backend.acceptsText_of_not_mem (nul_not_mem_oversizedError env)
    · exact Backend.acceptsText_of_not_mem (by decide)
  simp only [Backend.acceptsDelivery, planDelivery, eventType, eventId,
    acceptsChars_idempotencyKey h rule.id, h.payload, error, Bool.and_true, Bool.true_and]
  simp [env.backend.integers_zero]

end Webhooks
