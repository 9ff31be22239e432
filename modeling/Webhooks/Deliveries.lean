import Mathlib.Data.Rat.Floor
import Webhooks.Signing

/-!
# Deliveries

What a handler is told about one attempt, what it may answer, and the built-in
deliveries. `deliver_webhook` has the envelope, its exact bytes, the headers and
the reading of the response; `deliver_notification` and `deliver_ws` hand the
payload to another package. Who answers is the caller's: the network, the
notification bus and the realtime layer are arguments.
-/
namespace Webhooks

structure DeliveryContext where
  deliveryId : String
  subscriptionId : String
  eventType : String
  eventId : String
  payload : Json
  target : Json
  secret : String
  attempt : Nat
  createdAt : Option Time

structure DeliveryResult where
  ok : Bool
  retryable : Bool := true
  statusCode : Option Int := none
  detail : String := ""
deriving DecidableEq

/-- What calling a handler comes to. A `DeliveryResult` whose fields are not of their
declared types makes reading them raise; any value that is no `DeliveryResult` counts
as done. -/
inductive Behaviour where
  | returned (result : DeliveryResult)
  | malformed (exc : PyException)
  | returnedOther
  | raised (exc : PyException)
deriving DecidableEq

/-! ## The envelope -/

def padded (width n : Nat) : String :=
  let digits := Nat.toDigits 10 n
  String.ofList (List.replicate (width - digits.length) '0' ++ digits)

/-- Year, month and day of a day number counted from the epoch. -/
def civilDate (day : Int) : Int × Nat × Nat :=
  -- years start in March, so that the leap day is the last of its year
  let z := day + 719468
  let era := z / 146097
  let dayOfEra := (z - era * 146097).toNat
  let yearOfEra := (dayOfEra - dayOfEra / 1460 + dayOfEra / 36524 - dayOfEra / 146096) / 365
  let dayOfYear := dayOfEra - (365 * yearOfEra + yearOfEra / 4 - yearOfEra / 100)
  let shifted := (5 * dayOfYear + 2) / 153
  let month := if shifted < 10 then shifted + 3 else shifted - 9
  let year := (yearOfEra : Int) + era * 400
  (if month ≤ 2 then year + 1 else year, month, dayOfYear - (153 * shifted + 2) / 5 + 1)

/-- `isoformat()` of a moment in UTC, to the microsecond. -/
def isoformat (t : Time) : String :=
  let micros := ⌊t * 1000000⌋
  let seconds := micros / 1000000
  let fraction := (micros % 1000000).toNat
  let (year, month, day) := civilDate (seconds / 86400)
  let second := (seconds % 86400).toNat
  padded 4 year.toNat ++ "-" ++ padded 2 month ++ "-" ++ padded 2 day ++ "T" ++
    padded 2 (second / 3600) ++ ":" ++ padded 2 (second / 60 % 60) ++ ":" ++
    padded 2 (second % 60) ++ (if fraction = 0 then "" else "." ++ padded 6 fraction) ++ "+00:00"

example : isoformat (1756036800 + 1 / 4) = "2025-08-24T12:00:00.250000+00:00" := by decide +kernel

section
variable (env : Env)

def envelope (now : Time) (context : DeliveryContext) : Json :=
  .obj
    [("id", .str context.deliveryId),
     ("type", .str context.eventType),
     ("event_id", .str context.eventId),
     ("created_at", .str (isoformat (context.createdAt.getD now))),
     ("subscription_id", .str context.subscriptionId),
     ("data", context.payload)]

/-- The exact bytes that will be signed and sent. -/
def encodeBody (now : Time) (context : DeliveryContext) : ByteArray :=
  (dumps env.interpreter .compact (envelope now context)).toUTF8

/-! ## Headers -/

/-- Header names compare without case. -/
def sameHeader (a b : String) : Bool := a.toList.map Char.toLower = b.toList.map Char.toLower

/-- The values a request carries under a header name. -/
def headerValues (headers : List (String × String)) (name : String) : List String :=
  (headers.filter fun h => sameHeader h.1 name).map Prod.snd

theorem headerValues_set {key name : String} (apart : sameHeader key name = false)
    (value : String) (headers : List (String × String)) :
    headerValues (Assoc.set key value headers) name = headerValues headers name := by
  unfold headerValues
  congr 1
  induction headers with
  | nil => simp [Assoc.set, apart]
  | cons header headers ih =>
    obtain ⟨j, w⟩ := header
    unfold Assoc.set
    by_cases same : j = key
    · subst same
      simp [apart]
    · simp [same, List.filter_cons, ih]

theorem headerValues_update {name : String} {headers : List (String × String)}
    (apart : headerValues headers name = []) (d : List (String × String)) :
    headerValues (Assoc.update d headers) name = headerValues d name := by
  have others : ∀ header ∈ headers, sameHeader header.1 name = false := by
    simpa [headerValues, List.filter_eq_nil_iff] using apart
  clear apart
  induction headers generalizing d with
  | nil => rfl
  | cons header headers ih =>
    obtain ⟨first, others⟩ := List.forall_mem_cons.1 others
    have rest := ih (Assoc.set header.1 header.2 d) others
    rwa [headerValues_set first] at rest

/-! ## `deliver_webhook` -/

structure Request where
  url : Json
  body : ByteArray
  headers : List (String × String)

inductive TransportOutcome where
  | response (status : Int) (body : String)
  | failed (code text : String) (retryable : Bool)
  | raised (exc : PyException)

def signatureHeader : String := orText env.settings.signatureHeader "X-Stapel-Signature"

/-- The headers of one request; the signature is there only when there is a secret. -/
def webhookHeaders (context : DeliveryContext) (body : ByteArray) (timestamp : Int) :
    List (String × String) :=
  let headers :=
    [("Content-Type", "application/json"),
     ("User-Agent", orText env.settings.userAgent "stapel-webhooks/1.0"),
     ("Accept", "*/*"),
     ("Content-Length", toString body.size),
     ("X-Stapel-Delivery", context.deliveryId),
     ("X-Stapel-Event", context.eventType),
     ("X-Stapel-Event-Id", context.eventId),
     ("X-Stapel-Attempt", toString context.attempt)]
  if context.secret = "" then headers
  else Assoc.set (signatureHeader env) (sign env context.secret body timestamp) headers

/-- The request, or the `KeyError` of a target without a URL. -/
def webhookRequest (now : Time) (timestamp : Int) (context : DeliveryContext) :
    Except PyException Request :=
  let body := encodeBody env now context
  let headers := webhookHeaders env context body timestamp
  match context.target with
  | .obj fields =>
    match fields.lookup "url" with
    | some url => .ok ⟨url, body, headers⟩
    | none => .error ⟨"KeyError", some "'url'"⟩
  | _ => .error ⟨"KeyError", some "'url'"⟩

theorem webhookRequest_eq_ok {now : Time} {timestamp : Int} {context : DeliveryContext}
    {request : Request} (h : webhookRequest env now timestamp context = .ok request) :
    request.body = encodeBody env now context ∧
      request.headers = webhookHeaders env context request.body timestamp := by
  unfold webhookRequest at h
  split at h
  · split at h
    · cases h; exact ⟨rfl, rfl⟩
    · cases h
  · cases h

/-- `(ok, retryable)` for a receiver's status code. -/
def classify (status : Int) : Bool × Bool :=
  if 200 ≤ status ∧ status < 300 then (true, false)
  else if status ∈ [408, 425, 429] ∨ 500 ≤ status then (false, true)
  else (false, false)

def deliverWebhook (now : Time) (timestamp : Int) (context : DeliveryContext)
    (post : Request → TransportOutcome) : Behaviour :=
  match webhookRequest env now timestamp context with
  | .error exc => .raised exc
  | .ok request =>
    match post request with
    | .raised exc => .raised exc
    | .failed code text retryable =>
      .returned { ok := false, retryable, detail := code ++ ": " ++ text }
    | .response status body =>
      let (ok, retryable) := classify status
      .returned
        { ok, retryable, statusCode := some status
          detail := if ok then "" else String.ofList (body.toList.take 1000) }

end

/-! ## `deliver_notification` -/

/-- `target[key]`. -/
def Json.item (target : Json) (key : String) : Except PyException Json :=
  match target with
  | .obj fields =>
    match fields.lookup key with
    | some value => .ok value
    | none => .error ⟨"KeyError", some ("'" ++ key ++ "'")⟩
  | _ => .error ⟨"KeyError", some ("'" ++ key ++ "'")⟩

/-- The payload where it is a dictionary, and `{}` where it is not. -/
def DeliveryContext.data (context : DeliveryContext) : List (String × Json) :=
  match context.payload with
  | .obj fields => fields
  | _ => []

/-- The arguments of `request_notification`; `templateVariables` are its `variables`. -/
structure NotificationRequest where
  notificationType : Json
  userId : Json
  email : Json
  phone : Json
  telegramChatId : Json
  language : Json
  templateVariables : List (String × Json)

inductive NotificationOutcome where
  | answered (queued : Bool)
  | valueError (text : String)
  | raised (exc : PyException)

def notificationRequest (context : DeliveryContext) : Except PyException NotificationRequest := do
  let target := context.target
  let notificationType ← target.item "notification_type"
  return {
    notificationType
    userId := target.get "user_id"
    email := target.get "email"
    phone := target.get "phone"
    telegramChatId := target.get "telegram_chat_id"
    language := target.get "language"
    templateVariables := Assoc.update
      [("event_type", .str context.eventType), ("event_id", .str context.eventId)] context.data }

def deliverNotification (context : DeliveryContext)
    (requestNotification : NotificationRequest → NotificationOutcome) : Behaviour :=
  match notificationRequest context with
  | .error exc => .raised exc
  | .ok request =>
    match requestNotification request with
    | .raised exc => .raised exc
    | .valueError text =>
      .returned { ok := false, retryable := false, detail := "invalid request: " ++ text }
    | .answered true => .returned { ok := true }
    | .answered false =>
      .returned { ok := false, retryable := true, detail := "notification bus refused the request" }

/-! ## `deliver_ws` -/

/-- The arguments of `signal`. -/
structure SignalFrame where
  stream : Json
  frameType : Json
  payload : List (String × Json)

inductive SignalOutcome where
  | sent
  | signalError (typeName text : String)
  | raised (exc : PyException)

def signalFrame (context : DeliveryContext) : Except PyException SignalFrame := do
  let target := context.target
  let stream ← target.item "stream"
  let frameType := target.get "frame_type"
  return {
    stream
    frameType := if frameType.truthy then frameType else .str context.eventType
    payload := context.data }

def deliverWs (context : DeliveryContext) (signal : SignalFrame → SignalOutcome) : Behaviour :=
  match signalFrame context with
  | .error exc => .raised exc
  | .ok frame =>
    match signal frame with
    | .raised exc => .raised exc
    | .signalError typeName text =>
      .returned { ok := false, retryable := false, detail := typeName ++ ": " ++ text }
    | .sent => .returned { ok := true }

end Webhooks
