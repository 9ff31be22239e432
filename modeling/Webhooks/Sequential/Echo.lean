import Webhooks.Sequential.InStep

/-!
# A payload on its way back

Two runs that differ in the payloads of the events, against receivers whose
status codes do not: the facts on the bus are ids and outcomes, and one of them
carries the receiver's own words. Where those depend on the request, a dead
letter brings the payload back to the bus. As long as the words a dead letter
reports are the same in both runs, and the database takes both texts or neither,
all facts are.
-/
namespace Webhooks

section
variable (env : Env)

/-! ## Two runs with different payloads -/

/-- The payloads, and the error texts they may end up in, where the database takes both or
neither. -/
def payloadVeil : Veil env where
  secret := Eq
  payload p q := env.backend.acceptsJson p = env.backend.acceptsJson q
  error s t := env.backend.acceptsText s = env.backend.acceptsText t
  secret_stored h := congrArg _ h
  payload_stored h := h
  error_stored h := h
  error_refl _ := rfl

/-- A header that is the same whatever the body is. -/
def isFixedHeader (name : String) : Bool := name ≠ "Content-Length" && name ≠ signatureHeader env

def Message.withoutPayload : Message → Message
  | .post request =>
    .post ⟨request.url, ByteArray.empty,
      request.headers.filter fun header => isFixedHeader env header.1⟩
  | .notification request => .notification { request with templateVariables := [] }
  | .frame shown => .frame { shown with payload := [] }

def DeliveryContext.withoutPayload (context : DeliveryContext) : DeliveryContext :=
  { context with payload := .null }

/-- The same failure, or a response with the same status. -/
inductive TransportOutcome.SameStatus : TransportOutcome → TransportOutcome → Prop where
  | response (status : Int) (body body' : String) :
      SameStatus (.response status body) (.response status body')
  | same (outcome : TransportOutcome) : SameStatus outcome outcome

/-- What the receivers answer depends on the payload in the body of the response alone; the two
buses and the handlers of the host do not look at it. -/
structure Outside.StatusBlind (outside : Outside) : Prop where
  post : ∀ sent sent' request request',
    sent.map (·.withoutPayload env) = sent'.map (·.withoutPayload env) →
    (Message.post request).withoutPayload env = (Message.post request').withoutPayload env →
    (outside.post sent request).SameStatus (outside.post sent' request')
  requestNotification : ∀ sent sent' request request',
    sent.map (·.withoutPayload env) = sent'.map (·.withoutPayload env) →
    (Message.notification request).withoutPayload env =
      (Message.notification request').withoutPayload env →
    outside.requestNotification sent request = outside.requestNotification sent' request'
  signal : ∀ sent sent' frame frame',
    sent.map (·.withoutPayload env) = sent'.map (·.withoutPayload env) →
    (Message.frame frame).withoutPayload env = (Message.frame frame').withoutPayload env →
    outside.signal sent frame = outside.signal sent' frame'
  host : ∀ sent sent' handler context context',
    sent.map (·.withoutPayload env) = sent'.map (·.withoutPayload env) →
    context.withoutPayload = context'.withoutPayload →
    outside.host sent handler context = outside.host sent' handler context'

/-- Two events that differ in their payloads only: both within the cap, both stored or neither,
and every rule takes both or neither. -/
structure Event.SameButPayload (σ : Store) (event event' : Event) : Prop where
  eventType : event.eventType = event'.eventType
  eventId : event.eventId = event'.eventId
  fits : oversized env event.data = false
  fits' : oversized env event'.data = false
  stored : env.backend.acceptsJson (if event.data.isDict then event.data else .obj []) =
    env.backend.acceptsJson (if event'.data.isDict then event'.data else .obj [])
  accepted : ∀ rule ∈ σ.subscriptions.rows,
    accepts env rule event.data = accepts env rule event'.data

/-- The same drain or replay, the same purge, or two events dispatched alike. -/
inductive Operation.SameButPayload (σ : Store) : Operation → Operation → Prop where
  | tick (t : Time) : SameButPayload σ (.tick t) (.tick t)
  | dispatch {event event' : Event} (plannings : Uuid → Planning) (moments : Uuid → Moment) :
      event.SameButPayload env σ event' →
      SameButPayload σ (.dispatch event plannings moments) (.dispatch event' plannings moments)
  | drain (moments : Uuid → Moment) (now : Time) (limit : Nat) :
      SameButPayload σ (.drain moments now limit) (.drain moments now limit)
  | replay (id : Uuid) (now : Time) : SameButPayload σ (.replay id now) (.replay id now)
  | purge (now : Time) : SameButPayload σ (.purge now) (.purge now)

/-! ## When nothing comes back -/

/-- Two responses with one status to the attempt on this row. They count as delivered; or the
database takes both texts or neither, and there is another attempt, or they begin alike. -/
def Discreet (row : Delivery) (status : Int) (body body' : String) : Prop :=
  (classify status).1 = true ∨
    env.backend.acceptsText (String.ofList (body.toList.take 1000)) =
        env.backend.acceptsText (String.ofList (body'.toList.take 1000)) ∧
      ((classify status).2 = true ∧ ((row.attempts + 1 : Nat) : Int) < env.settings.attemptLimit ∨
        body.toList.take 500 = body'.toList.take 500)

variable (outside : Outside)

/-- The receiver answers the attempt on the row with this id discreetly. -/
def DiscreetAt (m : Moment) (id : Uuid) (s t : Site) : Prop :=
  ∀ row rule row' rule' request request' status body body',
    s.store.load id = some (row, rule) → t.store.load id = some (row', rule') →
    row.isTerminal = false → deliveryHandler env rule.delivery = .ok .deliverWebhook →
    webhookRequest env m.now m.timestamp (buildContext row rule) = .ok request →
    webhookRequest env m.now m.timestamp (buildContext row' rule') = .ok request' →
    outside.post s.sent request = .response status body →
    outside.post t.sent request' = .response status body' →
    Discreet env row status body body'

/-- Every attempt of an operation is answered discreetly. -/
def Operation.Quiet (operation operation' : Operation) (s t : Site) : Prop :=
  match operation, operation' with
  | .drain moments now limit, .drain _ _ _ =>
    Lockstep.Along (Veil.OnClaim env (DiscreetAt env outside) moments)
      (Site.drainOne env outside moments) (Site.drainOne env outside moments)
      (s.store.dueIds now limit) s t
  | .dispatch event plannings moments, .dispatch event' _ _ =>
    Lockstep.Along (fun id => DiscreetAt env outside (moments id) id)
      (fun s id => s.attempt env outside (moments id) id)
      (fun t id => t.attempt env outside (moments id) id)
      (s.store.dispatchEvent env event plannings).hookIds
      { s with store := (s.store.dispatchEvent env event plannings).view }
      { t with store := (t.store.dispatchEvent env event' plannings).view }
  | _, _ => True

end

variable {env : Env} {outside : Outside} {row row' : Delivery} {rule rule' : Subscription}

/-! ## Requests -/

theorem buildContext_payloadVeil (h : (payloadVeil env).Row row row') (rule : Subscription) :
    ∃ payload, buildContext row' rule = { buildContext row rule with payload } := by
  cases h with
  | mk payload lastError _ _ => exact ⟨payload.orEmpty, rfl⟩

/-- Two bodies leave the same headers, but for the length and the signature. -/
theorem fixedHeaders (context : DeliveryContext) (payload : Json) (body body' : ByteArray)
    (timestamp : Int) :
    (webhookHeaders env context body timestamp).filter (fun header => isFixedHeader env header.1) =
      (webhookHeaders env { context with payload } body' timestamp).filter
        fun header => isFixedHeader env header.1 := by
  have signature : isFixedHeader env (signatureHeader env) = false := by simp [isFixedHeader]
  have length : isFixedHeader env "Content-Length" = false := by simp [isFixedHeader]
  unfold webhookHeaders
  by_cases unsigned : context.secret = ""
  · simp only [unsigned, if_true, List.filter_cons, length, Bool.false_eq_true, if_false]
  · simp only [unsigned, if_false, Assoc.filter_set signature, List.filter_cons, length,
      Bool.false_eq_true]

theorem webhookRequest_withoutPayload (now : Time) (timestamp : Int) (context : DeliveryContext)
    (payload : Json) :
    (webhookRequest env now timestamp context).map
        (fun request => (Message.post request).withoutPayload env) =
      (webhookRequest env now timestamp { context with payload }).map
        fun request => (Message.post request).withoutPayload env := by
  unfold webhookRequest
  dsimp only
  cases context.target with
  | obj fields =>
    dsimp only
    cases fields.lookup "url" with
    | some url =>
      refine congrArg (fun headers => Except.ok (Message.post ⟨url, ByteArray.empty, headers⟩)) ?_
      exact fixedHeaders context payload _ _ timestamp
    | none => rfl
  | _ => rfl

theorem notificationRequest_withoutPayload (context : DeliveryContext) (payload : Json) :
    (notificationRequest context).map
        (fun request => (Message.notification request).withoutPayload env) =
      (notificationRequest { context with payload }).map
        fun request => (Message.notification request).withoutPayload env := by
  unfold notificationRequest
  dsimp only
  cases context.target.item "notification_type" <;> rfl

theorem signalFrame_withoutPayload (context : DeliveryContext) (payload : Json) :
    (signalFrame context).map (fun frame => (Message.frame frame).withoutPayload env) =
      (signalFrame { context with payload }).map
        fun frame => (Message.frame frame).withoutPayload env := by
  unfold signalFrame
  dsimp only
  cases context.target.item "stream" <;> rfl

theorem message_withoutPayload (m : Moment) (handler : Handler) (context : DeliveryContext)
    (payload : Json) :
    (handler.message env m context).map (·.withoutPayload env) =
      (handler.message env m { context with payload }).map (·.withoutPayload env) := by
  cases handler with
  | deliverWebhook =>
    unfold Handler.message
    dsimp only
    have requests := @webhookRequest_withoutPayload env m.now m.timestamp context payload
    rcases Lockstep.map_eq_cases requests with
      ⟨e, left, right⟩ | ⟨request, request', left, right, same⟩
    · rw [left, right]
    · rw [left, right]
      exact congrArg (fun message => [message]) same
  | deliverNotification =>
    unfold Handler.message
    dsimp only
    have requests := @notificationRequest_withoutPayload env context payload
    rcases Lockstep.map_eq_cases requests with
      ⟨e, left, right⟩ | ⟨request, request', left, right, same⟩
    · rw [left, right]
    · rw [left, right]
      exact congrArg (fun message => [message]) same
  | deliverWs =>
    unfold Handler.message
    dsimp only
    have frames := @signalFrame_withoutPayload env context payload
    rcases Lockstep.map_eq_cases frames with
      ⟨e, left, right⟩ | ⟨frame, frame', left, right, same⟩
    · rw [left, right]
    · rw [left, right]
      exact congrArg (fun message => [message]) same
  | _ => rfl

/-! ## Answers -/

/-- What a response to a POST counts as. -/
def webhookResult (status : Int) (body : String) : DeliveryResult :=
  let (ok, retryable) := classify status
  { ok, retryable, statusCode := some status
    detail := if ok then "" else String.ofList (body.toList.take 1000) }

/-- Discreet responses are alike under the veil. -/
theorem Discreet.results {status : Int} {body body' : String}
    (h : Discreet env row status body body') :
    (payloadVeil env).Results row (webhookResult status body) (webhookResult status body') := by
  by_cases delivered : (classify status).1 = true
  · have same : webhookResult status body = webhookResult status body' := by
      simp only [webhookResult, delivered, if_true]
    rw [same]
    exact ⟨rfl, rfl, fun _ _ => rfl⟩
  · obtain ⟨stored, last⟩ := h.resolve_left delivered
    have error : ∀ text, (webhookResult status text).error =
        String.ofList (text.toList.take 1000) := by
      intro text
      simp [webhookResult, DeliveryResult.error, delivered, List.take_take]
    have reported : ∀ text, (webhookResult status text).reported =
        String.ofList (text.toList.take 500) := by
      intro text
      rw [DeliveryResult.reported, error]
      simp [List.take_take]
    refine ⟨rfl, ?_, fun _ final => ?_⟩
    · rw [error, error]
      exact stored
    · rw [reported, reported]
      exact congrArg String.ofList (last.resolve_left final)

/-- In both runs a handler comes to the same, but for the text of a response. -/
theorem answers_payloadVeil (blind : outside.StatusBlind env) (m : Moment)
    {sent sent' : List Message}
    (same : sent.map (·.withoutPayload env) = sent'.map (·.withoutPayload env)) (handler : Handler)
    (context : DeliveryContext) (payload : Json)
    (discreet : ∀ request request' status body body', handler = .deliverWebhook →
      webhookRequest env m.now m.timestamp context = .ok request →
      webhookRequest env m.now m.timestamp { context with payload } = .ok request' →
      outside.post sent request = .response status body →
      outside.post sent' request' = .response status body' →
      Discreet env row status body body') :
    (payloadVeil env).Answers row (handler.behave env outside m sent context).result
      (handler.behave env outside m sent' { context with payload }).result := by
  cases handler with
  | deliverWebhook =>
    unfold Handler.behave deliverWebhook
    dsimp only
    have requests := @webhookRequest_withoutPayload env m.now m.timestamp context payload
    rcases Lockstep.map_eq_cases requests with
      ⟨e, left, right⟩ | ⟨request, request', left, right, alike⟩
    · rw [left, right]
      exact .refl row _
    · have outcomes := blind.post sent sent' request request' same alike
      have quiet := fun status body body' =>
        discreet request request' status body body' rfl left right
      rw [left, right]
      dsimp only
      generalize outside.post sent request = outcome at outcomes quiet
      generalize outside.post sent' request' = outcome' at outcomes quiet
      cases outcomes with
      | response status body body' => exact .ok (quiet status body body' rfl rfl).results
      | same => exact .refl row _
  | deliverNotification =>
    unfold Handler.behave deliverNotification
    dsimp only
    have requests := @notificationRequest_withoutPayload env context payload
    rcases Lockstep.map_eq_cases requests with
      ⟨e, left, right⟩ | ⟨request, request', left, right, alike⟩
    · rw [left, right]
      exact .refl row _
    · rw [left, right]
      dsimp only
      rw [blind.requestNotification sent sent' request request' same alike]
      exact .refl row _
  | deliverWs =>
    unfold Handler.behave deliverWs
    dsimp only
    have frames := @signalFrame_withoutPayload env context payload
    rcases Lockstep.map_eq_cases frames with
      ⟨e, left, right⟩ | ⟨frame, frame', left, right, alike⟩
    · rw [left, right]
      exact .refl row _
    · rw [left, right]
      dsimp only
      rw [blind.signal sent sent' frame frame' same alike]
      exact .refl row _
  | deliverCustom =>
    unfold Handler.behave
    dsimp only
    rw [blind.host sent sent' .deliverCustom context { context with payload } same rfl]
    exact .refl row _
  | host name =>
    unfold Handler.behave
    dsimp only
    rw [blind.host sent sent' (.host name) context { context with payload } same rfl]
    exact .refl row _

theorem attempts_payloadVeil (blind : outside.StatusBlind env) (m : Moment) (id : Uuid)
    (s t : Site) (h : (payloadVeil env).Sites (·.withoutPayload env) s t)
    (discreet : DiscreetAt env outside m id s t) :
    (payloadVeil env).Attempts outside (·.withoutPayload env) m id s t := by
  refine h.handled (fun row rule row' rule' handler hr hs => ?_) ?_
  · cases hs.same rfl
    obtain ⟨payload, context⟩ := buildContext_payloadVeil hr rule
    rw [context]
    exact message_withoutPayload m handler _ payload
  · intro row rule row' rule' handler left right hr hs hopen resolved
    cases hs.same rfl
    obtain ⟨payload, context⟩ := buildContext_payloadVeil hr rule
    rw [context]
    refine answers_payloadVeil blind m h.sent handler _ payload ?_
    intro request request' status body body' webhook
    rw [webhook] at resolved
    rw [← context]
    exact discreet row rule row' rule request request' status body body' left right hopen resolved

/-! ## Runs -/

/-- A condition on each pair of operations, in the states two runs have come to. -/
def InBothRuns (env : Env) (outside : Outside) (api : Api)
    (ok : Operation → Operation → Site → Site → Prop) (operations : List (Operation × Operation))
    (s t : Site) : Prop :=
  Lockstep.Along (fun pair => ok pair.1 pair.2) (fun s pair => s.perform env outside api pair.1)
    (fun t pair => t.perform env outside api pair.2) operations s t

/-- The two runs differ in the payloads of the events only. -/
def SamePayloadsAside (env : Env) (outside : Outside) (api : Api)
    (operations : List (Operation × Operation)) (s t : Site) : Prop :=
  InBothRuns env outside api
    (fun operation operation' s _ => operation.SameButPayload env s.store operation') operations s t

/-- Every attempt is answered discreetly. -/
def QuietRuns (env : Env) (outside : Outside) (api : Api)
    (operations : List (Operation × Operation)) (s t : Site) : Prop :=
  InBothRuns env outside api (Operation.Quiet env outside) operations s t

variable {api : Api} {s t : Site}

theorem perform_payloadVeil (blind : outside.StatusBlind env)
    (h : (payloadVeil env).Sites (·.withoutPayload env) s t) {operation operation' : Operation}
    (same : operation.SameButPayload env s.store operation')
    (quiet : operation.Quiet env outside operation' s t) :
    (payloadVeil env).Sites (·.withoutPayload env) (s.perform env outside api operation)
      (t.perform env outside api operation') := by
  have sound := @attempts_payloadVeil env outside blind
  cases same with
  | tick time => exact h.tick time
  | dispatch plannings moments events =>
    have alike : (payloadVeil env).Events _ _ :=
      ⟨events.eventType, events.eventId, events.fits.trans events.fits'.symm, events.stored⟩
    exact h.dispatch sound alike events.accepted quiet
  | drain moments now limit => exact h.drain sound quiet
  | replay id now => exact ⟨h.store.replay id now, h.sent⟩
  | purge now => exact ⟨h.store.purge now, h.sent⟩

/-- Two runs that differ in the payloads of the events: while every attempt is answered discreetly,
the facts on the bus are the same, after any number of operations. -/
theorem facts_agree (env : Env) (outside : Outside) (api : Api) (blind : outside.StatusBlind env)
    (σ τ : Store) (same : (payloadVeil env).Stores σ τ) (operations : List (Operation × Operation))
    (alike : SamePayloadsAside env outside api operations σ.site τ.site)
    (quiet : QuietRuns env outside api operations σ.site τ.site) (n : Nat) :
    (σ.site.run env outside api ((operations.take n).map Prod.fst)).store.outbox =
      (τ.site.run env outside api ((operations.take n).map Prod.snd)).store.outbox := by
  have start : (payloadVeil env).Sites (·.withoutPayload env) σ.site τ.site := ⟨same, rfl⟩
  have along := (Lockstep.Along.and alike quiet).take n
  have ran : (payloadVeil env).Sites (·.withoutPayload env)
      ((operations.take n).foldl (fun s pair => s.perform env outside api pair.1) σ.site)
      ((operations.take n).foldl (fun t pair => t.perform env outside api pair.2) τ.site) := by
    refine Lockstep.foldl ?_ start along
    intro pair s t h ok
    exact perform_payloadVeil blind h ok.1 ok.2
  unfold Site.run
  rw [List.foldl_map, List.foldl_map]
  exact ran.store.outbox

/-! ## A receiver that echoes -/

/-- Everybody answers what one receiver answers, with this status and a text of its own. -/
def answering (status : Int) (text : Request → String) : Outside where
  post _ request := .response status (text request)
  requestNotification _ _ := .answered true
  signal _ _ := .sent
  host _ _ _ := .returnedOther

theorem statusBlind_answering (env : Env) (status : Int) (text : Request → String) :
    (answering status text).StatusBlind env :=
  ⟨fun _ _ _ _ _ _ => .response status _ _, fun _ _ _ _ _ _ => rfl, fun _ _ _ _ _ _ => rfl,
    fun _ _ _ _ _ _ _ => rfl⟩

/-- It refuses every request, and quotes the beginning of the body. -/
def echo : Outside :=
  answering 400 fun request =>
    String.ofList ((request.body.data.toList.take 64).map fun byte => Char.ofNat byte.toNat)

def priced (price : Int) : Event := ⟨"listing.published", "e1", .obj [("price", .int price)]⟩

/-- Two events that differ in a price, each dispatched and then delivered. -/
def twoPrices : List (Operation × Operation) :=
  [(.dispatch (priced 1) (fun _ => samplePlanning) fun _ => sampleMoment,
    .dispatch (priced 2) (fun _ => samplePlanning) fun _ => sampleMoment),
   (.drain (fun _ => sampleMoment) 1 10, .drain (fun _ => sampleMoment) 1 10)]

theorem samePayloadsAside_twoPrices (outside : Outside) :
    SamePayloadsAside sampleEnv outside sampleApi twoPrices (signedStore "s").site
      (signedStore "s").site := by
  have events : (priced 1).SameButPayload sampleEnv (signedStore "s") (priced 2) :=
    ⟨rfl, rfl, by decide +kernel, by decide +kernel, rfl, fun _ _ => rfl⟩
  exact ⟨.dispatch _ _ events, .drain _ _ _, trivial⟩

/-- The `error` of a fact. -/
def BusEvent.errorText (event : BusEvent) : String :=
  match event.payload.get "error" with
  | .str text => text
  | _ => ""

/-- The receiver's status is the same for both prices, and yet the dead letters differ. -/
theorem echoed_payload_on_bus :
    echo.StatusBlind sampleEnv ∧
      SamePayloadsAside sampleEnv echo sampleApi twoPrices (signedStore "s").site
        (signedStore "s").site ∧
      ((signedStore "s").site.run sampleEnv echo sampleApi (twoPrices.map Prod.fst)).store.outbox ≠
        ((signedStore "s").site.run sampleEnv echo sampleApi
          (twoPrices.map Prod.snd)).store.outbox := by
  refine ⟨statusBlind_answering _ _ _, samePayloadsAside_twoPrices _, fun same => ?_⟩
  have errors := congrArg (List.map BusEvent.errorText) same
  revert errors
  decide +kernel

/-- A receiver that refuses every request with the same words. -/
def terse : Outside := answering 400 fun _ => "no"

theorem discreetAt_terse (m : Moment) (id : Uuid) (s t : Site) :
    DiscreetAt sampleEnv terse m id s t := by
  intro row rule row' rule' request request' status body body' _ _ _ _ _ _ left right
  cases left
  cases right
  exact .inr ⟨rfl, .inr rfl⟩

/-- Each run leaves one dead letter, and they are the same. -/
theorem facts_agree_terse :
    ((signedStore "s").site.run sampleEnv terse sampleApi
        (twoPrices.map Prod.fst)).store.outbox.length = 1 ∧
      ((signedStore "s").site.run sampleEnv terse sampleApi (twoPrices.map Prod.fst)).store.outbox =
        ((signedStore "s").site.run sampleEnv terse sampleApi
          (twoPrices.map Prod.snd)).store.outbox := by
  refine ⟨by decide +kernel, ?_⟩
  refine facts_agree sampleEnv terse sampleApi (statusBlind_answering _ _ _) _ _
    (.refl (fun _ => rfl) (fun _ => rfl) _) twoPrices (samePayloadsAside_twoPrices _)
    ⟨?_, ?_, trivial⟩ 2
  · exact Lockstep.along_of_forall (fun id => discreetAt_terse _ id) _ _ _
  · exact Lockstep.along_of_forall (fun id _ _ _ _ _ _ => discreetAt_terse _ id _ _) _ _ _

end Webhooks
