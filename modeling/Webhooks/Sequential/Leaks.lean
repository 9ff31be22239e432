import Webhooks.Sequential.InStep
import Webhooks.Sequential.Scoping

/-!
# Secrets do not leak

Two runs of the same operations that differ in the values of the signing
secrets. Everything anybody is shown is the same in both: what the handlers
send, but for the signature; what the API answers, but for the two calls that
return a secret; the deliveries and the outbox. It takes receivers that do not
look at the signature, and secrets the database stores alike: one that it refuses
shows, because its rule is not there.
-/
namespace Webhooks

/-! ## What is shown -/

section
variable (env : Env)

/-- The request without its signature. -/
def Request.unsigned (request : Request) : Request :=
  { request with headers := request.headers.filter fun header => header.1 ≠ signatureHeader env }

def Message.unsigned : Message → Message
  | .post request => .post (request.unsigned env)
  | message => message

def DeliveryContext.withoutSecret (context : DeliveryContext) : DeliveryContext :=
  { context with secret := "" }

/-- Nobody outside looks at a signature, and no handler of the host at a secret. -/
structure Outside.Blind (outside : Outside) : Prop where
  post : ∀ sent sent' request request', sent.map (·.unsigned env) = sent'.map (·.unsigned env) →
    request.unsigned env = request'.unsigned env →
    outside.post sent request = outside.post sent' request'
  requestNotification : ∀ sent sent' request,
    sent.map (·.unsigned env) = sent'.map (·.unsigned env) →
    outside.requestNotification sent request = outside.requestNotification sent' request
  signal : ∀ sent sent' frame, sent.map (·.unsigned env) = sent'.map (·.unsigned env) →
    outside.signal sent frame = outside.signal sent' frame
  host : ∀ sent sent' handler context context',
    sent.map (·.unsigned env) = sent'.map (·.unsigned env) →
    context.withoutSecret = context'.withoutSecret →
    outside.host sent handler context = outside.host sent' handler context'

/-- The two calls whose response is the secret envelope. -/
def ApiRequest.showsSecret : ApiRequest → Bool
  | .create _ | .secret _ => true
  | _ => false

def Answer.showsSecret : Answer → Bool
  | .response request _ => request.showsSecret
  | .catalog _ => false

def Site.publicAnswers (s : Site) : List Answer :=
  s.answers.filter fun answer => !answer.showsSecret

/-- Nothing but the signatures and the secret envelopes tells two installations apart. -/
structure Indistinguishable (s t : Site) : Prop where
  sent : s.sent.map (·.unsigned env) = t.sent.map (·.unsigned env)
  outbox : s.store.outbox = t.store.outbox
  deliveries : s.store.deliveries = t.store.deliveries
  answers : s.publicAnswers = t.publicAnswers

end

/-! ## What may differ -/

/-- No secret, or one in both runs. -/
def BothSecret (s t : String) : Prop := s = "" ↔ t = ""

/-- The same operation, but for the secrets it draws or is given. -/
inductive Operation.SameBut (S : String → String → Prop) : Operation → Operation → Prop where
  | same (operation : Operation) : SameBut S operation operation
  | serve (user : User) (id : Uuid) (draw draw' : TokenBytes) (request : ApiRequest) :
      SameBut S (.serve user ⟨id, draw⟩ request) (.serve user ⟨id, draw'⟩ request)
  | create (args : CreateArgs) (secret : Option String) (id : Uuid) (draw draw' : TokenBytes) :
      Option.Rel S args.secret secret →
      SameBut S (.create args ⟨id, draw⟩) (.create { args with secret } ⟨id, draw'⟩)
  | callCreate (args : CreateArgs) (draw draw' : TokenBytes) (id : Uuid) (now : Time) :
      SameBut S (.call (.create args draw id now)) (.call (.create args draw' id now))
  | rotate (id : Uuid) (draw draw' : TokenBytes) :
      SameBut S (.call (.rotate id draw)) (.call (.rotate id draw'))

/-- The secrets, where both runs have one and the database takes both or neither. -/
def secretVeil (env : Env) : Veil env where
  secret s t := BothSecret s t ∧ env.backend.acceptsChars 128 s = env.backend.acceptsChars 128 t
  payload := Eq
  error := Eq
  secret_stored h := h.2
  payload_stored h := congrArg _ h
  error_stored h := congrArg _ h
  error_refl _ := rfl

theorem secretVeil_secret_refl (env : Env) (s : String) : (secretVeil env).secret s s :=
  ⟨Iff.rfl, rfl⟩

variable {env : Env} {σ τ : Store} {row row' : Delivery} {rule rule' : Subscription}

theorem eq_of_secretVeil (row row' : Delivery) (h : (secretVeil env).Row row row') :
    row = row' := by
  cases h with
  | mk payload lastError hp he => cases hp; cases he; rfl

/-! ## An attempt -/

/-- Without its signature a request does not depend on the secret. -/
theorem webhookRequest_unsigned (now : Time) (timestamp : Int) (context : DeliveryContext)
    (secret : String) (both : BothSecret context.secret secret) :
    (webhookRequest env now timestamp context).map (·.unsigned env) =
      (webhookRequest env now timestamp { context with secret }).map (·.unsigned env) := by
  have headers : ∀ body,
      (webhookHeaders env context body timestamp).filter
          (fun header => header.1 ≠ signatureHeader env) =
        (webhookHeaders env { context with secret } body timestamp).filter
          fun header => header.1 ≠ signatureHeader env := by
    intro body
    unfold webhookHeaders
    by_cases unsigned : context.secret = ""
    · simp only [unsigned, both.1 unsigned, if_true]
    · have out : decide (signatureHeader env ≠ signatureHeader env) = false := by simp
      simp only [unsigned, mt both.2 unsigned, if_false]
      rw [@Assoc.filter_set _ _ _ (fun name => name ≠ signatureHeader env) _ out,
        @Assoc.filter_set _ _ _ (fun name => name ≠ signatureHeader env) _ out]
  unfold webhookRequest
  dsimp only
  cases context.target with
  | obj fields =>
    dsimp only
    cases fields.lookup "url" with
    | some url =>
      refine congrArg Except.ok ?_
      exact congrArg (Request.mk url (encodeBody env now context)) (headers _)
    | none => rfl
  | _ => rfl

/-- The built-in handlers behave the same whatever the secret is. -/
theorem behave_unsigned {outside : Outside} (blind : outside.Blind env) (m : Moment)
    {sent sent' : List Message} (same : sent.map (·.unsigned env) = sent'.map (·.unsigned env))
    (handler : Handler) (context : DeliveryContext) (secret : String)
    (both : BothSecret context.secret secret) :
    handler.behave env outside m sent context =
      handler.behave env outside m sent' { context with secret } := by
  cases handler with
  | deliverWebhook =>
    have requests := @webhookRequest_unsigned env m.now m.timestamp context secret both
    unfold Handler.behave deliverWebhook
    dsimp only
    rcases Lockstep.map_eq_cases requests with
      ⟨exc, left, right⟩ | ⟨request, request', left, right, alike⟩
    · rw [left, right]
    · rw [left, right]
      dsimp only
      rw [blind.post sent sent' request request' same alike]
  | deliverNotification =>
    have asked : outside.requestNotification sent = outside.requestNotification sent' :=
      funext fun request => blind.requestNotification sent sent' request same
    unfold Handler.behave deliverNotification
    dsimp only
    rw [asked]
    rfl
  | deliverWs =>
    have asked : outside.signal sent = outside.signal sent' :=
      funext fun frame => blind.signal sent sent' frame same
    unfold Handler.behave deliverWs
    dsimp only
    rw [asked]
    rfl
  | deliverCustom => exact blind.host sent sent' _ _ _ same rfl
  | host name => exact blind.host sent sent' _ _ _ same rfl

theorem message_unsigned (m : Moment) (handler : Handler) (context : DeliveryContext)
    (secret : String) (both : BothSecret context.secret secret) :
    (handler.message env m context).map (·.unsigned env) =
      (handler.message env m { context with secret }).map (·.unsigned env) := by
  cases handler with
  | deliverWebhook =>
    have requests := @webhookRequest_unsigned env m.now m.timestamp context secret both
    unfold Handler.message
    dsimp only
    rcases Lockstep.map_eq_cases requests with
      ⟨exc, left, right⟩ | ⟨request, request', left, right, alike⟩
    · rw [left, right]
    · rw [left, right]
      exact congrArg (fun request => [Message.post request]) alike
  | _ => rfl

theorem buildContext_secretVeil (row : Delivery) (h : (secretVeil env).Rule rule rule') :
    ∃ secret, BothSecret (buildContext row rule).secret secret ∧
      buildContext row rule' = { buildContext row rule with secret } := by
  cases h with
  | mk secret both => exact ⟨secret, both.1, rfl⟩

theorem attempts_secretVeil {outside : Outside} (blind : outside.Blind env) (m : Moment) (id : Uuid)
    (s t : Site) (h : (secretVeil env).Sites (·.unsigned env) s t) :
    (secretVeil env).Attempts outside (·.unsigned env) m id s t := by
  refine h.handled (fun row rule row' rule' handler hr hs => ?_) ?_
  · cases eq_of_secretVeil _ _ hr
    obtain ⟨secret, both, context⟩ := buildContext_secretVeil row hs
    rw [context]
    exact message_unsigned m handler _ secret both
  · intro row rule row' rule' handler _ _ hr hs _ _
    cases eq_of_secretVeil _ _ hr
    obtain ⟨secret, both, context⟩ := buildContext_secretVeil row hs
    rw [context, ← behave_unsigned blind m h.sent handler _ secret both]
    exact .refl row _

/-! ## Authoring -/

/-- The database takes any two generated secrets, or none. -/
theorem generateSecret_secretVeil (draw draw' : TokenBytes) :
    Lockstep.Both (secretVeil env).secret (generateSecret env.settings draw)
      (generateSecret env.settings draw') := by
  unfold generateSecret
  cases bytes : orInt env.settings.secretBytes 32 with
  | negSucc n => exact .error _ _
  | ofNat n =>
    have nonempty : ∀ draw : TokenBytes, String.ofList (base64url (draw n).toList) ≠ "" := by
      intro draw
      refine @generateSecret_ne_empty env.settings draw _ ?_
      unfold generateSecret
      rw [bytes]
    have plain : ∀ draw : TokenBytes,
        env.backend.acceptsText (String.ofList (base64url (draw n).toList)) = true := by
      intro draw
      refine Backend.acceptsText_of_not_mem fun nul => ?_
      rw [String.toList_ofList] at nul
      exact absurd (mem_base64url _ _ nul) (by decide)
    refine .ok ⟨iff_of_false (nonempty draw) (nonempty draw'), ?_⟩
    simp only [Backend.acceptsChars, plain, String.length_ofList, length_base64url,
      Vector.length_toList]

theorem initialSecret_secretVeil {args : CreateArgs} {secret : Option String}
    (given : Option.Rel (secretVeil env).secret args.secret secret) (draw draw' : TokenBytes) :
    Lockstep.Both (secretVeil env).secret (initialSecret env args draw)
      (initialSecret env { args with secret } draw') := by
  unfold initialSecret
  generalize args.secret = left at given
  cases given with
  | some same => exact .ok same
  | none =>
    dsimp only
    cases isSigned env args.delivery with
    | none => exact .error _ _
    | some signed =>
      cases signed with
      | false => exact .ok (secretVeil_secret_refl env _)
      | true =>
        dsimp only
        rcases Lockstep.both_cases (@generateSecret_secretVeil env draw draw') with
          ⟨_, _, left, right⟩ | ⟨_, _, left, right, same⟩
        · rw [left, right]
          exact .error _ _
        · rw [left, right]
          exact .ok same

theorem createSubscription_secretVeil {args : CreateArgs} {secret : Option String}
    (given : Option.Rel (secretVeil env).secret args.secret secret) (owned : Nat)
    (draw draw' : TokenBytes) (id : Uuid) (now : Time) :
    Lockstep.Both (secretVeil env).Rule (createSubscription env args owned draw id now)
      (createSubscription env { args with secret } owned draw' id now) := by
  unfold createSubscription
  dsimp only
  cases validateSubscription env args.eventType args.delivery args.target args.payloadFilter with
  | error exc => exact .error _ _
  | ok u =>
    simp only [bind, Except.bind, pure, Except.pure, refuse]
    split
    · exact .error _ _
    · rcases Lockstep.both_cases (initialSecret_secretVeil given draw draw') with
        ⟨_, _, left, right⟩ | ⟨_, _, left, right, same⟩
      · rw [left, right]
        exact .error _ _
      · rw [left, right]
        exact .ok (.mk _ same)

theorem rotateSecret_secretVeil (h : (secretVeil env).Rule rule rule') (draw draw' : TokenBytes) :
    Lockstep.Both (secretVeil env).secret (rotateSecret env rule draw)
      (rotateSecret env rule' draw') := by
  unfold rotateSecret
  rw [← h.delivery]
  cases isSigned env rule.delivery with
  | none => exact .error _ _
  | some signed =>
    cases signed with
    | false => exact .error _ _
    | true =>
      dsimp only
      rcases Lockstep.both_cases (@generateSecret_secretVeil env draw draw') with
        ⟨_, _, left, right⟩ | ⟨_, _, left, right, same⟩
      · rw [left, right]
        exact .error _ _
      · rw [left, right]
        exact .ok same

/-- An update looks at no secret, and keeps it. -/
theorem updateSubscription_withSecret (rule : Subscription) (changes : Changes) (secret : String) :
    updateSubscription env { rule with secret } changes =
      (updateSubscription env rule changes).map fun new => { new with secret } := by
  unfold updateSubscription
  dsimp only
  cases validateSubscription env (changes.eventType.getD rule.eventType)
      (changes.delivery.getD rule.delivery) (changes.target.getD rule.target)
      (changes.payloadFilter.getD rule.payloadFilter) with
  | error exc => rfl
  | ok u =>
    cases changes.isActive with
    | none => rfl
    | some active => cases active <;> rfl

theorem owned_secretVeil (h : (secretVeil env).Stores σ τ) (owner : Option Uuid) :
    σ.owned owner = τ.owned owner := by
  have same := Lockstep.filter h.subscriptions
    (p := fun rule => rule.ownerId = owner) (q := fun rule => rule.ownerId = owner)
    fun _ _ hr => by cases hr; rfl
  exact same.length_eq

theorem createRule_secretVeil (h : (secretVeil env).Stores σ τ) {args : CreateArgs}
    {secret : Option String} (given : Option.Rel (secretVeil env).secret args.secret secret)
    (id : Uuid) (draw draw' : TokenBytes) :
    (secretVeil env).Stores (σ.createRule env args ⟨id, draw⟩)
      (τ.createRule env { args with secret } ⟨id, draw'⟩) := by
  have created := createSubscription_secretVeil given (σ.owned args.ownerId) draw draw' id σ.clock
  unfold Store.createRule
  dsimp only
  rw [← owned_secretVeil h, ← h.clock]
  rcases Lockstep.both_cases created with ⟨_, _, left, right⟩ | ⟨_, _, left, right, same⟩
  · rw [left, right]
    exact h
  · rw [left, right]
    exact h.tryExec (.create same)

theorem updateSubscription_secretVeil (h : (secretVeil env).Rule rule rule') (changes : Changes) :
    (∃ e, updateSubscription env rule changes = .error e ∧
        updateSubscription env rule' changes = .error e) ∨
      ∃ new new', updateSubscription env rule changes = .ok new ∧
        updateSubscription env rule' changes = .ok new' ∧ (secretVeil env).Rule new new' := by
  cases h with
  | mk secret same =>
    have updated' := @updateSubscription_withSecret env rule changes secret
    cases updated : updateSubscription env rule changes with
    | error e =>
      rw [updated] at updated'
      exact .inl ⟨e, rfl, updated'⟩
    | ok new =>
      rw [updated] at updated'
      refine .inr ⟨new, _, rfl, updated', .mk secret ?_⟩
      rw [updateSubscription_eq_ok updated, Subscription.setActive_secret]
      exact same

theorem callOnce_create_secretVeil (h : (secretVeil env).Stores σ τ) (args : CreateArgs)
    (draw draw' : TokenBytes) (id : Uuid) (now : Time) :
    (secretVeil env).Stores (callOnce env σ (.create args draw id now))
      (callOnce env τ (.create args draw' id now)) := by
  have created := @createSubscription_secretVeil env { args with secret := none } none .none
    (σ.owned args.ownerId) draw draw' id now
  refine h.bindExec ?_
  simp only [Call.write, ← owned_secretVeil h]
  rcases Lockstep.both_cases created with ⟨_, _, left, right⟩ | ⟨_, _, left, right, same⟩
  · rw [left, right]
    exact .none
  · rw [left, right]
    exact .some (.create same)

theorem callOnce_update_secretVeil (h : (secretVeil env).Stores σ τ) (id : Uuid)
    (changes : Changes) :
    (secretVeil env).Stores (callOnce env σ (.update id changes))
      (callOnce env τ (.update id changes)) := by
  refine h.bindExec ?_
  simp only [Call.write]
  rcases Lockstep.option_cases (h.rule id) with ⟨left, right⟩ | ⟨rule, rule', left, right, hr⟩
  · rw [left, right]
    exact .none
  · rw [left, right]
    dsimp only
    rcases updateSubscription_secretVeil hr changes with
      ⟨e, left, right⟩ | ⟨new, new', left, right, same⟩
    · rw [left, right]
      exact .none
    · rw [left, right]
      exact .some (.patch changes same)

theorem callOnce_rotate_secretVeil (h : (secretVeil env).Stores σ τ) (id : Uuid)
    (draw draw' : TokenBytes) :
    (secretVeil env).Stores (callOnce env σ (.rotate id draw))
      (callOnce env τ (.rotate id draw')) := by
  refine h.bindExec ?_
  simp only [Call.write]
  rcases Lockstep.option_cases (h.rule id) with ⟨left, right⟩ | ⟨rule, rule', left, right, hr⟩
  · rw [left, right]
    exact .none
  · have rotated := rotateSecret_secretVeil hr draw draw'
    rw [left, right]
    dsimp only
    rw [← hr.id]
    rcases Lockstep.both_cases rotated with ⟨_, _, left, right⟩ | ⟨_, _, left, right, same⟩
    · rw [left, right]
      exact .none
    · rw [left, right]
      exact .some (.rotate rule.id same)

/-! ## The API -/

/-- A request served in both runs: the same response, unless it shows a secret. -/
inductive Served (env : Env) (shows : Bool) : Response × Store → Response × Store → Prop where
  | mk {response response' : Response} {σ τ : Store} : (shows = false → response = response') →
      (secretVeil env).Stores σ τ → Served env shows (response, σ) (response', τ)

theorem presentSubscription_secretVeil (rule rule' : Subscription)
    (h : (secretVeil env).Rule rule rule') :
    presentSubscription rule = presentSubscription rule' := by
  cases h with
  | mk secret same =>
    have has : decide (rule.secret ≠ "") = decide (secret ≠ "") :=
      decide_eq_decide.2 (not_congr same.1)
    unfold presentSubscription
    dsimp only
    rw [has]

theorem deliveries_secretVeil (h : (secretVeil env).Stores σ τ) : σ.deliveries = τ.deliveries :=
  h.deliveries.eq eq_of_secretVeil

theorem saving_secretVeil (h : (secretVeil env).Stores σ τ) {shows : Bool} {w w' : Write}
    (hw : (secretVeil env).Writes w w') {response response' : Response}
    (same : shows = false → response = response') :
    Served env shows (saving env σ w response) (saving env τ w' response') := by
  unfold saving
  rcases Lockstep.option_cases (h.exec hw) with ⟨left, right⟩ | ⟨_, _, left, right, after⟩
  · rw [left, right]
    exact .mk (fun _ => rfl) h
  · rw [left, right]
    exact .mk same after

section Api
variable {serializers : Serializers} {maxPageSize : Nat} {user : User}

theorem listSubscriptions_secretVeil (h : (secretVeil env).Stores σ τ) (query : QueryParams) :
    listSubscriptions serializers maxPageSize user σ query =
      listSubscriptions serializers maxPageSize user τ query := by
  unfold listSubscriptions
  cases serializers.subscriptionQuery query with
  | error errors => rfl
  | ok validated =>
    have own := Lockstep.filter h.subscriptions
      (p := fun row => user.staff || row.ownerId = some user.pk)
      (q := fun row => user.staff || row.ownerId = some user.pk) fun _ _ hr => by cases hr; rfl
    have named := Lockstep.filter own
      (p := fun row => validated.eventType.all fun name => name = "" || row.eventType = name)
      (q := fun row => validated.eventType.all fun name => name = "" || row.eventType = name)
      fun _ _ hr => by cases hr; rfl
    have active := Lockstep.filter named (p := fun row => validated.isActive.all (row.isActive = ·))
      (q := fun row => validated.isActive.all (row.isActive = ·)) fun _ _ hr => by cases hr; rfl
    have sorted := Lockstep.insertionSort active (r := newestFirst) (s := newestFirst)
      fun _ _ _ _ hab hab' => by cases hab; cases hab'; exact Iff.rfl
    have page := List.forall₂_take (pageSize maxPageSize validated.limit) sorted
    have shown := Lockstep.map_eq page presentSubscription_secretVeil
    exact congrArg (fun rows => Response.data 200 (.arr rows)) shown

/-- The rule a caller may see, or the same denial. -/
theorem scopedSubscription_secretVeil (h : (secretVeil env).Stores σ τ) (id : Uuid) :
    (∃ denied, scopedSubscription user σ id = .error denied ∧
        scopedSubscription user τ id = .error denied) ∨
      ∃ rule rule', scopedSubscription user σ id = .ok rule ∧
        scopedSubscription user τ id = .ok rule' ∧ (secretVeil env).Rule rule rule' := by
  unfold scopedSubscription
  rcases Lockstep.option_cases (h.rule id) with ⟨left, right⟩ | ⟨rule, rule', left, right, hr⟩
  · rw [left, right]
    exact .inl ⟨_, rfl, rfl⟩
  · have owner : rule.ownerId = rule'.ownerId := by cases hr; rfl
    rw [left, right]
    dsimp only
    rw [← owner]
    split
    · exact .inr ⟨_, _, rfl, rfl, hr⟩
    · split
      · exact .inr ⟨_, _, rfl, rfl, hr⟩
      · split
        · exact .inl ⟨_, rfl, rfl⟩
        · exact .inl ⟨_, rfl, rfl⟩

theorem scopedDelivery_secretVeil (h : (secretVeil env).Stores σ τ) (id : Uuid) :
    scopedDelivery user σ id = scopedDelivery user τ id := by
  unfold scopedDelivery
  rw [deliveries_secretVeil h]
  cases τ.deliveries.get? id with
  | none => rfl
  | some row =>
    dsimp only
    rcases @scopedSubscription_secretVeil env σ τ user h row.subscriptionId with
      ⟨denied, left, right⟩ | ⟨_, _, left, right, -⟩
    · rw [left, right]
    · rw [left, right]

theorem unlessDenied_secretVeil (h : (secretVeil env).Stores σ τ) {shows : Bool} (id : Uuid)
    {view view' : Subscription → Response × Store}
    (step : ∀ rule rule', (secretVeil env).Rule rule rule' →
      Served env shows (view rule) (view' rule')) :
    Served env shows (unlessDenied σ (scopedSubscription user σ id) view)
      (unlessDenied τ (scopedSubscription user τ id) view') := by
  rcases @scopedSubscription_secretVeil env σ τ user h id with
    ⟨denied, left, right⟩ | ⟨rule, rule', left, right, hr⟩
  · rw [left, right]
    exact .mk (fun _ => rfl) h
  · rw [left, right]
    exact step rule rule' hr

theorem postSubscription_secretVeil (h : (secretVeil env).Stores σ τ) (id : Uuid)
    (draw draw' : TokenBytes) (data : Json) :
    Served env true (postSubscription env serializers user ⟨id, draw⟩ σ data)
      (postSubscription env serializers user ⟨id, draw'⟩ τ data) := by
  unfold postSubscription
  cases serializers.create data with
  | error errors => exact .mk (fun _ => rfl) h
  | ok validated =>
    have created : Lockstep.Both (secretVeil env).Rule
        (createSubscription env (validated.args user) (σ.owned (some user.pk)) draw id σ.clock)
        (createSubscription env (validated.args user) (σ.owned (some user.pk)) draw' id σ.clock) :=
      @createSubscription_secretVeil env (validated.args user) none .none _ draw draw' id _
    dsimp only
    rw [← owned_secretVeil h, ← h.clock]
    rcases Lockstep.both_cases created with ⟨_, _, left, right⟩ | ⟨_, _, left, right, hr⟩
    · rw [left, right]
      exact .mk nofun h
    · rw [left, right]
      exact saving_secretVeil h (.create hr) nofun

theorem postSecret_secretVeil (h : (secretVeil env).Stores σ τ)
    (hr : (secretVeil env).Rule rule rule') (id : Uuid) (draw draw' : TokenBytes) :
    Served env true (postSecret env ⟨id, draw⟩ σ rule) (postSecret env ⟨id, draw'⟩ τ rule') := by
  have rotated := rotateSecret_secretVeil hr draw draw'
  unfold postSecret
  dsimp only
  rw [← hr.id]
  rcases Lockstep.both_cases rotated with ⟨_, _, left, right⟩ | ⟨_, _, left, right, same⟩
  · rw [left, right]
    exact .mk nofun h
  · rw [left, right]
    exact saving_secretVeil h (.rotate rule.id same) nofun

theorem patchSubscription_secretVeil (h : (secretVeil env).Stores σ τ)
    (hr : (secretVeil env).Rule rule rule') (data : Json) :
    Served env false (patchSubscription env serializers σ rule data)
      (patchSubscription env serializers τ rule' data) := by
  unfold patchSubscription
  cases serializers.patch data with
  | error errors => exact .mk (fun _ => rfl) h
  | ok changes =>
    dsimp only
    rcases updateSubscription_secretVeil hr changes with
      ⟨e, left, right⟩ | ⟨new, new', left, right, same⟩
    · rw [left, right]
      exact .mk (fun _ => rfl) h
    · rw [left, right]
      dsimp only
      rw [← h.clock]
      refine saving_secretVeil h (.patch changes same) fun _ => ?_
      rw [presentSubscription_secretVeil _ _ (same.saved σ.clock true)]

/-- Whoever asks is answered the same, but for the secret envelopes. -/
theorem respond_secretVeil (h : (secretVeil env).Stores σ τ) (id : Uuid) (draw draw' : TokenBytes)
    (request : ApiRequest) :
    Served env request.showsSecret
      (respond env serializers maxPageSize user ⟨id, draw⟩ request σ)
      (respond env serializers maxPageSize user ⟨id, draw'⟩ request τ) := by
  cases request with
  | list query => exact .mk (fun _ => listSubscriptions_secretVeil h query) h
  | create data => exact postSubscription_secretVeil h id draw draw' data
  | detail rule =>
    refine unlessDenied_secretVeil h rule fun rule rule' hr => .mk (fun _ => ?_) h
    rw [getSubscription, getSubscription, presentSubscription_secretVeil _ _ hr]
  | patch rule data =>
    exact unlessDenied_secretVeil h rule fun _ _ hr => patchSubscription_secretVeil h hr data
  | delete rule =>
    refine unlessDenied_secretVeil h rule fun rule rule' hr => ?_
    rw [deleteSubscription, deleteSubscription, ← hr.id]
    exact saving_secretVeil h (.remove rule.id) fun _ => rfl
  | secret rule =>
    exact unlessDenied_secretVeil h rule fun _ _ hr => postSecret_secretVeil h hr id draw draw'
  | deliveries rule query =>
    refine unlessDenied_secretVeil h rule fun rule rule' hr => .mk (fun _ => ?_) h
    rw [listDeliveries, listDeliveries, deliveries_secretVeil h, hr.id]
  | delivery row =>
    simp only [respond, scopedDelivery_secretVeil h row]
    cases scopedDelivery user τ row with
    | error denied => exact .mk (fun _ => rfl) h
    | ok row => exact .mk (fun _ => rfl) h
  | replay row =>
    simp only [respond, scopedDelivery_secretVeil h row]
    cases scopedDelivery user τ row with
    | error denied => exact .mk (fun _ => rfl) h
    | ok row =>
      simp only [unlessDenied, postReplay, ← h.clock]
      cases replay row σ.clock with
      | error exc => exact .mk (fun _ => rfl) h
      | ok new =>
        have same : (secretVeil env).Row new new := .mk new.payload new.lastError rfl rfl
        exact saving_secretVeil h (.replay same) fun _ => rfl

end Api

/-! ## Runs -/

/-- Two installations that are alike but for the secrets. -/
structure SameButSecrets (env : Env) (s t : Site) : Prop
    extends (secretVeil env).Sites (·.unsigned env) s t where
  answers : s.publicAnswers = t.publicAnswers

theorem SameButSecrets.indistinguishable {s t : Site} (h : SameButSecrets env s t) :
    Indistinguishable env s t :=
  ⟨h.sent, h.store.outbox, deliveries_secretVeil h.store, h.answers⟩

section
variable {outside : Outside} {api : Api} {s t : Site}

theorem publicAnswers_of_secret (s : Site) (store : Store) {answer : Answer}
    (shows : answer.showsSecret = true) :
    Site.publicAnswers { s with store, answers := s.answers ++ [answer] } = s.publicAnswers := by
  simp [Site.publicAnswers, List.filter_append, shows]

theorem publicAnswers_of_public (s : Site) (store : Store) {answer : Answer}
    (shows : answer.showsSecret = false) :
    Site.publicAnswers { s with store, answers := s.answers ++ [answer] } =
      s.publicAnswers ++ [answer] := by
  simp [Site.publicAnswers, List.filter_append, shows]

theorem SameButSecrets.answered (h : SameButSecrets env s t) {request : ApiRequest}
    {p q : Response × Store} (served : Served env request.showsSecret p q) :
    SameButSecrets env
      { s with store := p.2, answers := s.answers ++ [.response request p.1] }
      { t with store := q.2, answers := t.answers ++ [.response request q.1] } := by
  cases served with
  | mk same after =>
    refine ⟨⟨after, h.sent⟩, ?_⟩
    have shown (response : Response) :
      (Answer.response request response).showsSecret = request.showsSecret := rfl
    cases shows : request.showsSecret with
    | true =>
      rw [publicAnswers_of_secret s _ ((shown _).trans shows),
        publicAnswers_of_secret t _ ((shown _).trans shows)]
      exact h.answers
    | false =>
      rw [publicAnswers_of_public s _ ((shown _).trans shows),
        publicAnswers_of_public t _ ((shown _).trans shows), h.answers, same shows]

theorem SameButSecrets.serve (h : SameButSecrets env s t) (user : User) (id : Uuid)
    (draw draw' : TokenBytes) (request : ApiRequest) :
    SameButSecrets env (s.serve env api user ⟨id, draw⟩ request)
      (t.serve env api user ⟨id, draw'⟩ request) :=
  h.answered (respond_secretVeil h.store id draw draw' request)

/-- What an operation without an answer leaves. -/
theorem SameButSecrets.silent (h : SameButSecrets env s t) {s' t' : Site}
    (sites : (secretVeil env).Sites (·.unsigned env) s' t') (left : s'.answers = s.answers)
    (right : t'.answers = t.answers) : SameButSecrets env s' t' := by
  refine ⟨sites, ?_⟩
  unfold Site.publicAnswers
  rw [left, right]
  exact h.answers

theorem SameButSecrets.within (h : SameButSecrets env s t) (stores : (secretVeil env).Stores σ τ) :
    SameButSecrets env { s with store := σ } { t with store := τ } :=
  h.silent ⟨stores, h.sent⟩ rfl rfl

theorem sound_secretVeil (blind : outside.Blind env) (m : Moment) (id : Uuid) (s t : Site)
    (h : (secretVeil env).Sites (·.unsigned env) s t) (_ : True) :
    (secretVeil env).Attempts outside (·.unsigned env) m id s t :=
  attempts_secretVeil blind m id s t h

theorem events_secretVeil (event : Event) : (secretVeil env).Events event event :=
  ⟨rfl, rfl, rfl, rfl⟩

theorem SameButSecrets.drain (h : SameButSecrets env s t) (blind : outside.Blind env)
    (moments : Uuid → Moment) (now : Time) (limit : Nat) :
    SameButSecrets env (s.drain env outside moments now limit)
      (t.drain env outside moments now limit) := by
  refine h.silent ?_ (answers_drain moments now limit s) (answers_drain moments now limit t)
  refine h.toSites.drain (sound_secretVeil blind) ?_
  exact Lockstep.along_of_forall (fun _ _ _ _ _ _ _ => trivial) _ _ _

theorem SameButSecrets.dispatch (h : SameButSecrets env s t) (blind : outside.Blind env)
    (event : Event) (plannings : Uuid → Planning) (moments : Uuid → Moment) :
    SameButSecrets env (s.dispatch env outside event plannings moments)
      (t.dispatch env outside event plannings moments) := by
  refine h.silent ?_ (answers_dispatch event plannings moments s)
    (answers_dispatch event plannings moments t)
  refine h.toSites.dispatch (sound_secretVeil blind) (events_secretVeil event) (fun _ _ => rfl) ?_
  exact Lockstep.along_of_forall (fun _ _ _ => trivial) _ _ _

theorem SameButSecrets.create (h : SameButSecrets env s t) {args : CreateArgs}
    {secret : Option String} (given : Option.Rel (secretVeil env).secret args.secret secret)
    (id : Uuid) (draw draw' : TokenBytes) :
    SameButSecrets env (s.perform env outside api (.create args ⟨id, draw⟩))
      (t.perform env outside api (.create { args with secret } ⟨id, draw'⟩)) :=
  h.within (createRule_secretVeil h.store given id draw draw')

/-- One operation on each, the same but for the secrets it draws or is given. -/
theorem SameButSecrets.perform (h : SameButSecrets env s t) (blind : outside.Blind env)
    {operation operation' : Operation}
    (same : operation.SameBut (secretVeil env).secret operation') :
    SameButSecrets env (s.perform env outside api operation)
      (t.perform env outside api operation') := by
  cases same with
  | serve user id draw draw' request => exact h.serve user id draw draw' request
  | create args secret id draw draw' given => exact h.create given id draw draw'
  | callCreate args draw draw' id now =>
    exact h.within (callOnce_create_secretVeil h.store args draw draw' id now)
  | rotate id draw draw' => exact h.within (callOnce_rotate_secretVeil h.store id draw draw')
  | same =>
    cases operation with
    | tick time => exact h.silent (h.toSites.tick time) rfl rfl
    | serve user drawn request => exact h.serve user drawn.id drawn.secret drawn.secret request
    | catalog process =>
      refine ⟨⟨h.store, h.sent⟩, ?_⟩
      rw [Site.perform, publicAnswers_of_public s s.store rfl, Site.perform,
        publicAnswers_of_public t t.store rfl, h.answers]
    | create args drawn =>
      have given : Option.Rel (secretVeil env).secret args.secret args.secret := by
        cases args.secret with
        | none => exact .none
        | some secret => exact .some (secretVeil_secret_refl env secret)
      exact h.create given drawn.id drawn.secret drawn.secret
    | call call =>
      cases call with
      | create args draw id now =>
        exact h.within (callOnce_create_secretVeil h.store args draw draw id now)
      | update id changes => exact h.within (callOnce_update_secretVeil h.store id changes)
      | rotate id draw => exact h.within (callOnce_rotate_secretVeil h.store id draw draw)
    | dispatch event plannings moments => exact h.dispatch blind event plannings moments
    | drain moments now limit => exact h.drain blind moments now limit
    | replay id now => exact h.within (h.store.replay id now)
    | purge now => exact h.within (h.store.purge now)

theorem SameButSecrets.run (h : SameButSecrets env s t) (blind : outside.Blind env)
    {operations operations' : List Operation}
    (same : List.Forall₂ (Operation.SameBut (secretVeil env).secret) operations operations') :
    SameButSecrets env (s.run env outside api operations) (t.run env outside api operations') := by
  induction same generalizing s t with
  | nil => exact h
  | cons head tail ih => exact ih (h.perform blind head)

end

/-- Two runs of the same operations, from stores that are the same, differ in nothing that is shown
where they differ only in the secrets, and the database takes the two values of each or neither. -/
theorem secrets_do_not_leak (env : Env) (outside : Outside) (api : Api) (blind : outside.Blind env)
    (σ τ : Store) (same : (secretVeil env).Stores σ τ) (operations operations' : List Operation)
    (alike : List.Forall₂ (Operation.SameBut (secretVeil env).secret) operations operations') :
    Indistinguishable env (σ.site.run env outside api operations)
      (τ.site.run env outside api operations') := by
  have start : SameButSecrets env σ.site τ.site := ⟨⟨same, rfl⟩, rfl⟩
  exact (start.run blind alike).indistinguishable

/-! ## Two secrets -/

def silentOutside : Outside where
  post _ _ := .response 200 ""
  requestNotification _ _ := .answered true
  signal _ _ := .sent
  host _ _ _ := .returnedOther

theorem blind_silentOutside (env : Env) : silentOutside.Blind env :=
  ⟨fun _ _ _ _ _ _ => rfl, fun _ _ _ _ => rfl, fun _ _ _ _ => rfl, fun _ _ _ _ _ _ _ => rfl⟩

theorem signedStores : (secretVeil sampleEnv).Stores (signedStore "s") (signedStore "t") where
  clock := rfl
  minted := rfl
  deliveries := List.Forall₂.nil
  subscriptions :=
    List.Forall₂.cons (.mk "t" ⟨iff_of_false (by decide) (by decide), rfl⟩) List.Forall₂.nil
  outbox := rfl

/-- An event, its delivery, and a listing of the rules. -/
def deliverAndList : List Operation :=
  [.dispatch sampleEvent (fun _ => samplePlanning) fun _ => sampleMoment,
   .drain (fun _ => sampleMoment) 1 10, .serve sampleStaff sampleDrawn (.list [])]

/-- Signed with one secret or with another: one request is sent, and it is the same. -/
theorem secrets_do_not_leak_signed :
    ((signedStore "s").site.run sampleEnv silentOutside sampleApi deliverAndList).sent.length = 1 ∧
      Indistinguishable sampleEnv
        ((signedStore "s").site.run sampleEnv silentOutside sampleApi deliverAndList)
        ((signedStore "t").site.run sampleEnv silentOutside sampleApi deliverAndList) := by
  refine ⟨by decide +kernel, ?_⟩
  refine secrets_do_not_leak sampleEnv silentOutside sampleApi (blind_silentOutside sampleEnv) _ _
    signedStores _ _ ?_
  exact List.forall₂_same.2 fun operation _ => .same operation

/-- A database that enforces the length of a column. -/
def strictEnv : Env :=
  { sampleEnv with backend := ⟨true, true, fun _ => true, rfl, fun _ => true, true⟩ }

def givenSecret (secret : String) : CreateArgs :=
  ⟨"listing.published", "webhook", webhookTarget, .obj [], none, none, "", none, some secret⟩

/-- A rule created with a given secret, and a listing. -/
def createAndList (secret : String) : List Operation :=
  [.create (givenSecret secret) sampleDrawn, .serve sampleStaff sampleDrawn (.list [])]

def longSecret : String := String.ofList (List.replicate 129 's')

/-- How many rows an answer lists. -/
def Answer.listed : Answer → Nat
  | .response _ (.data _ (.arr rows)) => rows.length
  | _ => 0

/-- Two runs that differ in a secret, which is not empty in either. One is too long for its column:
the rule is refused, and the next listing is without it. -/
theorem refused_secret_shows :
    silentOutside.Blind strictEnv ∧
      List.Forall₂ (Operation.SameBut BothSecret) (createAndList "s") (createAndList longSecret) ∧
      ¬Indistinguishable strictEnv
        (emptyStore.site.run strictEnv silentOutside sampleApi (createAndList "s"))
        (emptyStore.site.run strictEnv silentOutside sampleApi (createAndList longSecret)) := by
  refine ⟨blind_silentOutside strictEnv, ?_, fun same => ?_⟩
  · have given : Option.Rel BothSecret (some "s") (some longSecret) := .some
      (iff_of_false (by decide) (by decide +kernel))
    exact .cons (.create (givenSecret "s") _ _ _ _ given) (.cons (.same _) .nil)
  · have listed := congrArg (List.map Answer.listed) same.answers
    revert listed
    decide +kernel

end Webhooks
