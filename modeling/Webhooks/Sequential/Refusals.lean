import Webhooks.Sequential.Scoping

/-!
# Refusals are typed

A view turns a `WebhooksError` into its envelope and lets everything else through. Each
service calls helpers with exceptions of their own; some calls are wrapped, and the one
`rotate_secret` makes to learn whether the type is signed is not. What is left once every
call is accounted for: a validator of the host that raises, a `SECRET_BYTES` the generator
or the column does not take, a value the database refuses.
-/
namespace Webhooks

/-- The four services behind the views, with what a view hands over: the validated data of a
creation, a loaded rule with the changes to it, a loaded rule, a loaded delivery. -/
inductive ServiceCall where
  | create (user : User) (data : CreateData)
  | update (rule : Subscription) (changes : Changes)
  | rotate (rule : Subscription)
  | replay (row : Delivery)

section
variable (env : Env) (drawn : Drawn) (σ : Store)

/-- Compute, then save what was computed. -/
def savingResult {α : Type} (computed : Except ServiceError α) (write : α → Write) :
    Except ServiceError Unit × Store :=
  match computed with
  | .error e => (.error e, σ)
  | .ok a =>
    match exec env σ (write a) with
    | some σ' => (.ok (), σ')
    | none => (.error (.raised databaseError), σ)

def ServiceCall.run : ServiceCall → Except ServiceError Unit × Store
  | .create user data =>
    savingResult env σ
      (createSubscription env (data.args user) (σ.owned (some user.pk)) drawn.secret drawn.id
        σ.clock) .create
  | .update rule changes =>
    savingResult env σ (updateSubscription env rule changes) (.patch · changes)
  | .rotate rule => savingResult env σ (rotateSecret env rule drawn.secret) (.rotate rule.id)
  | .replay row => savingResult env σ (Webhooks.replay row σ.clock) .replay

/-- The call succeeds, or raises a `WebhooksError` and has written nothing. -/
def ServiceCall.IsTyped (call : ServiceCall) : Prop :=
  ∀ e, (call.run env drawn σ).1 = .error e →
    (∃ refusal, e = .refused refusal) ∧ (call.run env drawn σ).2 = σ

/-- The row is as the view has just loaded it; an id from `uuid4` is free. -/
def ServiceCall.IsFresh : ServiceCall → Prop
  | .create _ _ => σ.subscriptions.get? drawn.id = none
  | .update rule _ | .rotate rule =>
    σ.subscriptions.get? rule.id = some rule ∧ env.backend.acceptsSubscription rule = true
  | .replay row => σ.deliveries.get? row.id = some row ∧
      env.backend.acceptsDelivery row = true ∧ (σ.subscriptions.get? row.subscriptionId).isSome

/-! ## What each call asks for -/

/-- Where validation comes to the target, the validator of the type answers or raises
`InvalidTarget`. -/
def TargetAnswers (eventType delivery : String) (target : Json) : Prop :=
  eventType ∈ watchedEvents env → (resolveDelivery env delivery).isSome →
    ∀ exc, validateTarget env delivery target ≠ .error (.raised exc)

/-- `SECRET_BYTES` is a size the generator takes and the column has room for: 96 bytes are 128
characters. -/
def SecretFits : Prop :=
  0 ≤ orInt env.settings.secretBytes 32 ∧
    (env.backend.enforcesLength = true → orInt env.settings.secretBytes 32 ≤ 96)

/-- The database takes what a client writes of a rule. -/
def FieldsFit (eventType delivery : String) (target payloadFilter : Json) (description : String) :
    Prop :=
  env.backend.acceptsChars 128 eventType = true ∧ env.backend.acceptsChars 32 delivery = true ∧
    env.backend.acceptsJson target = true ∧
    env.backend.acceptsJson payloadFilter.orEmpty = true ∧
    env.backend.acceptsChars 255 description = true

/-- Nothing but a `WebhooksError` can come of the call. -/
def ServiceCall.Spared : ServiceCall → Prop
  | .create user data =>
    let filter := (data.filter.getD .null).orEmpty
    let cap := env.settings.maxSubscriptionsPerOwner
    TargetAnswers env data.eventType data.delivery data.target ∧
      (validateSubscription env data.eventType data.delivery data.target filter = .ok () →
        (cap ≠ 0 → σ.owned (some user.pk) < cap) →
        (isSigned env data.delivery = some true → SecretFits env) ∧
          FieldsFit env data.eventType data.delivery data.target filter
            (data.description.getD ""))
  | .update rule changes =>
    let eventType := changes.eventType.getD rule.eventType
    let delivery := changes.delivery.getD rule.delivery
    let target := changes.target.getD rule.target
    let filter := changes.payloadFilter.getD rule.payloadFilter
    TargetAnswers env eventType delivery target ∧
      (validateSubscription env eventType delivery target filter = .ok () →
        FieldsFit env eventType delivery target filter
          (changes.description.getD rule.description))
  | .rotate rule =>
    (resolveDelivery env rule.delivery).isSome ∧
      (isSigned env rule.delivery = some true → SecretFits env)
  | .replay _ => True

end

/-! ## The text of a secret -/

variable {env : Env} {drawn : Drawn} {σ : Store}

theorem nul_not_mem_base64url (bytes : List UInt8) : Char.ofNat 0 ∉ base64url bytes := by
  intro mem
  exact absurd (mem_base64url bytes _ mem) (by decide +kernel)

/-- A generated secret exists and fits its column exactly for the right sizes. -/
theorem secretFits_iff (draw : TokenBytes) : SecretFits env ↔
    ∃ secret, generateSecret env.settings draw = .ok secret ∧
      env.backend.acceptsChars 128 secret = true := by
  unfold SecretFits generateSecret
  cases size : orInt env.settings.secretBytes 32 with
  | ofNat n =>
    have length : (String.ofList (base64url (draw n).toList)).length = (4 * n + 2) / 3 := by
      rw [String.length_ofList, length_base64url, Vector.length_toList]
    have text : env.backend.acceptsText (String.ofList (base64url (draw n).toList)) = true :=
      Backend.acceptsText_of_not_mem (by
        rw [String.toList_ofList]
        exact nul_not_mem_base64url _)
    have column : env.backend.acceptsChars 128 (String.ofList (base64url (draw n).toList)) = true ↔
        (env.backend.enforcesLength = true → n ≤ 96) := by
      rw [Backend.acceptsChars, text, length, Bool.true_and]
      cases env.backend.enforcesLength
      · simp
      · simp
        omega
    simp [column]
  | negSucc n => simp

/-! ## How the services raise -/

section
variable {α : Type} {computed : Except ServiceError α} {write : α → Write}

/-- A call is typed if what it computes raises nothing else and the database takes the result. -/
theorem savingResult_typed_iff :
    (∀ e, (savingResult env σ computed write).1 = .error e →
        (∃ refusal, e = .refused refusal) ∧ (savingResult env σ computed write).2 = σ) ↔
      (∀ exc, computed ≠ .error (.raised exc)) ∧
        ∀ a, computed = .ok a → (exec env σ (write a)).isSome = true := by
  unfold savingResult
  cases computed with
  | error e =>
    cases e with
    | refused refusal => simp
    | raised exc => simp
  | ok a =>
    cases saved : exec env σ (write a) <;> simp [saved]

end

theorem runValidator_ne_unknown (validator : ValidatorField) (target : Json) :
    runValidator env validator target ≠ .error .unknownDeliveryType := by
  unfold runValidator
  split
  · cases validateCustomTarget env target <;> simp [Except.mapError]
  · split <;> simp

/-- A type that has been resolved is not unknown to the check of its targets. -/
theorem validateTarget_ne_unknown {name : String} (served : (resolveDelivery env name).isSome)
    (target : Json) : validateTarget env name target ≠ .error .unknownDeliveryType := by
  obtain ⟨spec, known⟩ := Option.isSome_iff_exists.1 served
  unfold validateTarget
  rw [known]
  dsimp only
  split
  · simp
  · split
    · simp
    · split
      · simp
      · split
        · simp
        · simp
        · exact runValidator_ne_unknown _ _

/-- Of the helpers of a validation only the validator of the type raises past it. -/
theorem validate_raises_iff {e d : String} {t p : Json} :
    (∀ exc, validateSubscription env e d t p ≠ .error (.raised exc)) ↔ TargetAnswers env e d t := by
  constructor
  · intro typed watched served exc escapes
    have known : (resolveDelivery env d).isNone = false := by simpa using served
    refine typed exc ?_
    unfold validateSubscription
    simp only [watched, known, escapes, not_true_eq_false, if_false, Bool.false_eq_true, bind,
      Except.bind, pure, Except.pure]
    rfl
  · intro answers exc raised
    have result := verdict env e d t p
    generalize validateSubscription env e d t p = ended at raised result
    cases result with
    | badTarget spec error watched known refused =>
      have served : (resolveDelivery env d).isSome := by rw [known]; rfl
      cases error with
      | invalidTarget detail => cases raised
      | unknownDeliveryType => exact validateTarget_ne_unknown served t refused
      | raised exc' => exact answers watched served exc' refused
    | _ => cases raised

theorem resolved_of_valid {e d : String} {t p : Json}
    (h : validateSubscription env e d t p = .ok ()) : (resolveDelivery env d).isSome := by
  have result := verdict env e d t p
  rw [h] at result
  cases result with
  | accepted spec watched known => rw [known]; rfl

/-- A rule the database takes is one whose fields and secret it takes, the count being one of its
integers. -/
theorem acceptsSubscription_iff {rule : Subscription} {filter : Json}
    (normal : rule.payloadFilter = filter.orEmpty)
    (count : env.backend.integers rule.consecutiveFailures = true) :
    env.backend.acceptsSubscription rule = true ↔
      FieldsFit env rule.eventType rule.delivery rule.target filter rule.description ∧
        env.backend.acceptsChars 128 rule.secret = true := by
  unfold Backend.acceptsSubscription FieldsFit
  rw [normal, count]
  simp only [Bool.and_eq_true, and_true]
  tauto

/-- Re-activating writes a count of zero, and else the count stays. -/
theorem acceptsSubscription_setActive {rule : Subscription} (b : Option Bool)
    (count : env.backend.integers rule.consecutiveFailures = true) :
    env.backend.acceptsSubscription (rule.setActive b) = env.backend.acceptsSubscription rule := by
  rcases b with _ | _ | _
  · rfl
  · rfl
  · have zero : env.backend.integers ((0 : Nat) : Int) = true := env.backend.integers_zero
    simp only [Backend.acceptsSubscription, Subscription.setActive, zero, count]

/-- The row a creation inserts, once it has a secret. -/
def CreateArgs.row (args : CreateArgs) (id : Uuid) (now : Time) (secret : String) :
    Subscription where
  id
  ownerId := args.ownerId
  workspaceId := args.workspaceId
  eventType := args.eventType
  delivery := args.delivery
  target := args.target
  payloadFilter := args.payloadFilter.orEmpty
  secret
  description := args.description
  isActive := true
  consecutiveFailures := 0
  disabledAt := none
  lastDeliveryAt := none
  createdBy := args.createdBy
  createdAt := now
  updatedAt := now

section
variable {args : CreateArgs} {owned : Nat} {draw : TokenBytes} {id : Uuid} {now : Time}

theorem createSubscription_of_error {e : ServiceError}
    (invalid : validateSubscription env args.eventType args.delivery args.target
      args.payloadFilter = .error e) :
    createSubscription env args owned draw id now = .error e := by
  simp [createSubscription, invalid, bind, Except.bind]

theorem createSubscription_of_ok
    (valid : validateSubscription env args.eventType args.delivery args.target
      args.payloadFilter = .ok ()) :
    createSubscription env args owned draw id now =
      if env.settings.maxSubscriptionsPerOwner ≠ 0 ∧ args.ownerId.isSome ∧
          env.settings.maxSubscriptionsPerOwner ≤ owned then
        refuse 409 err409SubscriptionCap [("limit", .int env.settings.maxSubscriptionsPerOwner)]
      else (initialSecret env args draw).map (args.row id now) := by
  unfold createSubscription
  simp only [valid, bind, Except.bind, pure, Except.pure, refuse]
  split
  · rfl
  · cases initialSecret env args draw <;> rfl

end

/-- A drawn secret stands between the draw and the save: it must exist and fit. -/
theorem drawn_secret_iff {α : Type} {draw : TokenBytes} {row : String → α} {saves : α → Prop}
    {fields : Prop} (accepted : ∀ secret, saves (row secret) ↔
      fields ∧ env.backend.acceptsChars 128 secret = true) :
    ((∀ exc, ((generateSecret env.settings draw).mapError ServiceError.raised).map row ≠
          .error (.raised exc)) ∧
        ∀ a, ((generateSecret env.settings draw).mapError ServiceError.raised).map row = .ok a →
          saves a) ↔
      SecretFits env ∧ fields := by
  rw [secretFits_iff draw]
  cases generateSecret env.settings draw with
  | error exc => simp [Except.mapError, Except.map]
  | ok secret => simp [Except.mapError, Except.map, accepted, and_comm]

theorem create_typed_iff (user : User) (data : CreateData)
    (free : σ.subscriptions.get? drawn.id = none) :
    (ServiceCall.create user data).IsTyped env drawn σ ↔
      (ServiceCall.create user data).Spared env σ := by
  refine savingResult_typed_iff.trans ?_
  unfold ServiceCall.Spared
  dsimp only
  rw [← validate_raises_iff (p := (data.filter.getD .null).orEmpty)]
  cases valid : validateSubscription env data.eventType data.delivery data.target
      (data.filter.getD .null).orEmpty with
  | error e =>
    rw [@createSubscription_of_error env (data.args user) _ _ _ _ _ valid]
    simp
  | ok u =>
    rw [@createSubscription_of_ok env (data.args user) _ _ _ _ valid]
    have lands (rule : Subscription) (own : rule.id = drawn.id) :
        (exec env σ (.create rule)).isSome = env.backend.acceptsSubscription rule :=
      (Write.Lands.create (own ▸ free)).exec_isSome
    have accepted (secret : String) :
        (exec env σ (.create ((data.args user).row drawn.id σ.clock secret))).isSome = true ↔
          FieldsFit env data.eventType data.delivery data.target (data.filter.getD .null).orEmpty
              (data.description.getD "") ∧ env.backend.acceptsChars 128 secret = true := by
      rw [lands _ rfl]
      exact acceptsSubscription_iff rfl env.backend.integers_zero
    by_cases capped : env.settings.maxSubscriptionsPerOwner ≠ 0 ∧
        env.settings.maxSubscriptionsPerOwner ≤ σ.owned (some user.pk)
    · have full : ¬(env.settings.maxSubscriptionsPerOwner ≠ 0 →
          σ.owned (some user.pk) < env.settings.maxSubscriptionsPerOwner) := by
        intro room
        have := room capped.1
        omega
      rw [if_pos ⟨capped.1, rfl, capped.2⟩]
      simp [refuse, full]
    · have room : env.settings.maxSubscriptionsPerOwner ≠ 0 →
          σ.owned (some user.pk) < env.settings.maxSubscriptionsPerOwner := by
        intro bounded
        by_contra full
        exact capped ⟨bounded, by omega⟩
      rw [if_neg fun h => capped ⟨h.1, h.2.2⟩]
      obtain ⟨spec, known⟩ := Option.isSome_iff_exists.1 (resolved_of_valid valid)
      have signing : isSigned env data.delivery = some spec.signed := by
        rw [isSigned, known]
        rfl
      have secret : initialSecret env (data.args user) drawn.secret =
          if spec.signed then (generateSecret env.settings drawn.secret).mapError .raised
          else .ok "" := by
        unfold initialSecret
        dsimp only [CreateData.args]
        rw [signing]
        cases spec.signed <;> rfl
      have empty : env.backend.acceptsChars 128 "" = true := by
        simp [Backend.acceptsChars, Backend.acceptsText]
      have asked {P : Prop} : ((∀ exc, (.ok u : Except ServiceError Unit) ≠ .error (.raised exc)) ∧
          ((.ok u : Except ServiceError Unit) = .ok () →
            (env.settings.maxSubscriptionsPerOwner ≠ 0 →
              σ.owned (some user.pk) < env.settings.maxSubscriptionsPerOwner) → P)) ↔ P :=
        ⟨fun h => h.2 rfl room, fun h => ⟨fun _ same => (by cases same), fun _ _ => h⟩⟩
      rw [secret, signing, asked]
      cases spec.signed with
      | false => simp [Except.map, accepted, empty]
      | true =>
        have drawn := @drawn_secret_iff env _ drawn.secret _
          (fun rule => (exec env σ (.create rule)).isSome = true) _ accepted
        simpa using drawn

theorem update_typed_iff {rule : Subscription} (changes : Changes)
    (stored : σ.subscriptions.get? rule.id = some rule)
    (fits : env.backend.acceptsSubscription rule = true) :
    (ServiceCall.update rule changes).IsTyped env drawn σ ↔
      (ServiceCall.update rule changes).Spared env σ := by
  refine savingResult_typed_iff.trans ?_
  unfold ServiceCall.Spared
  dsimp only
  rw [← validate_raises_iff (p := changes.payloadFilter.getD rule.payloadFilter)]
  let merged : Subscription := { rule with
    eventType := changes.eventType.getD rule.eventType
    delivery := changes.delivery.getD rule.delivery
    target := changes.target.getD rule.target
    payloadFilter := (changes.payloadFilter.getD rule.payloadFilter).orEmpty
    description := changes.description.getD rule.description }
  simp only [Backend.acceptsSubscription, Bool.and_eq_true] at fits
  obtain ⟨⟨⟨-, secret⟩, -⟩, count⟩ := fits
  have counted : env.backend.integers merged.consecutiveFailures = true := count
  have saves : (exec env σ (.patch (merged.setActive changes.isActive) changes)).isSome = true ↔
      FieldsFit env merged.eventType merged.delivery merged.target
        (changes.payloadFilter.getD rule.payloadFilter) merged.description := by
    have own : (merged.setActive changes.isActive).id = rule.id := Subscription.setActive_id _
    rw [(Write.Lands.patch changes (own ▸ stored)).exec_isSome, Write.accepted,
      acceptsSubscription_setActive changes.isActive counted]
    exact (acceptsSubscription_iff rfl counted).trans (and_iff_left secret)
  cases valid : validateSubscription env (changes.eventType.getD rule.eventType)
      (changes.delivery.getD rule.delivery) (changes.target.getD rule.target)
      (changes.payloadFilter.getD rule.payloadFilter) with
  | error e =>
    have refused : updateSubscription env rule changes = .error e := by
      simp [updateSubscription, valid, bind, Except.bind]
    simp [refused]
  | ok u =>
    have accepted : updateSubscription env rule changes = .ok (merged.setActive changes.isActive) :=
      updateSubscription_ok_iff.2 ⟨valid, rfl⟩
    simp [accepted, saves, merged]

theorem rotate_typed_iff {rule : Subscription} (stored : σ.subscriptions.get? rule.id = some rule) :
    (ServiceCall.rotate rule).IsTyped env drawn σ ↔ (ServiceCall.rotate rule).Spared env σ := by
  refine savingResult_typed_iff.trans ?_
  unfold ServiceCall.Spared
  have signing : isSigned env rule.delivery = (resolveDelivery env rule.delivery).map (·.signed) :=
    rfl
  cases known : resolveDelivery env rule.delivery with
  | none =>
    have raised : rotateSecret env rule drawn.secret =
        .error (.raised ⟨"UnknownDeliveryType", some rule.delivery⟩) := by
      rw [rotateSecret, signing, known]
      rfl
    simp [raised, known]
  | some spec =>
    rw [known, Option.map_some] at signing
    cases signed : spec.signed with
    | false =>
      have refused : rotateSecret env rule drawn.secret =
          refuse 400 err400NotSignedType [("delivery", .str rule.delivery)] := by
        rw [rotateSecret, signing, signed]
      simp [refused, refuse, known, signing, signed]
    | true =>
      have computed : rotateSecret env rule drawn.secret =
          ((generateSecret env.settings drawn.secret).mapError .raised).map fun secret => secret := by
        rw [rotateSecret, signing, signed]
        cases generateSecret env.settings drawn.secret <;> rfl
      rw [computed, @drawn_secret_iff env _ _ _ _ True]
      · simp [known, signing, signed]
      · intro secret
        rw [(Write.Lands.rotate secret stored).exec_isSome, true_and]
        rfl

theorem replay_typed {row : Delivery} (stored : σ.deliveries.get? row.id = some row)
    (accepted : env.backend.acceptsDelivery row = true)
    (parent : (σ.subscriptions.get? row.subscriptionId).isSome) :
    (ServiceCall.replay row).IsTyped env drawn σ := by
  refine savingResult_typed_iff.2 ?_
  unfold Webhooks.replay
  split
  · next dead =>
    refine ⟨nofun, fun new h => ?_⟩
    cases h
    obtain ⟨rule, hrule⟩ := Option.isSome_iff_exists.1 parent
    rw [(@Write.Lands.replay _ (row.requeued σ.clock) _ _ stored rfl hrule).exec_isSome]
    have zero : env.backend.integers ((0 : Nat) : Int) = true := env.backend.integers_zero
    have empty : env.backend.acceptsText "" = true := by simp [Backend.acceptsText]
    simp_all [Write.accepted, Backend.acceptsDelivery, Delivery.requeued]
  · simp

/-- A call on a row as it is stored succeeds or raises a `WebhooksError` and writes nothing then,
if and only if nothing else can come of it. -/
theorem service_typed_iff (call : ServiceCall) (fresh : call.IsFresh env drawn σ) :
    call.IsTyped env drawn σ ↔ call.Spared env σ := by
  cases call with
  | create user data => exact create_typed_iff user data fresh
  | update rule changes => exact update_typed_iff changes fresh.1 fresh.2
  | rotate rule => exact rotate_typed_iff fresh.1
  | replay row => exact ⟨fun _ => trivial, fun _ => replay_typed fresh.1 fresh.2.1 fresh.2.2⟩

/-! ## What the views make of it -/

section
variable {α : Type} {computed : Except ServiceError α} {write : α → Write}

/-- A view that saves what its service computed. -/
def ServiceError.Leaves (view : Response × Store) (call : Except ServiceError Unit × Store) :
    Prop :=
  view.2 = call.2 ∧ ∀ e, call.1 = .error e → view.1 = e.response

theorem leaves_saving {view : Response × Store} (answer : α → Response)
    (refused : ∀ e, computed = .error e → view = (e.response, σ))
    (saved : ∀ a, computed = .ok a → view = saving env σ (write a) (answer a)) :
    ServiceError.Leaves view (savingResult env σ computed write) := by
  cases computed with
  | error e =>
    rw [refused e rfl]
    exact ⟨rfl, fun e' h => by cases h; rfl⟩
  | ok a =>
    rw [saved a rfl]
    unfold savingResult saving
    dsimp only
    cases exec env σ (write a) with
    | none => exact ⟨rfl, fun e' h => by cases h; rfl⟩
    | some σ' => exact ⟨rfl, fun e' h => by cases h⟩

end

/-- What leaves a service leaves its view, a refusal as its envelope and an exception as itself. -/
theorem views_leave (serializers : Serializers) (user : User) {data : Json} {created : CreateData}
    {changes : Changes} (creates : serializers.create data = .ok created)
    (patches : serializers.patch data = .ok changes) (rule : Subscription) (row : Delivery) :
    ServiceError.Leaves (postSubscription env serializers user drawn σ data)
        ((ServiceCall.create user created).run env drawn σ) ∧
      ServiceError.Leaves (patchSubscription env serializers σ rule data)
        ((ServiceCall.update rule changes).run env drawn σ) ∧
      ServiceError.Leaves (postSecret env drawn σ rule)
        ((ServiceCall.rotate rule).run env drawn σ) ∧
      ServiceError.Leaves (postReplay env σ row) ((ServiceCall.replay row).run env drawn σ) := by
  refine ⟨?_, ?_, ?_, ?_⟩
  · refine leaves_saving (fun rule => .data 201 (presentSecret rule)) ?_ ?_ <;> intro _ h
    · simp only [postSubscription, creates, h]
    · simp only [postSubscription, creates, h]
  · refine leaves_saving (fun new => .data 200 (presentSubscription (new.saved σ.clock true)))
      ?_ ?_ <;> intro _ h
    · simp only [patchSubscription, patches, h]
    · simp only [patchSubscription, patches, h]
  · refine leaves_saving (fun secret => .data 200 (presentSecret (rule.withSecret secret σ.clock)))
      ?_ ?_ <;> intro _ h
    · simp only [postSecret, h]
    · simp only [postSecret, h]
  · refine leaves_saving (fun new => .data 200 (presentReplay new)) ?_ ?_ <;> intro _ h
    · simp only [postReplay, h]
    · simp only [postReplay, h]

def hookedRule : Subscription :=
  { sampleRule with
    delivery := "webhook"
    target := .obj [("url", .str "https://example.com/hook")]
    secret := "s3cret" }

def hookedStore : Store :=
  { sampleStore with
    subscriptions := ⟨[hookedRule], List.nodup_singleton _, List.nodup_singleton _⟩ }

theorem service_typed_rotation :
    (ServiceCall.rotate hookedRule).IsTyped sampleEnv sampleDrawn hookedStore :=
  (service_typed_iff (.rotate hookedRule) ⟨rfl, rfl⟩).2
    ⟨rfl, fun _ => ⟨by decide, fun _ => by decide⟩⟩

/-- The settings have dropped the type the rule was written for. -/
def withoutWebhook : Env :=
  { sampleEnv with settings := { defaults with deliveryTypes := [("webhook", none)] } }

theorem rotation_of_removed_type_escapes :
    (ServiceCall.rotate hookedRule).IsFresh withoutWebhook sampleDrawn hookedStore ∧
      ¬(ServiceCall.rotate hookedRule).IsTyped withoutWebhook sampleDrawn hookedStore := by
  refine ⟨⟨rfl, rfl⟩, fun typed => ?_⟩
  have raised : ((ServiceCall.rotate hookedRule).run withoutWebhook sampleDrawn hookedStore).1 =
      .error (.raised ⟨"UnknownDeliveryType", some "webhook"⟩) := rfl
  obtain ⟨⟨refusal, same⟩, -⟩ := typed _ raised
  cases same

end Webhooks
