import Webhooks.Sequential.SameRules
import Webhooks.System.Cap
import Webhooks.System.PayloadCap

/-!
# Writing back what was read

A client that reads a rule and sends the representation back as it is: to the rule itself, or as
a new rule. The representation has more keys than the serializers read, and names the filter as
they do. What it takes is texts that a `CharField` hands on as they are.
-/
namespace Webhooks

/-- A text that a `CharField` has nothing to trim of and nothing to complain about. -/
structure PlainText (maxLength : Nat) (allowBlank : Bool) (text : String) : Prop where
  trimmed : pyStrip text.toList = text.toList
  short : text.length ≤ maxLength
  filled : allowBlank = true ∨ text ≠ ""
  noNul : Char.ofNat 0 ∉ text.toList

/-- Each field reads what its own type is shown as. -/
structure Fields.Faithful (fields : Fields) : Prop where
  char : ∀ maxLength allowBlank text, PlainText maxLength allowBlank text →
    fields.char maxLength allowBlank (.str text) = .ok text
  dict : ∀ members, fields.dict (.obj members) = .ok (.obj members)
  uuid : ∀ id : Uuid, fields.uuid (.str id.str) = .ok id
  boolean : ∀ b, fields.boolean (.bool b) = .ok b

/-- The texts of a rule are plain. -/
structure Subscription.Plain (rule : Subscription) : Prop where
  eventType : PlainText 128 false rule.eventType
  delivery : PlainText 32 false rule.delivery
  description : PlainText 255 true rule.description

variable {env : Env} {fields : Fields} {serializers : Serializers} {maxPageSize : Nat}
  {user : User} {drawn : Drawn} {σ : Store} {rule : Subscription}

/-! ## Reading the representation -/

/-- The keys of a representation that the serializers look for. -/
structure Shows (rule : Subscription) (body : List (String × Json)) : Prop where
  eventType : body.lookup "event_type" = some (.str rule.eventType)
  delivery : body.lookup "delivery" = some (.str rule.delivery)
  target : body.lookup "target" = some rule.target.orEmpty
  filter : body.lookup "filter" = some rule.payloadFilter.orEmpty
  description : body.lookup "description" = some (.str rule.description)
  workspaceId : body.lookup "workspace_id" =
    some (rule.workspaceId.elim .null fun id => .str id.str)
  isActive : body.lookup "is_active" = some (.bool rule.isActive)

theorem shows_presentSubscription (rule : Subscription) :
    ∃ body, presentSubscription rule = .obj body ∧ Shows rule body := by
  refine ⟨_, rfl, ?_⟩
  constructor <;> simp [List.lookup_cons]

theorem isDict_of_valid (valid : rule.valid env) : rule.target.isDict = true := by
  have checked := verdict env rule.eventType rule.delivery rule.target rule.payloadFilter
  rw [show validateSubscription env _ _ _ _ = .ok () from valid] at checked
  cases checked with
  | accepted spec _ known fits =>
    by_contra other
    simp [validateTarget, known, other] at fits

theorem orEmpty_ne_null (value : Json) : value.orEmpty ≠ .null := by
  unfold Json.orEmpty
  split
  · next truthy =>
    rintro rfl
    cases truthy
  · simp

/-- The rule as the serializer of a creation hands it on. -/
def Subscription.createData (rule : Subscription) : CreateData where
  eventType := rule.eventType
  delivery := rule.delivery
  target := rule.target
  filter := some rule.payloadFilter
  description := some rule.description
  workspaceId := rule.workspaceId

/-- The rule as changes of itself. -/
def Subscription.changes (rule : Subscription) : Changes where
  eventType := some rule.eventType
  delivery := some rule.delivery
  target := some rule.target
  payloadFilter := some rule.payloadFilter
  description := some rule.description
  isActive := some rule.isActive

/-- A rule whose representation can be read back. -/
structure Readable (fields : Fields) (rule : Subscription) (body : List (String × Json)) : Prop
    extends Shows rule body where
  faithful : fields.Faithful
  plain : rule.Plain
  dict : rule.target.isDict = true
  normal : rule.payloadFilter.orEmpty = rule.payloadFilter

namespace Readable

variable {body : List (String × Json)}

theorem readsEventType (h : Readable fields rule body) :
    requiredField (fields.char 128 false) "event_type" body = .ok rule.eventType ∧
      optionalField (fields.char 128 false) "event_type" body = .ok (some rule.eventType) := by
  have read := h.faithful.char _ _ _ h.plain.eventType
  simp [requiredField, optionalField, h.eventType, readField, read, Except.map]

theorem readsDelivery (h : Readable fields rule body) :
    requiredField (fields.char 32 false) "delivery" body = .ok rule.delivery ∧
      optionalField (fields.char 32 false) "delivery" body = .ok (some rule.delivery) := by
  have read := h.faithful.char _ _ _ h.plain.delivery
  simp [requiredField, optionalField, h.delivery, readField, read, Except.map]

theorem readsTarget (h : Readable fields rule body) :
    requiredField fields.dict "target" body = .ok rule.target ∧
      optionalField fields.dict "target" body = .ok (some rule.target) := by
  have shown := h.toShows.target
  rw [Json.orEmpty_of_isDict h.dict] at shown
  have read : readField fields.dict rule.target = .ok rule.target := by
    have dict := h.dict
    cases target : rule.target with
    | obj members => exact h.faithful.dict members
    | _ => rw [target] at dict; cases dict
  simp [requiredField, optionalField, shown, read, Except.map]

theorem readsFilter (h : Readable fields rule body) :
    optionalField fields.json "filter" body = .ok (some rule.payloadFilter) := by
  have given := orEmpty_ne_null rule.payloadFilter
  have shown := h.toShows.filter
  rw [h.normal] at given shown
  simp [optionalField, shown, readField_json given, Except.map]

theorem readsDescription (h : Readable fields rule body) :
    optionalField (fields.char 255 true) "description" body = .ok (some rule.description) := by
  have read := h.faithful.char _ _ _ h.plain.description
  simp [optionalField, h.description, readField, read, Except.map]

theorem readsWorkspaceId (h : Readable fields rule body) :
    nullableField fields.uuid "workspace_id" body = .ok rule.workspaceId := by
  have shown := h.workspaceId
  cases workspace : rule.workspaceId with
  | none => simp [nullableField, shown, workspace]
  | some id => simp [nullableField, shown, workspace, readField, h.faithful.uuid, Except.map]

theorem readsIsActive (h : Readable fields rule body) :
    optionalField fields.boolean "is_active" body = .ok (some rule.isActive) := by
  simp [optionalField, h.isActive, readField, h.faithful.boolean, Except.map]

theorem create (h : Readable fields rule body) :
    subscriptionCreate fields (.obj body) = .ok rule.createData := by
  simp only [subscriptionCreate, validateBody, h.readsEventType.1, h.readsDelivery.1,
    h.readsTarget.1, h.readsFilter, h.readsDescription, h.readsWorkspaceId]
  rfl

theorem patch (h : Readable fields rule body) :
    subscriptionPatch fields (.obj body) = .ok rule.changes := by
  simp only [subscriptionPatch, validateBody, h.readsEventType.2, h.readsDelivery.2,
    h.readsTarget.2, h.readsFilter, h.readsDescription, h.readsIsActive]
  rfl

end Readable

/-! ## Writing it back -/

/-- The rule with the strikes of an active one cleared. -/
def Subscription.resubmitted (rule : Subscription) (t : Time) : Subscription :=
  (rule.setActive (some rule.isActive)).saved t true

/-- Another rule for the same reactions, as it is when it has just been created. -/
structure Duplicate (user : User) (rule new : Subscription) : Prop where
  eventType : new.eventType = rule.eventType
  delivery : new.delivery = rule.delivery
  target : new.target = rule.target
  payloadFilter : new.payloadFilter = rule.payloadFilter
  description : new.description = rule.description
  workspaceId : new.workspaceId = rule.workspaceId
  ownerId : new.ownerId = some user.pk
  isActive : new.isActive = true
  consecutiveFailures : new.consecutiveFailures = 0

/-- The user may have one more rule of this delivery type. -/
structure RoomFor (env : Env) (user : User) (σ : Store) (delivery : String) : Prop where
  room : env.settings.maxSubscriptionsPerOwner ≠ 0 →
    σ.owned (some user.pk) < env.settings.maxSubscriptionsPerOwner
  secret : isSigned env delivery = some true → SecretFits env

section
variable {body : List (String × Json)}

theorem patch_shown (h : Readable fields rule body) (valid : rule.valid env)
    (accepted : env.backend.acceptsSubscription rule = true)
    (stored : σ.subscriptions.get? rule.id = some rule)
    (visible : scopedSubscription user σ rule.id = .ok rule) :
    ∃ σ', respond env (serializers.writing fields) maxPageSize user drawn
        (.patch rule.id (.obj body)) σ =
          (.data 200 (presentSubscription (rule.resubmitted σ.clock)), σ') ∧
      (∀ id, σ'.subscriptions.get? id = if id = rule.id then some (rule.resubmitted σ.clock)
        else σ.subscriptions.get? id) ∧
      (∀ id, σ'.deliveries.get? id = σ.deliveries.get? id) := by
  have read : (serializers.writing fields).patch (.obj body) = .ok rule.changes := h.patch
  have counted : env.backend.integers rule.consecutiveFailures = true := by
    simp only [Backend.acceptsSubscription, Bool.and_eq_true] at accepted
    exact accepted.2
  let new := rule.setActive (some rule.isActive)
  have own : new.id = rule.id := Subscription.setActive_id _
  have updated : updateSubscription env rule rule.changes = .ok new := by
    refine updateSubscription_ok_iff.2 ⟨valid, ?_⟩
    simp only [Subscription.changes, Option.getD_some, h.normal]
    rfl
  have lands : (exec env σ (.patch new rule.changes)).isSome = true := by
    rw [(Write.Lands.patch rule.changes (own ▸ stored)).exec_isSome, Write.accepted,
      acceptsSubscription_setActive _ counted]
    exact accepted
  obtain ⟨σ', saved⟩ := Option.isSome_iff_exists.1 lands
  refine ⟨σ', ?_, fun id => ?_, exec_deliveries saved⟩
  · simp only [respond, unlessDenied, visible, patchSubscription, read, updated, saving, saved]
    rfl
  · rw [exec_subscriptions saved, Write.onSubscription, own]
    split
    · next here => simp [here, stored, new, Subscription.resubmitted]
    · rfl

theorem post_shown (h : Readable fields rule body) (valid : rule.valid env)
    (accepted : env.backend.acceptsSubscription rule = true)
    (room : RoomFor env user σ rule.delivery) (free : σ.subscriptions.get? drawn.id = none) :
    ∃ new σ', respond env (serializers.writing fields) maxPageSize user drawn
        (.create (.obj body)) σ = (.data 201 (presentSecret new), σ') ∧
      Duplicate user rule new ∧
      (∀ id, σ'.subscriptions.get? id = if id = drawn.id then some (new.inserted σ.clock)
        else σ.subscriptions.get? id) ∧
      (∀ id, σ'.deliveries.get? id = σ.deliveries.get? id) := by
  have read : (serializers.writing fields).create (.obj body) = .ok rule.createData := h.create
  let args := rule.createData.args user
  have normal : args.payloadFilter = rule.payloadFilter := h.normal
  have below : ¬(env.settings.maxSubscriptionsPerOwner ≠ 0 ∧ args.ownerId.isSome ∧
      env.settings.maxSubscriptionsPerOwner ≤ σ.owned (some user.pk)) := by
    rintro ⟨bounded, -, full⟩
    have := room.room bounded
    omega
  obtain ⟨secret, drew, fits⟩ : ∃ secret, initialSecret env args drawn.secret = .ok secret ∧
      env.backend.acceptsChars 128 secret = true := by
    unfold initialSecret
    have known : (resolveDelivery env args.delivery).isSome = true := resolved_of_valid valid
    have signing : (isSigned env args.delivery).isSome = true := by
      simpa [isSigned] using known
    cases signed : isSigned env args.delivery with
    | none => rw [signed] at signing; cases signing
    | some signs =>
      cases signs with
      | false => exact ⟨"", rfl, by simp [Backend.acceptsChars, Backend.acceptsText]⟩
      | true =>
        obtain ⟨secret, drew, fits⟩ := (secretFits_iff drawn.secret).1 (room.secret signed)
        refine ⟨secret, ?_, fits⟩
        simp [args, Subscription.createData, CreateData.args, drew, Except.mapError]
  let new := args.row drawn.id σ.clock secret
  have created : createSubscription env args (σ.owned (some user.pk)) drawn.secret drawn.id
      σ.clock = .ok new := by
    rw [createSubscription_of_ok (by rw [normal]; exact valid), if_neg below, drew]
    rfl
  have lands : (exec env σ (.create new)).isSome = true := by
    rw [(Write.Lands.create free).exec_isSome]
    simp only [Backend.acceptsSubscription, Bool.and_eq_true] at accepted
    simp [Write.accepted, Backend.acceptsSubscription, new, args, CreateArgs.row,
      Subscription.createData, CreateData.args, h.normal, accepted, fits, env.backend.integers_zero]
  obtain ⟨σ', saved⟩ := Option.isSome_iff_exists.1 lands
  refine ⟨new, σ', ?_, ?_, exec_subscriptions saved, exec_deliveries saved⟩
  · simp only [respond, postSubscription, read]
    rw [show createSubscription env (rule.createData.args user) _ _ _ _ = .ok new from created]
    simp only [saving, saved]
  · have filter : new.payloadFilter = rule.payloadFilter :=
      (congrArg Json.orEmpty normal).trans h.normal
    exact ⟨rfl, rfl, rfl, filter, rfl, rfl, rfl, rfl, rfl⟩

end

/-- An active rule and its duplicate match the same events. -/
theorem Duplicate.isMatching {new : Subscription} (h : Duplicate user rule new)
    (active : rule.isActive = true) (eventType : String) (payload : Json) :
    isMatching env eventType payload new = isMatching env eventType payload rule := by
  simp only [Webhooks.isMatching, accepts, h.eventType, h.isActive, h.payloadFilter, active]

/-! ## In any reachable installation -/

/-- Whatever the API shows of a rule with plain texts, it takes back, at every moment of every run:
a patch with it leaves the rule as it is, but for the strikes of an active one; a creation with it
makes a second rule for the same reactions. -/
theorem shown_is_taken_back {ι : Type} [DecidableEq ι] {c d : Interleaving.Config ι Store Proc}
    {tr : List (Interleaving.Event ι Act)}
    (run : Interleaving.Run (protocol env) Interleaving.anyStep c tr d)
    (idle : ∀ i, c.locals i = .idle) (empty : ∀ id, c.store.subscriptions.get? id = none)
    (faithful : fields.Faithful) (plain : rule.Plain)
    (visible : scopedSubscription user d.store rule.id = .ok rule) :
    ∃ body, respond env (serializers.writing fields) maxPageSize user drawn (.detail rule.id)
        d.store = (.data 200 (.obj body), d.store) ∧
      (∃ σ, respond env (serializers.writing fields) maxPageSize user drawn
          (.patch rule.id (.obj body)) d.store =
            (.data 200 (presentSubscription (rule.resubmitted d.store.clock)), σ) ∧
        (∀ id, σ.subscriptions.get? id = if id = rule.id then
          some (rule.resubmitted d.store.clock) else d.store.subscriptions.get? id) ∧
        ∀ id, σ.deliveries.get? id = d.store.deliveries.get? id) ∧
      (RoomFor env user d.store rule.delivery → drawn.id ∉ d.store.minted →
        ∃ new σ, respond env (serializers.writing fields) maxPageSize user drawn
            (.create (.obj body)) d.store = (.data 201 (presentSecret new), σ) ∧
          Duplicate user rule new ∧
          (rule.isActive = true → ∀ eventType payload,
            isMatching env eventType payload new = isMatching env eventType payload rule) ∧
          (∀ id, σ.subscriptions.get? id = if id = drawn.id then
            some (new.inserted d.store.clock) else d.store.subscriptions.get? id) ∧
          ∀ id, σ.deliveries.get? id = d.store.deliveries.get? id) := by
  have stored := stored_of_scoped visible
  have written := written_of_run run idle empty stored
  obtain ⟨body, shown, shows⟩ := shows_presentSubscription rule
  have readable : Readable fields rule body :=
    ⟨shows, faithful, plain, isDict_of_valid written.valid, written.normal⟩
  refine ⟨body, ?_, patch_shown readable written.valid written.accepted stored visible, ?_⟩
  · simp only [respond, unlessDenied, visible, getSubscription, shown]
  · intro room fresh
    have free : d.store.subscriptions.get? drawn.id = none := by
      rw [Option.eq_none_iff_forall_ne_some]
      intro other taken
      have minted := (written_of_run run idle empty taken).minted
      rw [Table.key_of_get? taken] at minted
      exact fresh minted
    obtain ⟨new, σ, answer, duplicate, rest⟩ :=
      post_shown readable written.valid written.accepted room free
    exact ⟨new, σ, answer, duplicate, duplicate.isMatching, rest⟩

/-- `uuid.UUID(text)`, for the digits of a text with its dashes. -/
def readUuid (text : String) : Option Uuid :=
  match (text.toList.filter (· ≠ '-')).mapM fun c => (List.finRange 16).find? (hexChar · = c) with
  | none => none
  | some digits => if length : digits.length = 32 then some ⟨digits, length⟩ else none

theorem readUuid_str (id : Uuid) : readUuid id.str = some id := by
  have digit (d : Fin 16) : (List.finRange 16).find? (hexChar · = hexChar d) = some d := by
    revert d
    decide
  have read (digits : List (Fin 16)) : (digits.map hexChar).mapM
      (fun c => (List.finRange 16).find? (hexChar · = c)) = some digits := by
    induction digits with
    | nil => rfl
    | cons d digits ih => simp [List.mapM_cons, digit, ih]
  unfold readUuid
  rw [Uuid.str, String.toList_ofList, Uuid.filter_chars, read]
  exact dif_pos id.length_digits

/-- Fields that read a value of their own type as it is. -/
def plainFields : Fields :=
  { sampleFields with
    uuid
      | .str text => (readUuid text).elim (.error (messages "Must be a valid UUID.")) .ok
      | _ => .error (messages "Must be a valid UUID.") }

theorem faithful_plainFields : plainFields.Faithful where
  char maxLength allowBlank text plain := if_pos ⟨plain.short, plain.filled⟩
  dict members := rfl
  uuid id := by simp [plainFields, readUuid_str]
  boolean b := rfl

theorem shown_is_taken_back_listing :
    ∃ tr, ∃ d : Interleaving.Config Nat Store Proc, ∃ body,
      Interleaving.Run (protocol sampleEnv) Interleaving.anyStep emptyStart tr d ∧
      respond sampleEnv (sampleApi.serializers.writing plainFields) 100 sampleStaff sampleDrawn
        (.detail (sampleUuid 1)) d.store = (.data 200 (.obj body), d.store) ∧
      (respond sampleEnv (sampleApi.serializers.writing plainFields) 100 sampleStaff sampleDrawn
        (.patch (sampleUuid 1) (.obj body)) d.store).1.accepts = true ∧
      (respond sampleEnv (sampleApi.serializers.writing plainFields) 100 sampleStaff sampleDrawn
        (.create (.obj body)) d.store).1.accepts = true := by
  have start : Interleaving.Run (protocol sampleEnv) Interleaving.anyStep emptyStart []
    emptyStart := .nil _
  have created := ((start.act 0 (.createCount sampleArgs) trivial).act 0
    (.createBuild zeroDraw (sampleUuid 1) 0 List.not_mem_nil le_rfl rfl) trivial).act 0
      (.create rfl) trivial
  have plain : (sampleArgs.row (sampleUuid 1) 0 "").Plain := by
    refine ⟨⟨?_, ?_, ?_, ?_⟩, ⟨?_, ?_, ?_, ?_⟩, ⟨?_, ?_, ?_, ?_⟩⟩ <;> decide +kernel
  obtain ⟨body, shown, ⟨σ, patched, -⟩, creates⟩ :=
    @shown_is_taken_back sampleEnv plainFields sampleApi.serializers 100 sampleStaff sampleDrawn
      ((sampleArgs.row (sampleUuid 1) 0 "").inserted 0) Nat _ _ _ _ created (fun _ => rfl)
      (fun _ => rfl) faithful_plainFields ⟨plain.eventType, plain.delivery, plain.description⟩ rfl
  obtain ⟨new, σ', posted, -⟩ := creates ⟨fun _ => by decide +kernel, fun signed => by cases signed⟩
    (by decide +kernel)
  exact ⟨_, _, body, created, shown,
    congrArg (fun answer : Response × Store => answer.1.accepts) patched,
    congrArg (fun answer : Response × Store => answer.1.accepts) posted⟩

end Webhooks
