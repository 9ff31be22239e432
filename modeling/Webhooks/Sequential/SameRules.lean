import Webhooks.Sequential.Operations
import Webhooks.Sequential.Refusals
import Webhooks.Serializers
import Webhooks.System.SwitchedOff

/-!
# Creating a rule and patching one to it

The two views that write a rule, on a body with its four fields. Both read the fields
alike and ask one validator, but the one that creates turns a falsy filter into the
empty one first.
-/
namespace Webhooks

/-- The request was carried out. -/
def Response.accepts : Response → Bool
  | .data _ _ => true
  | _ => false

/-- A rule both views would save with this filter, as far as its four fields go. -/
structure Admissible (env : Env) (e d : String) (t filter : Json) : Prop where
  valid : validateSubscription env e d t filter = .ok ()
  fits : FieldsFit env e d t filter ""

/-- The user may have one more rule, and a secret can be drawn if this one is signed. -/
structure MayCreate (env : Env) (fields : Fields) (user : User) (σ : Store) (delivery : Json) :
    Prop where
  room : env.settings.maxSubscriptionsPerOwner ≠ 0 →
    σ.owned (some user.pk) < env.settings.maxSubscriptionsPerOwner
  secret : ∀ d, readField (fields.char 32 false) delivery = .ok d →
    isSigned env d = some true → SecretFits env

/-- The two requests are both carried out or both not, and a rule either of them stores has the
filter that was sent. -/
structure SameRule (filter : Json) (created patched : Uuid) (post patch : Response × Store) :
    Prop where
  accepts : post.1.accepts = true ↔ patch.1.accepts = true
  created : post.1.accepts = true → ∃ rule, post.2.subscriptions.get? created = some rule ∧
    rule.payloadFilter = filter
  patched : patch.1.accepts = true → ∃ rule, patch.2.subscriptions.get? patched = some rule ∧
    rule.payloadFilter = filter

variable {env : Env} {fields : Fields} {serializers : Serializers} {maxPageSize : Nat}
  {user : User} {drawn : Drawn} {σ : Store} {row : Subscription} {e d : String} {t : Json}
  {eventType delivery target filter : Json}

/-! ## The filter -/

/-- A filter that is neither null nor what it is stored as is no object. -/
theorem checkFilter_of_orEmpty_ne (given : filter ≠ .null) (falsy : filter.orEmpty ≠ filter) :
    checkFilter env filter ≠ .ok () := by
  have refuses : ∀ p : Json, p ≠ .null → p.isDict = false → checkFilter env p ≠ .ok () := by
    intro p given scalar
    unfold checkFilter validateFilter
    cases p with
    | null => exact absurd rfl given
    | obj _ => cases scalar
    | _ =>
      dsimp only
      split_ifs <;> simp [refuse]
  cases filter with
  | obj members =>
    cases members with
    | nil => exact absurd rfl falsy
    | cons member members => exact absurd rfl falsy
  | null => exact absurd rfl given
  | _ => exact refuses _ given rfl

theorem valid_of_orEmpty_ne (given : filter ≠ .null) (falsy : filter.orEmpty ≠ filter) :
    validateSubscription env e d t filter ≠ .ok () := by
  intro valid
  rw [validateSubscription_eq] at valid
  cases before : validateSubscription env e d t .null with
  | error e => rw [before] at valid; cases valid
  | ok u =>
    rw [before] at valid
    exact checkFilter_of_orEmpty_ne given falsy valid

/-- A description that is stored already asks for nothing. -/
theorem fieldsFit_description {p : Json}
    (text : env.backend.acceptsChars 255 row.description = true) :
    FieldsFit env e d t p row.description ↔ FieldsFit env e d t p "" := by
  have empty : env.backend.acceptsChars 255 "" = true := by
    simp [Backend.acceptsChars, Backend.acceptsText]
  simp [FieldsFit, text, empty]

/-! ## A save -/

theorem accepts_saving {w : Write} {status : Nat} {body : Json} :
    (saving env σ w (.data status body)).1.accepts = true ↔ (exec env σ w).isSome = true := by
  unfold saving
  cases exec env σ w <;> simp [Response.accepts]

theorem not_accepts_response (error : ServiceError) : error.response.accepts = false := by
  cases error <;> rfl

/-! ## Creating -/

/-- What the view hands to the service. -/
def ruleArgs (user : User) (e d : String) (t filter : Json) : CreateArgs :=
  CreateData.args user { eventType := e, delivery := d, target := t, filter := some filter }

theorem initialSecret_ruleArgs {spec : DeliverySpec} (known : resolveDelivery env d = some spec)
    (draw : TokenBytes) :
    initialSecret env (ruleArgs user e d t filter) draw =
      if spec.signed then (generateSecret env.settings draw).mapError .raised else .ok "" := by
  have signing : isSigned env d = some spec.signed := by
    rw [isSigned, known]
    rfl
  unfold initialSecret
  dsimp only [ruleArgs, CreateData.args]
  rw [signing]
  cases spec.signed <;> rfl

/-- A rule is created exactly when it is admissible with its filter normalised, and the user may
have it. -/
theorem creates_iff (reads : Reads fields eventType delivery target e d t) (σ : Store)
    (drawn : Drawn) :
    (∃ rule, createSubscription env (ruleArgs user e d t filter) (σ.owned (some user.pk))
        drawn.secret drawn.id σ.clock = .ok rule ∧ env.backend.acceptsSubscription rule = true) ↔
      Admissible env e d t filter.orEmpty ∧ MayCreate env fields user σ delivery := by
  have args : (ruleArgs user e d t filter).payloadFilter = filter.orEmpty := rfl
  have delivered {P : String → Prop} :
      (∀ d', readField (fields.char 32 false) delivery = .ok d' → P d') ↔ P d := by
    rw [reads.delivery]
    exact ⟨fun h => h d rfl, fun h d' same => (by cases same; exact h)⟩
  cases valid : validateSubscription env e d t filter.orEmpty with
  | error error =>
    have refused : createSubscription env (ruleArgs user e d t filter) (σ.owned (some user.pk))
        drawn.secret drawn.id σ.clock = .error error :=
      createSubscription_of_error (by rw [args]; exact valid)
    constructor
    · rintro ⟨rule, created, -⟩
      rw [refused] at created
      cases created
    · rintro ⟨admissible, -⟩
      rw [admissible.valid] at valid
      cases valid
  | ok u =>
    have computed := @createSubscription_of_ok env (ruleArgs user e d t filter)
      (σ.owned (some user.pk)) drawn.secret drawn.id σ.clock (by rw [args]; exact valid)
    obtain ⟨spec, known⟩ := Option.isSome_iff_exists.1 (resolved_of_valid valid)
    have accepted (secret : String) :
        env.backend.acceptsSubscription
            ((ruleArgs user e d t filter).row drawn.id σ.clock secret) = true ↔
          FieldsFit env e d t filter.orEmpty "" ∧ env.backend.acceptsChars 128 secret = true :=
      acceptsSubscription_iff rfl env.backend.integers_zero
    have empty : env.backend.acceptsChars 128 "" = true := by
      simp [Backend.acceptsChars, Backend.acceptsText]
    rw [computed]
    by_cases capped : env.settings.maxSubscriptionsPerOwner ≠ 0 ∧
        env.settings.maxSubscriptionsPerOwner ≤ σ.owned (some user.pk)
    · rw [if_pos ⟨capped.1, rfl, capped.2⟩]
      constructor
      · rintro ⟨rule, created, -⟩
        cases created
      · rintro ⟨-, may⟩
        have room := may.room capped.1
        omega
    · have room : env.settings.maxSubscriptionsPerOwner ≠ 0 →
          σ.owned (some user.pk) < env.settings.maxSubscriptionsPerOwner := by
        intro bounded
        by_contra full
        exact capped ⟨bounded, by omega⟩
      rw [if_neg fun h => capped ⟨h.1, h.2.2⟩, initialSecret_ruleArgs known]
      have may : MayCreate env fields user σ delivery ↔ (spec.signed = true → SecretFits env) := by
        have signing : isSigned env d = some spec.signed := by
          rw [isSigned, known]
          rfl
        constructor
        · intro may signed
          exact delivered.1 may.secret (by rw [signing, signed])
        · intro secret
          exact ⟨room, delivered.2 fun signs => secret (by rw [signing] at signs; simpa using signs)⟩
      have admissible : Admissible env e d t filter.orEmpty ↔
          FieldsFit env e d t filter.orEmpty "" := ⟨fun h => h.fits, fun h => ⟨valid, h⟩⟩
      rw [may, admissible]
      cases spec.signed with
      | false => simp [Except.map, accepted, empty]
      | true =>
        rw [secretFits_iff drawn.secret]
        cases generateSecret env.settings drawn.secret with
        | error exc => simp [Except.mapError, Except.map]
        | ok secret => simp [Except.mapError, Except.map, accepted]

section
variable (reads : Reads fields eventType delivery target e d t) (given : filter ≠ .null)
include reads given

/-- The answer to the creation, and the row behind it. -/
theorem post_rule (free : σ.subscriptions.get? drawn.id = none) :
    let post := respond env (serializers.writing fields) maxPageSize user drawn
      (.create (ruleBody eventType delivery target filter)) σ
    (post.1.accepts = true ↔
        Admissible env e d t filter.orEmpty ∧ MayCreate env fields user σ delivery) ∧
      (post.1.accepts = true → ∃ rule, post.2.subscriptions.get? drawn.id = some rule ∧
        rule.payloadFilter = filter.orEmpty) := by
  dsimp only
  rw [← creates_iff reads σ drawn]
  have read : (serializers.writing fields).create
      (ruleBody eventType delivery target filter) = .ok _ := subscriptionCreate_ok reads given
  simp only [respond, postSubscription, read]
  rw [show CreateData.args user _ = ruleArgs user e d t filter from rfl]
  cases created : createSubscription env (ruleArgs user e d t filter) (σ.owned (some user.pk))
      drawn.secret drawn.id σ.clock with
  | error error => simp [not_accepts_response]
  | ok rule =>
    obtain ⟨from', own⟩ := createSubscription_eq_ok created
    have saves : (exec env σ (.create rule)).isSome = env.backend.acceptsSubscription rule :=
      (Write.Lands.create (own ▸ free)).exec_isSome
    refine ⟨?_, ?_⟩
    · rw [accepts_saving, saves]
      simp
    · intro accepts
      obtain ⟨after, saved⟩ := Option.isSome_iff_exists.1 (accepts_saving.1 accepts)
      refine ⟨rule.inserted σ.clock, ?_, ?_⟩
      · simp [saving, saved, exec_subscriptions saved, Write.onSubscription, own]
      · have stored : rule.payloadFilter = filter.orEmpty.orEmpty := from'.payloadFilter
        rw [orEmpty_orEmpty] at stored
        exact stored

/-! ## Patching -/

/-- The answer to the patch, and the row behind it. -/
theorem patch_rule (visible : scopedSubscription user σ row.id = .ok row)
    (stored : σ.subscriptions.get? row.id = some row)
    (fits : env.backend.acceptsSubscription row = true) :
    let patch := respond env (serializers.writing fields) maxPageSize user drawn
      (.patch row.id (ruleBody eventType delivery target filter)) σ
    (patch.1.accepts = true ↔ Admissible env e d t filter) ∧
      (patch.1.accepts = true → ∃ rule, patch.2.subscriptions.get? row.id = some rule ∧
        rule.payloadFilter = filter.orEmpty) := by
  dsimp only
  have read : (serializers.writing fields).patch
      (ruleBody eventType delivery target filter) = .ok _ := subscriptionPatch_ok reads given
  simp only [respond, unlessDenied, visible, patchSubscription, read]
  simp only [Backend.acceptsSubscription, Bool.and_eq_true] at fits
  obtain ⟨⟨⟨-, secret⟩, text⟩, count⟩ := fits
  let new : Subscription := { row with
    eventType := e, delivery := d, target := t, payloadFilter := filter.orEmpty }
  have accepted : env.backend.acceptsSubscription new = true ↔ FieldsFit env e d t filter "" := by
    rw [← fieldsFit_description text]
    have asked : env.backend.acceptsSubscription new = true ↔ _ :=
      acceptsSubscription_iff rfl count
    exact asked.trans (and_iff_left secret)
  cases valid : validateSubscription env e d t filter with
  | error error =>
    have refused : updateSubscription env row
        { eventType := some e, delivery := some d, target := some t,
          payloadFilter := some filter } = .error error := by
      simp [updateSubscription, valid, bind, Except.bind]
    rw [refused]
    refine ⟨⟨fun h => ?_, fun h => ?_⟩, fun h => ?_⟩
    · rw [not_accepts_response] at h
      cases h
    · rw [h.valid] at valid
      cases valid
    · rw [not_accepts_response] at h
      cases h
  | ok u =>
    have updated : updateSubscription env row
        { eventType := some e, delivery := some d, target := some t,
          payloadFilter := some filter } = .ok new := updateSubscription_ok_iff.2 ⟨valid, rfl⟩
    rw [updated]
    dsimp only
    have own : σ.subscriptions.get? new.id = some row := stored
    have saves (changes : Changes) : (exec env σ (.patch new changes)).isSome =
        env.backend.acceptsSubscription new := by
      rw [(Write.Lands.patch changes own).exec_isSome]
      rfl
    refine ⟨?_, ?_⟩
    · rw [accepts_saving, saves]
      exact accepted.trans ⟨fun h => ⟨valid, h⟩, fun h => h.fits⟩
    · intro accepts
      obtain ⟨after, saved⟩ := Option.isSome_iff_exists.1 (accepts_saving.1 accepts)
      refine ⟨new.saved σ.clock true, ?_, rfl⟩
      rw [saving, saved]
      dsimp only
      rw [exec_subscriptions saved]
      simp [Write.onSubscription, stored, new]

end

/-! ## The same rules -/

/-- What the creating serializer accepts it has read. -/
theorem reads_of_create {data : CreateData}
    (h : subscriptionCreate fields (ruleBody eventType delivery target filter) = .ok data) :
    ∃ e d t, Reads fields eventType delivery target e d t := by
  cases he : readField (fields.char 128 false) eventType with
  | error errors =>
    simp [subscriptionCreate, ruleBody, validateBody, requiredField, List.lookup_cons, he] at h
  | ok e =>
    cases hd : readField (fields.char 32 false) delivery with
    | error errors =>
      simp [subscriptionCreate, ruleBody, validateBody, requiredField, List.lookup_cons, hd] at h
    | ok d =>
      cases ht : readField fields.dict target with
      | error errors =>
        simp [subscriptionCreate, ruleBody, validateBody, requiredField, List.lookup_cons, ht] at h
      | ok t => exact ⟨e, d, t, he, hd, ht⟩

theorem reads_of_patch {changes : Changes}
    (h : subscriptionPatch fields (ruleBody eventType delivery target filter) = .ok changes) :
    ∃ e d t, Reads fields eventType delivery target e d t := by
  cases he : readField (fields.char 128 false) eventType with
  | error errors =>
    simp [subscriptionPatch, ruleBody, validateBody, optionalField, List.lookup_cons, he,
      Except.map] at h
  | ok e =>
    cases hd : readField (fields.char 32 false) delivery with
    | error errors =>
      simp [subscriptionPatch, ruleBody, validateBody, optionalField, List.lookup_cons, hd,
        Except.map] at h
    | ok d =>
      cases ht : readField fields.dict target with
      | error errors =>
        simp [subscriptionPatch, ruleBody, validateBody, optionalField, List.lookup_cons, ht,
          Except.map] at h
      | ok t => exact ⟨e, d, t, he, hd, ht⟩

/-- Some rule of the first three fields and this filter is admissible. -/
def AdmitsRule (env : Env) (fields : Fields) (eventType delivery target filter : Json) : Prop :=
  ∃ e d t, Reads fields eventType delivery target e d t ∧ Admissible env e d t filter

theorem Reads.unique {e' d' : String} {t' : Json}
    (reads : Reads fields eventType delivery target e d t)
    (reads' : Reads fields eventType delivery target e' d' t') : e = e' ∧ d = d' ∧ t = t' :=
  ⟨Except.ok.inj (reads.eventType.symm.trans reads'.eventType),
    Except.ok.inj (reads.delivery.symm.trans reads'.delivery),
    Except.ok.inj (reads.target.symm.trans reads'.target)⟩

theorem admitsRule_iff (reads : Reads fields eventType delivery target e d t) :
    AdmitsRule env fields eventType delivery target filter ↔ Admissible env e d t filter := by
  constructor
  · rintro ⟨e', d', t', reads', admissible⟩
    obtain ⟨rfl, rfl, rfl⟩ := reads.unique reads'
    exact admissible
  · exact fun admissible => ⟨e, d, t, reads, admissible⟩

theorem orEmpty_of_ne (falsy : filter.orEmpty ≠ filter) : filter.orEmpty = .obj [] := by
  unfold Json.orEmpty at falsy ⊢
  split at falsy
  · exact absurd rfl falsy
  · next untrue => rw [if_neg untrue]

/-- Two requests that are both refused agree. -/
theorem sameRule_of_refused {created patched : Uuid} {post patch : Response × Store}
    (unposted : ¬post.1.accepts = true) (refused : ¬patch.1.accepts = true) :
    SameRule filter created patched post patch :=
  ⟨iff_of_false unposted refused, fun accepts => absurd accepts unposted,
    fun accepts => absurd accepts refused⟩

theorem stored_of_scoped {id : Uuid} (visible : scopedSubscription user σ id = .ok row) :
    σ.subscriptions.get? id = some row := by
  unfold scopedSubscription at visible
  split at visible
  · cases visible
  · next found stored =>
    split_ifs at visible <;> cases visible <;> exact stored

/-- What the serializer of a creation refuses is not created. -/
theorem reads_of_post
    (accepts : (respond env (serializers.writing fields) maxPageSize user drawn
      (.create (ruleBody eventType delivery target filter)) σ).1.accepts = true) :
    ∃ e d t, Reads fields eventType delivery target e d t := by
  cases read : subscriptionCreate fields (ruleBody eventType delivery target filter) with
  | error errors =>
    have created : (serializers.writing fields).create
        (ruleBody eventType delivery target filter) = .error errors := read
    simp [respond, postSubscription, created, Response.accepts] at accepts
  | ok data => exact reads_of_create read

theorem reads_of_patched (visible : scopedSubscription user σ row.id = .ok row)
    (accepts : (respond env (serializers.writing fields) maxPageSize user drawn
      (.patch row.id (ruleBody eventType delivery target filter)) σ).1.accepts = true) :
    ∃ e d t, Reads fields eventType delivery target e d t := by
  cases read : subscriptionPatch fields (ruleBody eventType delivery target filter) with
  | error errors =>
    have patched : (serializers.writing fields).patch
        (ruleBody eventType delivery target filter) = .error errors := read
    simp [respond, unlessDenied, visible, patchSubscription, patched, Response.accepts] at accepts
  | ok changes => exact reads_of_patch read

/-- Where the user may create the rule at all, the two requests agree on it exactly when its filter
is stored as it was sent, or would be refused as the empty one too. Where not, it is not created. -/
theorem same_rule_iff (given : filter ≠ .null) (free : σ.subscriptions.get? drawn.id = none)
    (visible : scopedSubscription user σ row.id = .ok row)
    (fits : env.backend.acceptsSubscription row = true) :
    let post := respond env (serializers.writing fields) maxPageSize user drawn
      (.create (ruleBody eventType delivery target filter)) σ
    let patch := respond env (serializers.writing fields) maxPageSize user drawn
      (.patch row.id (ruleBody eventType delivery target filter)) σ
    (MayCreate env fields user σ delivery →
        (SameRule filter drawn.id row.id post patch ↔
          filter.orEmpty = filter ∨ ¬AdmitsRule env fields eventType delivery target (.obj []))) ∧
      (¬MayCreate env fields user σ delivery → post.1.accepts = false) := by
  intro post patch
  have stored : σ.subscriptions.get? row.id = some row := stored_of_scoped visible
  by_cases read : ∃ e d t, Reads fields eventType delivery target e d t
  · obtain ⟨e, d, t, reads⟩ := read
    obtain ⟨posts, created⟩ : (post.1.accepts = true ↔ _) ∧ _ := post_rule reads given free
    obtain ⟨patches, patched⟩ : (patch.1.accepts = true ↔ _) ∧ _ :=
      patch_rule reads given visible stored fits
    refine ⟨fun may => ?_, fun may => ?_⟩
    · by_cases same : filter.orEmpty = filter
      · rw [same] at posts created patched
        have agree : SameRule filter drawn.id row.id post patch :=
          ⟨(posts.trans (and_iff_left may)).trans patches.symm, created, patched⟩
        exact iff_of_true agree (.inl same)
      · have refused : ¬patch.1.accepts = true := fun accepts =>
          valid_of_orEmpty_ne given same (patches.1 accepts).valid
        rw [orEmpty_of_ne same] at posts
        have admits : AdmitsRule env fields eventType delivery target (.obj []) ↔
            post.1.accepts = true := by
          rw [posts, and_iff_left may, admitsRule_iff reads]
        rw [admits, or_iff_right same]
        constructor
        · exact fun agree accepts => refused (agree.accepts.1 accepts)
        · exact fun unposted => sameRule_of_refused unposted refused
    · rw [← Bool.not_eq_true]
      exact fun accepts => may (posts.1 accepts).2
  · have unposted : ¬post.1.accepts = true := fun accepts => read (reads_of_post accepts)
    have refused : ¬patch.1.accepts = true := fun accepts => read (reads_of_patched visible accepts)
    have agree : SameRule filter drawn.id row.id post patch :=
      sameRule_of_refused unposted refused
    refine ⟨fun _ => iff_of_true agree (.inr ?_), fun _ => by simpa using unposted⟩
    rintro ⟨e, d, t, reads, -⟩
    exact read ⟨e, d, t, reads⟩

/-- Fields that read a value of their own type. -/
def sampleFields : Fields where
  char maxLength allowBlank
    | .str s => if s.length ≤ maxLength ∧ (allowBlank ∨ s ≠ "") then .ok s
      else .error (messages "Ensure this field has no more characters than it may.")
    | _ => .error (messages "Not a valid string.")
  dict
    | .obj members => .ok (.obj members)
    | _ => .error (messages "Expected a dictionary of items.")
  json value := .ok value
  uuid _ := .error (messages "Must be a valid UUID.")
  boolean
    | .bool b => .ok b
    | _ => .error (messages "Must be a valid boolean.")
  json_eq _ _ := rfl

/-- A rule for the stream of the listings. -/
def listingBody (filter : Json) : Json :=
  ruleBody (.str "listing.published") (.str "ws") (.obj [("stream", .str "listings")]) filter

def postListing (filter : Json) : Response × Store :=
  respond sampleEnv (sampleApi.serializers.writing sampleFields) 100 sampleStaff sampleDrawn
    (.create (listingBody filter)) sampleStore

def patchListing (filter : Json) : Response × Store :=
  respond sampleEnv (sampleApi.serializers.writing sampleFields) 100 sampleStaff sampleDrawn
    (.patch sampleRule.id (listingBody filter)) sampleStore

theorem same_rule_city :
    SameRule (.obj [("city", .str "Oslo")]) sampleDrawn.id sampleRule.id
        (postListing (.obj [("city", .str "Oslo")])) (patchListing (.obj [("city", .str "Oslo")])) ∧
      (postListing (.obj [("city", .str "Oslo")])).1.accepts = true := by
  have may : MayCreate sampleEnv sampleFields sampleStaff sampleStore (.str "ws") := by
    refine ⟨fun _ => by decide, fun d read signed => ?_⟩
    cases read
    cases signed
  have free : sampleStore.subscriptions.get? sampleDrawn.id = none := rfl
  have visible : scopedSubscription sampleStaff sampleStore sampleRule.id = .ok sampleRule := rfl
  have fits : sampleEnv.backend.acceptsSubscription sampleRule = true := rfl
  exact ⟨((same_rule_iff (fun given => by cases given) free visible fits).1 may).2 (.inl rfl), rfl⟩

/-- Sent `false` as its filter, a creation stores the rule for every event; a patch refuses it. -/
theorem falsy_filter_widens :
    (∃ rule, (postListing (.bool false)).2.subscriptions.get? sampleDrawn.id = some rule ∧
        rule.payloadFilter = .obj []) ∧
      (postListing (.bool false)).1.accepts = true ∧
      (patchListing (.bool false)).1.accepts = false ∧
      ¬SameRule (.bool false) sampleDrawn.id sampleRule.id (postListing (.bool false))
        (patchListing (.bool false)) := by
  have created : (postListing (.bool false)).1.accepts = true := rfl
  have refused : (patchListing (.bool false)).1.accepts = false := rfl
  refine ⟨⟨_, rfl, rfl⟩, created, refused, fun same => ?_⟩
  rw [same.accepts.1 created] at refused
  cases refused

end Webhooks
