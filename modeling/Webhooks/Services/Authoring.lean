import Webhooks.Errors
import Webhooks.Filters
import Webhooks.Registry
import Webhooks.Signing

/-!
# Subscription authoring

Validation, creation, patching and secret rotation of a rule. Each function
computes the row it would save from the instance it was given; saving is a step
of the store.
-/
namespace Webhooks

section
variable (env : Env)

def ignoredEvents : List String := env.settings.ignoreEvents

/-- The topics this deployment reacts to. -/
def watchedEvents : List String :=
  let catalog := if env.settings.watchCatalog then env.catalogEventNames else []
  (catalog ++ env.settings.watchEvents ++ env.runtimeEvents).filter fun name =>
    name ∉ ignoredEvents env

def refuse {α : Type} (status : Nat) (key : String) (params : List (String × Json)) :
    Except ServiceError α :=
  .error (.refused ⟨status, key, params⟩)

def validateSubscription (eventType delivery : String) (target payloadFilter : Json) :
    Except ServiceError Unit := do
  if eventType ∉ watchedEvents env then
    refuse 400 err400UnknownEvent [("event_type", .str eventType)]
  if (resolveDelivery env delivery).isNone then
    refuse 400 err400UnknownDelivery [("delivery", .str delivery)]
  match validateTarget env delivery target with
  | .ok () => pure ()
  | .error (.invalidTarget detail) => refuse 400 err400InvalidTarget [("detail", .str detail)]
  | .error .unknownDeliveryType =>
    throw (.raised ⟨"UnknownDeliveryType", some delivery⟩)
  | .error (.raised exc) => throw (.raised exc)
  if delivery = "webhook" ∧ ¬env.settings.allowInsecureTargets then
    let url := if (target.get "url").truthy then (target.get "url").toStr env.interpreter else ""
    if ¬"https://".toList.isPrefixOf (url.toList.map Char.toLower) then
      refuse 400 err400InsecureTarget [("url", .str url)]
  match validateFilter env.interpreter (orInt env.settings.maxFilterDepth 4) 1 payloadFilter with
  | .ok () => pure ()
  | .error detail => refuse 400 err400InvalidFilter [("detail", .str detail)]

/-- The arguments of `create_subscription`. -/
structure CreateArgs where
  eventType : String
  delivery : String
  target : Json
  payloadFilter : Json
  ownerId : Option Uuid
  workspaceId : Option Uuid
  description : String
  createdBy : Option Uuid
  secret : Option String

def initialSecret (args : CreateArgs) (draw : TokenBytes) : Except ServiceError String :=
  match args.secret with
  | some secret => .ok secret
  | none =>
    match isSigned env args.delivery with
    | none => .error (.raised ⟨"UnknownDeliveryType", some args.delivery⟩)
    | some false => .ok ""
    | some true => (generateSecret env.settings draw).mapError .raised

/-- The rule `create_subscription` inserts, where `owned` rules of the owner were counted. -/
def createSubscription (args : CreateArgs) (owned : Nat) (draw : TokenBytes) (id : Uuid)
    (now : Time) : Except ServiceError Subscription := do
  validateSubscription env args.eventType args.delivery args.target args.payloadFilter
  let cap := env.settings.maxSubscriptionsPerOwner
  if cap ≠ 0 ∧ args.ownerId.isSome ∧ cap ≤ owned then
    refuse 409 err409SubscriptionCap [("limit", .int cap)]
  let secret ← initialSecret env args draw
  return {
    id
    ownerId := args.ownerId
    workspaceId := args.workspaceId
    eventType := args.eventType
    delivery := args.delivery
    target := args.target
    payloadFilter := args.payloadFilter.orEmpty
    secret
    description := args.description
    isActive := true
    consecutiveFailures := 0
    disabledAt := none
    lastDeliveryAt := none
    createdBy := args.createdBy
    createdAt := now
    updatedAt := now }

/-- The keyword arguments of `update_subscription`: a field that is `none` is not in them. -/
structure Changes where
  eventType : Option String := none
  delivery : Option String := none
  target : Option Json := none
  payloadFilter : Option Json := none
  description : Option String := none
  isActive : Option Bool := none

/-- What `is_active` in the changes does to the rule; re-activating clears the strikes. -/
def Subscription.setActive (rule : Subscription) : Option Bool → Subscription
  | none => rule
  | some false => { rule with isActive := false }
  | some true => { rule with isActive := true, consecutiveFailures := 0, disabledAt := none }

/-- The instance `update_subscription` saves, every column of it. -/
def updateSubscription (rule : Subscription) (changes : Changes) :
    Except ServiceError Subscription := do
  let eventType := changes.eventType.getD rule.eventType
  let delivery := changes.delivery.getD rule.delivery
  let target := changes.target.getD rule.target
  let payloadFilter := changes.payloadFilter.getD rule.payloadFilter
  validateSubscription env eventType delivery target payloadFilter
  return { rule with
    eventType, delivery, target
    payloadFilter := payloadFilter.orEmpty
    description := changes.description.getD rule.description }.setActive changes.isActive

/-- `update_subscription` on the loaded instance, up to its save: the validation, and then the
assignments one by one. -/
def updateInstance (changes : Changes) : ExceptT ServiceError (StateM Subscription) Unit := do
  let subscription ← get
  let eventType := changes.eventType.getD subscription.eventType
  let delivery := changes.delivery.getD subscription.delivery
  let target := changes.target.getD subscription.target
  let payloadFilter := changes.payloadFilter.getD subscription.payloadFilter
  liftExcept (validateSubscription env eventType delivery target payloadFilter)
  modify fun subscription => { subscription with eventType }
  modify fun subscription => { subscription with delivery }
  modify fun subscription => { subscription with target }
  modify fun subscription => { subscription with payloadFilter := payloadFilter.orEmpty }
  if let some description := changes.description then
    modify fun subscription => { subscription with description }
  if let some isActive := changes.isActive then
    modify fun subscription => { subscription with isActive }
    if isActive then
      modify fun subscription => { subscription with consecutiveFailures := 0 }
      modify fun subscription => { subscription with disabledAt := none }

/-- The secret `rotate_secret` stores and returns. -/
def rotateSecret (rule : Subscription) (draw : TokenBytes) : Except ServiceError String :=
  match isSigned env rule.delivery with
  | none => .error (.raised ⟨"UnknownDeliveryType", some rule.delivery⟩)
  | some false => refuse 400 err400NotSignedType [("delivery", .str rule.delivery)]
  | some true => (generateSecret env.settings draw).mapError .raised

end

/-! ## What an update saves -/

variable {env : Env} {rule new : Subscription} {changes : Changes}

@[simp] theorem Subscription.setActive_id (b : Option Bool) : (rule.setActive b).id = rule.id := by
  rcases b with _ | _ | _ <;> rfl

@[simp] theorem Subscription.setActive_ownerId (b : Option Bool) :
    (rule.setActive b).ownerId = rule.ownerId := by
  rcases b with _ | _ | _ <;> rfl

@[simp] theorem Subscription.setActive_secret (b : Option Bool) :
    (rule.setActive b).secret = rule.secret := by
  rcases b with _ | _ | _ <;> rfl

@[simp] theorem Subscription.setActive_lastDeliveryAt (b : Option Bool) :
    (rule.setActive b).lastDeliveryAt = rule.lastDeliveryAt := by
  rcases b with _ | _ | _ <;> rfl

@[simp] theorem Subscription.setActive_delivery (b : Option Bool) :
    (rule.setActive b).delivery = rule.delivery := by
  rcases b with _ | _ | _ <;> rfl

/-- An update that is not refused has passed the validation of the whole rule. -/
theorem updateSubscription_ok_iff : updateSubscription env rule changes = .ok new ↔
    validateSubscription env (changes.eventType.getD rule.eventType)
      (changes.delivery.getD rule.delivery) (changes.target.getD rule.target)
      (changes.payloadFilter.getD rule.payloadFilter) = .ok () ∧
    { rule with
      eventType := changes.eventType.getD rule.eventType
      delivery := changes.delivery.getD rule.delivery
      target := changes.target.getD rule.target
      payloadFilter := (changes.payloadFilter.getD rule.payloadFilter).orEmpty
      description := changes.description.getD rule.description }.setActive changes.isActive =
        new := by
  unfold updateSubscription
  cases valid : validateSubscription env (changes.eventType.getD rule.eventType)
      (changes.delivery.getD rule.delivery) (changes.target.getD rule.target)
      (changes.payloadFilter.getD rule.payloadFilter) with
  | error exc => simp [valid, bind, Except.bind]
  | ok u => simp [valid, bind, Except.bind, pure, Except.pure]

theorem updateSubscription_eq_ok (h : updateSubscription env rule changes = .ok new) :
    new = { rule with
      eventType := changes.eventType.getD rule.eventType
      delivery := changes.delivery.getD rule.delivery
      target := changes.target.getD rule.target
      payloadFilter := (changes.payloadFilter.getD rule.payloadFilter).orEmpty
      description := changes.description.getD rule.description }.setActive changes.isActive :=
  (updateSubscription_ok_iff.1 h).2.symm

theorem updateSubscription_id (h : updateSubscription env rule changes = .ok new) :
    new.id = rule.id := by
  rw [updateSubscription_eq_ok h]
  simp

theorem updateSubscription_ownerId (h : updateSubscription env rule changes = .ok new) :
    new.ownerId = rule.ownerId := by
  rw [updateSubscription_eq_ok h]
  simp

section Instance
variable {ε σ α β : Type} (s : σ)

theorem bind_apply (x : ExceptT ε (StateM σ) α) (f : α → ExceptT ε (StateM σ) β) :
    (x >>= f) s = match x s with
      | (.ok a, s') => f a s'
      | (.error e, s') => (.error e, s') := by
  simp only [bind, ExceptT.bind, ExceptT.mk, StateT.bind]
  rcases x s with ⟨_ | _, s'⟩ <;> rfl

theorem modify_apply (f : σ → σ) :
    (modify f : ExceptT ε (StateM σ) PUnit) s = (.ok (), f s) := rfl

theorem get_apply : (get : ExceptT ε (StateM σ) σ) s = (.ok s, s) := rfl

theorem liftExcept_apply (x : Except ε α) :
    (liftExcept x : ExceptT ε (StateM σ) α) s = (x, s) := by
  cases x <;> rfl

end Instance

/-- The instance after the call: the one to save, or, where the call is refused, the one it was. -/
theorem updateInstance_eq (rule : Subscription) (changes : Changes) :
    updateInstance env changes rule = match updateSubscription env rule changes with
      | .ok new => (.ok (), new)
      | .error e => (.error e, rule) := by
  unfold updateInstance updateSubscription
  cases valid : validateSubscription env (changes.eventType.getD rule.eventType)
      (changes.delivery.getD rule.delivery) (changes.target.getD rule.target)
      (changes.payloadFilter.getD rule.payloadFilter) with
  | error e => simp only [bind_apply, get_apply, liftExcept_apply, valid]; rfl
  | ok u =>
    simp only [bind_apply, get_apply, liftExcept_apply, modify_apply, valid]
    obtain ⟨_, _, _, _, description, isActive⟩ := changes
    rcases description with _ | description <;> rcases isActive with _ | _ | _ <;> rfl

/-- What a creation that is not refused has checked, and the rule it inserts. -/
structure CreatedFrom (env : Env) (args : CreateArgs) (draw : TokenBytes) (rule : Subscription) :
    Prop where
  validated : validateSubscription env args.eventType args.delivery args.target
    args.payloadFilter = .ok ()
  secret : initialSecret env args draw = .ok rule.secret
  ownerId : rule.ownerId = args.ownerId
  eventType : rule.eventType = args.eventType
  delivery : rule.delivery = args.delivery
  target : rule.target = args.target
  payloadFilter : rule.payloadFilter = args.payloadFilter.orEmpty

theorem createSubscription_eq_ok {args : CreateArgs} {owned : Nat} {draw : TokenBytes} {id : Uuid}
    {now : Time} (h : createSubscription env args owned draw id now = .ok rule) :
    CreatedFrom env args draw rule ∧ rule.id = id := by
  unfold createSubscription at h
  cases valid : validateSubscription env args.eventType args.delivery args.target
      args.payloadFilter with
  | error exc => simp [valid, bind, Except.bind] at h
  | ok u =>
    cases drawn : initialSecret env args draw with
    | error exc =>
      simp [valid, drawn, refuse, bind, Except.bind] at h
      split at h <;> cases h
    | ok secret =>
      simp [valid, drawn, refuse, bind, Except.bind, pure, Except.pure] at h
      split at h <;> cases h
      exact ⟨⟨valid, drawn, rfl, rfl, rfl, rfl, rfl⟩, rfl⟩

theorem mem_watchedEvents {name : String} : name ∈ watchedEvents env ↔
    (env.settings.watchCatalog = true ∧ name ∈ env.catalogEventNames ∨
      name ∈ env.settings.watchEvents ∨ name ∈ env.runtimeEvents) ∧ name ∉ ignoredEvents env := by
  cases watching : env.settings.watchCatalog <;> simp [watchedEvents, watching, or_and_right]

/-! ## How a validation ends -/

theorem refuse_inj {α : Type} {status status' : Nat} {key key' : String}
    {params params' : List (String × Json)}
    (h : (refuse status key params : Except ServiceError α) = refuse status' key' params') :
    key = key' := by
  cases h
  rfl

/-- The `url` of a webhook target as validation reads it. -/
def targetUrl (env : Env) (target : Json) : String :=
  if (target.get "url").truthy then (target.get "url").toStr env.interpreter else ""

/-- What `validate_subscription` makes of a target that `validate_target` refuses. -/
def TargetError.refusal (delivery : String) : TargetError → ServiceError
  | .invalidTarget detail => .refused ⟨400, err400InvalidTarget, [("detail", .str detail)]⟩
  | .unknownDeliveryType => .raised ⟨"UnknownDeliveryType", some delivery⟩
  | .raised exc => .raised exc

def startsWithHttps (url : String) : Prop :=
  "https://".toList.isPrefixOf (url.toList.map Char.toLower) = true

/-- The ways a validation ends, each with the tests that lead to it. -/
inductive Verdict (env : Env) (eventType delivery : String) (target payloadFilter : Json) :
    Except ServiceError Unit → Prop where
  | unknownEvent : eventType ∉ watchedEvents env →
      Verdict env eventType delivery target payloadFilter
        (refuse 400 err400UnknownEvent [("event_type", .str eventType)])
  | unknownDelivery : eventType ∈ watchedEvents env → resolveDelivery env delivery = none →
      Verdict env eventType delivery target payloadFilter
        (refuse 400 err400UnknownDelivery [("delivery", .str delivery)])
  | badTarget (spec : DeliverySpec) (error : TargetError) : eventType ∈ watchedEvents env →
      resolveDelivery env delivery = some spec → validateTarget env delivery target = .error error →
      Verdict env eventType delivery target payloadFilter (.error (error.refusal delivery))
  | insecure (spec : DeliverySpec) : eventType ∈ watchedEvents env →
      resolveDelivery env delivery = some spec → delivery = "webhook" →
      env.settings.allowInsecureTargets = false → ¬startsWithHttps (targetUrl env target) →
      Verdict env eventType delivery target payloadFilter
        (refuse 400 err400InsecureTarget [("url", .str (targetUrl env target))])
  | badFilter (spec : DeliverySpec) (detail : String) : eventType ∈ watchedEvents env →
      resolveDelivery env delivery = some spec →
      Verdict env eventType delivery target payloadFilter
        (refuse 400 err400InvalidFilter [("detail", .str detail)])
  | accepted (spec : DeliverySpec) : eventType ∈ watchedEvents env →
      resolveDelivery env delivery = some spec → validateTarget env delivery target = .ok () →
      (delivery = "webhook" → env.settings.allowInsecureTargets = false →
        startsWithHttps (targetUrl env target)) →
      validateFilter env.interpreter (orInt env.settings.maxFilterDepth 4) 1 payloadFilter =
        .ok () →
      Verdict env eventType delivery target payloadFilter (.ok ())

theorem verdict (env : Env) (e d : String) (t p : Json) :
    Verdict env e d t p (validateSubscription env e d t p) := by
  unfold validateSubscription
  by_cases watched : e ∈ watchedEvents env
  · simp only [watched, not_true_eq_false, if_false, bind, Except.bind, pure, Except.pure, refuse]
    cases known : resolveDelivery env d with
    | none => exact .unknownDelivery watched known
    | some spec =>
      simp only [Option.isNone_some, Bool.false_eq_true, if_false]
      cases fits : validateTarget env d t with
      | error error =>
        have end' := @Verdict.badTarget _ _ _ _ p spec error watched known fits
        cases error <;> exact end'
      | ok u =>
        have filtered (safe : d = "webhook" → env.settings.allowInsecureTargets = false →
            startsWithHttps (targetUrl env t)) : Verdict env e d t p
              (match validateFilter env.interpreter (orInt env.settings.maxFilterDepth 4) 1 p with
                | .ok () => .ok ()
                | .error detail => refuse 400 err400InvalidFilter [("detail", .str detail)]) := by
          split
          · next fine => exact .accepted spec watched known fits safe fine
          · next detail _ => exact .badFilter spec detail watched known
        by_cases checked : d = "webhook" ∧ ¬env.settings.allowInsecureTargets = true
        · simp only [if_pos checked]
          have off := Bool.eq_false_of_not_eq_true checked.2
          by_cases https : startsWithHttps (targetUrl env t)
          · have result := filtered fun _ _ => https
            unfold startsWithHttps targetUrl at https
            simp only [https, not_true_eq_false, if_false]
            exact result
          · have result := @Verdict.insecure _ _ _ _ p spec watched known checked.1 off https
            unfold startsWithHttps targetUrl at https
            simp only [https, not_false_eq_true, if_true, Bool.false_eq_true]
            exact result
        · simp only [if_neg checked]
          exact filtered fun webhook off => absurd ⟨webhook, by simp [off]⟩ checked
  · simp only [watched, not_false_eq_true, if_true]
    exact .unknownEvent watched

/-- A refusal for the event type or for the delivery type has looked at just that. -/
theorem Verdict.of_refuse {e d key : String} {t p : Json} {params : List (String × Json)}
    (h : Verdict env e d t p (refuse 400 key params)) :
    (key = err400UnknownEvent → e ∉ watchedEvents env) ∧
      (key = err400UnknownDelivery → e ∈ watchedEvents env ∧ resolveDelivery env d = none) := by
  generalize ended : (refuse 400 key params : Except ServiceError Unit) = result at h
  cases h with
  | unknownEvent unwatched =>
    have same := refuse_inj ended
    exact ⟨fun _ => unwatched, fun other => absurd (same.symm.trans other) (by decide)⟩
  | unknownDelivery watched unknown =>
    have same := refuse_inj ended
    exact ⟨fun other => absurd (same.symm.trans other) (by decide), fun _ => ⟨watched, unknown⟩⟩
  | badTarget spec error =>
    cases error with
    | invalidTarget detail =>
      have same : key = err400InvalidTarget := refuse_inj ended
      constructor <;> exact fun other => absurd (same.symm.trans other) (by decide)
    | unknownDeliveryType => cases ended
    | raised exc => cases ended
  | insecure =>
    have same := refuse_inj ended
    constructor <;> exact fun other => absurd (same.symm.trans other) (by decide)
  | badFilter =>
    have same := refuse_inj ended
    constructor <;> exact fun other => absurd (same.symm.trans other) (by decide)
  | accepted => cases ended

/-! ## What a validated rule is -/

/-- The rule would be accepted as a whole. -/
def Subscription.valid (env : Env) (rule : Subscription) : Prop :=
  validateSubscription env rule.eventType rule.delivery rule.target rule.payloadFilter = .ok ()

/-- The last check, on the filter alone. -/
def checkFilter (env : Env) (payloadFilter : Json) : Except ServiceError Unit :=
  match validateFilter env.interpreter (orInt env.settings.maxFilterDepth 4) 1 payloadFilter with
  | .ok () => .ok ()
  | .error detail => refuse 400 err400InvalidFilter [("detail", .str detail)]

/-- The filter is checked last and by itself. -/
theorem validateSubscription_eq (e d : String) (t p : Json) :
    validateSubscription env e d t p =
      (validateSubscription env e d t .null).bind fun _ => checkFilter env p := by
  have free : validateFilter env.interpreter (orInt env.settings.maxFilterDepth 4) 1 .null =
      .ok () := by
    rw [validateFilter]
  unfold validateSubscription
  simp only [free, checkFilter, bind, Except.bind, pure, Except.pure, refuse, throw, throwThe,
    MonadExceptOf.throw]
  by_cases watched : e ∈ watchedEvents env
  · by_cases known : (resolveDelivery env d).isNone = true
    · simp only [watched, known, not_true_eq_false, if_false, if_true]
    · rcases validateTarget env d t with (detail | _ | exc) | u
      · simp only [watched, known, not_true_eq_false, if_false, Bool.false_eq_true]
      · simp only [watched, known, not_true_eq_false, if_false, Bool.false_eq_true]
      · simp only [watched, known, not_true_eq_false, if_false, Bool.false_eq_true]
      · simp only [watched, known, not_true_eq_false, if_false, Bool.false_eq_true]
        by_cases checked : d = "webhook" ∧ ¬env.settings.allowInsecureTargets = true
        · simp only [if_pos checked]
          generalize (if (t.get "url").truthy = true then _ else "" : String) = url
          by_cases https : "https://".toList.isPrefixOf (url.toList.map Char.toLower) = true
          · simp only [https, not_true_eq_false, if_false]
          · simp only [https, not_false_eq_true, if_true, Bool.false_eq_true]
        · simp only [if_neg checked]
  · simp only [watched, not_false_eq_true, if_true]

theorem validateFilter_of_valid (h : rule.valid env) :
    validateFilter env.interpreter (orInt env.settings.maxFilterDepth 4) 1 rule.payloadFilter =
      .ok () := by
  have result := verdict env rule.eventType rule.delivery rule.target rule.payloadFilter
  rw [show validateSubscription env _ _ _ _ = .ok () from h] at result
  cases result with
  | accepted spec watched known fits safe fine => exact fine

/-- An accepted filter is accepted as it is stored, where no filter is the empty one. -/
theorem checkFilter_orEmpty {p : Json} (h : checkFilter env p = .ok ()) :
    checkFilter env p.orEmpty = .ok () := by
  have empty : checkFilter env (.obj []) = .ok () := by rw [checkFilter, validateFilter]
  cases p with
  | obj fields =>
    cases fields with
    | nil => exact empty
    | cons field fields => exact h
  | null => exact empty
  | _ =>
    unfold Json.orEmpty
    split
    · exact h
    · exact empty

theorem validateSubscription_orEmpty {e d : String} {t p : Json}
    (h : validateSubscription env e d t p = .ok ()) :
    validateSubscription env e d t p.orEmpty = .ok () := by
  rw [validateSubscription_eq] at h ⊢
  cases before : validateSubscription env e d t .null with
  | error e => rw [before] at h; cases h
  | ok u =>
    rw [before] at h
    exact checkFilter_orEmpty h

@[simp] theorem Subscription.valid_setActive (b : Option Bool) :
    (rule.setActive b).valid env ↔ rule.valid env := by
  rcases b with _ | _ | _ <;> rfl

/-- What an update saves is valid, whatever instance it started from. -/
theorem valid_of_update (h : updateSubscription env rule changes = .ok new) : new.valid env := by
  rw [updateSubscription_eq_ok h, Subscription.valid_setActive]
  exact validateSubscription_orEmpty (updateSubscription_ok_iff.1 h).1

section Create
variable {args : CreateArgs} {owned : Nat} {draw : TokenBytes} {id : Uuid} {now : Time}

theorem valid_of_create (h : createSubscription env args owned draw id now = .ok rule) :
    rule.valid env := by
  obtain ⟨created, -⟩ := createSubscription_eq_ok h
  rw [Subscription.valid, created.eventType, created.delivery, created.target,
    created.payloadFilter]
  exact validateSubscription_orEmpty created.validated

theorem initialSecret_error {e : ServiceError} (h : initialSecret env args draw = .error e)
    (draw' : TokenBytes) : initialSecret env args draw' = .error e := by
  unfold initialSecret generateSecret at h ⊢
  split
  · next given => rw [given] at h; cases h
  · next absent =>
    rw [absent] at h
    dsimp only at h
    split
    · next unknown => rw [unknown] at h; exact h
    · next unsigned => rw [unsigned] at h; exact h
    · next signed =>
      rw [signed] at h
      dsimp only at h
      cases bytes : orInt env.settings.secretBytes 32 with
      | ofNat n => rw [bytes] at h; cases h
      | negSucc n => rw [bytes] at h; exact h

/-- Whether a creation is refused does not depend on what it draws. -/
theorem createSubscription_error {e : ServiceError}
    (h : createSubscription env args owned draw id now = .error e) (draw' : TokenBytes) (id' : Uuid)
    (now' : Time) : createSubscription env args owned draw' id' now' = .error e := by
  unfold createSubscription at h ⊢
  cases valid : validateSubscription env args.eventType args.delivery args.target
      args.payloadFilter with
  | error exc => simpa [valid, bind, Except.bind] using h
  | ok u =>
    simp only [valid, refuse, bind, Except.bind, pure, Except.pure] at h ⊢
    split at h
    · next capped => rw [if_pos capped]; exact h
    · next room =>
      rw [if_neg room]
      cases secret : initialSecret env args draw with
      | error exc => rw [secret] at h; rw [initialSecret_error secret]; exact h
      | ok text => rw [secret] at h; cases h

end Create

end Webhooks
