import Webhooks.System.Runs
import Webhooks.Vocabulary

/-!
# What a delivery type is

The registry as its layers: the last one that mentions a name has the say, and `none`
there removes it. Validation, the catalog view and the dispatcher go by the same
layers. To be served, a type must also name a handler, which the dispatcher resolves
when a row is attempted and nobody before.
-/
namespace Webhooks

open Interleaving (Config Run anyStep)

abbrev Layer := List (String × Option DeliverySpec)

/-- What a layer says of a name: the last spec written for it, as in a dictionary. -/
def Layer.mention (layer : Layer) (name : String) : Option (Option DeliverySpec) :=
  List.lookup name layer.reverse

/-- What the last layer that mentions a name says of it. -/
def lastMention (layers : List Layer) (name : String) : Option (Option DeliverySpec) :=
  layers.reverse.findSome? fun layer => layer.mention name

/-- The spec a name has by its layers. -/
def effectiveSpec (env : Env) (name : String) : Option DeliverySpec :=
  (lastMention [builtinDeliveryTypes, env.settings.deliveryTypes, env.runtimeTypes] name).join

/-- What a spec names as its handler can be called: a callable, or a dotted path that imports. -/
def HandlerField.Resolves (env : Env) : HandlerField → Prop
  | .callable _ => True
  | .path dotted => dotted ≠ "" ∧ ∃ handler, importString env dotted = .ok handler
  | .missing => False

variable {env : Env} {name : String}

theorem nodup_merged (env : Env) :
    ((Assoc.update (Assoc.update builtinDeliveryTypes env.settings.deliveryTypes)
      env.runtimeTypes).map Prod.fst).Nodup :=
  Assoc.nodup_keys_update (Assoc.nodup_keys_update (by decide) _) _

/-- The effective spec is the one of the last layer that mentions the name. -/
theorem resolveDelivery_eq : resolveDelivery env name = effectiveSpec env name := by
  have builtin := Assoc.lookup_reverse (d := builtinDeliveryTypes) (by decide) name
  have layers : lastMention [builtinDeliveryTypes, env.settings.deliveryTypes, env.runtimeTypes]
      name = (env.runtimeTypes.reverse.lookup name).or
        ((env.settings.deliveryTypes.reverse.lookup name).or
          (builtinDeliveryTypes.lookup name)) := by
    rw [← builtin]
    simp only [lastMention, List.reverse_cons, List.reverse_nil, List.nil_append,
      List.cons_append, List.findSome?_cons, List.findSome?_nil, Layer.mention]
    cases List.lookup name env.runtimeTypes.reverse with
    | some spec => rfl
    | none =>
      cases List.lookup name env.settings.deliveryTypes.reverse with
      | some spec => rfl
      | none => cases List.lookup name builtinDeliveryTypes.reverse <;> rfl
  rw [resolveDelivery, getDeliveryTypes, effectiveSpec, layers]
  refine (Assoc.lookup_live (nodup_merged env) name).trans ?_
  rw [Assoc.lookup_update, Assoc.lookup_update]

/-! ## The three consumers -/

/-- For a watched event, validation refuses a name as a delivery type if and only if its layers
give it no spec. -/
theorem deliveryType_refused_iff {eventType : String} (watched : eventType ∈ watchedEvents env)
    (target payloadFilter : Json) :
    validateSubscription env eventType name target payloadFilter =
        refuse 400 err400UnknownDelivery [("delivery", .str name)] ↔
      effectiveSpec env name = none := by
  rw [← resolveDelivery_eq]
  constructor
  · intro refused
    exact ((refused ▸ verdict env eventType name target payloadFilter).of_refuse.2 rfl).2
  · intro unknown
    simp [validateSubscription, watched, unknown, refuse, bind, Except.bind]

theorem mem_deliveryTypes_iff :
    name ∈ (getDeliveryTypes env).map Prod.fst ↔ (effectiveSpec env name).isSome := by
  rw [← resolveDelivery_eq]
  exact Assoc.mem_keys_iff

theorem deliveryHandler_ok_iff : (∃ handler, deliveryHandler env name = .ok handler) ↔
    ∃ spec, effectiveSpec env name = some spec ∧ spec.handler.Resolves env := by
  rw [← resolveDelivery_eq]
  unfold deliveryHandler
  cases resolveDelivery env name with
  | none => simp
  | some spec =>
    simp only [Option.some.injEq, exists_eq_left']
    cases spec.handler with
    | callable handler => exact ⟨fun _ => trivial, fun _ => ⟨handler, rfl⟩⟩
    | missing => exact ⟨nofun, nofun⟩
    | path dotted =>
      by_cases empty : dotted = ""
      · simp [HandlerField.Resolves, empty]
      · cases imported : importString env dotted with
        | ok handler => simp [HandlerField.Resolves, empty, imported]
        | error exc => simp [HandlerField.Resolves, empty, imported]

/-- A removed type has no handler: whoever attempts one of its rows does not get to call one. -/
theorem not_call_of_removed {σ σ' : Store} {l l' : Proc} {id : Uuid} {handler : Handler}
    {context : DeliveryContext} (removed : effectiveSpec env name = none)
    (h : Step env σ l (.call id handler context) σ' l') :
    ∃ row rule caller, l = .ready row rule caller ∧ row.id = id ∧ rule.delivery ≠ name := by
  cases h with
  | @call row rule caller _ resolved =>
    refine ⟨row, rule, caller, rfl, rfl, ?_⟩
    rintro rfl
    obtain ⟨spec, live, -⟩ := deliveryHandler_ok_iff.1 ⟨handler, resolved⟩
    rw [removed] at live
    cases live

theorem deliveryTypes_of_view {sources : CatalogSources} {process : Process}
    {shown : EventCatalog} (h : (eventCatalogView sources env process).1 = .ok shown) :
    shown.deliveryTypes = ((getDeliveryTypes env).map Prod.fst).insertionSort (· ≤ ·) := by
  unfold eventCatalogView at h
  rw [bind_apply] at h
  split at h
  · rw [bind_apply] at h
    split at h
    · cases h; rfl
    · cases h
  · cases h

/-- The last layer that mentions a name gives its spec. Validation admits the name, and the catalog
view lists it, if and only if that is a live spec; the dispatcher resolves a handler if and only if
the live spec also names one that can be called. Once the name is removed no run calls a handler
for it, not for rows planned before either. -/
theorem delivery_types_agree (sources : CatalogSources) (env : Env) (process : Process)
    (name : String) :
    resolveDelivery env name = effectiveSpec env name ∧
    (∀ eventType ∈ watchedEvents env, ∀ target payloadFilter,
      validateSubscription env eventType name target payloadFilter ≠
          refuse 400 err400UnknownDelivery [("delivery", .str name)] ↔
        (effectiveSpec env name).isSome) ∧
    (∀ shown, (eventCatalogView sources env process).1 = .ok shown →
      (name ∈ shown.deliveryTypes ↔ (effectiveSpec env name).isSome)) ∧
    ((∃ handler, deliveryHandler env name = .ok handler) ↔
      ∃ spec, effectiveSpec env name = some spec ∧ spec.handler.Resolves env) ∧
    (effectiveSpec env name = none → ∀ {ι : Type} [DecidableEq ι] {c d : Config ι Store Proc}
      {tr : List (Interleaving.Event ι Act)}, Run (protocol env) anyStep c tr d →
      ∀ before i id handler context behind,
        tr = before ++ .act i (.call id handler context) :: behind →
        ∃ e row rule caller, Run (protocol env) anyStep c before e ∧
          e.locals i = .ready row rule caller ∧ row.id = id ∧ rule.delivery ≠ name) := by
  refine ⟨resolveDelivery_eq, ?_, ?_, deliveryHandler_ok_iff, ?_⟩
  · intro eventType watched target payloadFilter
    rw [Option.isSome_iff_ne_none]
    exact not_congr (deliveryType_refused_iff watched target payloadFilter)
  · intro shown viewed
    rw [deliveryTypes_of_view viewed, List.mem_insertionSort]
    exact mem_deliveryTypes_iff
  · intro removed ι _ c d tr run before i id handler context behind same
    obtain ⟨e, f, earlier, step⟩ := run.step_at same
    cases step with
    | act stepped =>
      obtain ⟨row, rule, caller, here, own, other⟩ := not_call_of_removed removed stepped
      exact ⟨e, row, rule, caller, earlier, here, own, other⟩

/-- A type whose spec names no handler. -/
def handlerless : Env :=
  { sampleEnv with
    settings :=
      { defaults with deliveryTypes := [("pager", some ⟨.missing, [], [], none, false⟩)] } }

/-- Validation admits it and the view lists it, and an attempt dead-letters its rows for want of a
handler. -/
theorem handlerless_type_admitted :
    validateSubscription handlerless "listing.published" "pager" (.obj []) .null = .ok () ∧
      "pager" ∈ (getDeliveryTypes handlerless).map Prod.fst ∧
      deliveryHandler handlerless "pager" = .error (declaresNoHandler handlerless "pager") :=
  ⟨rfl, by decide, rfl⟩

/-- With `ws` removed at runtime, from a store in which a row of a `ws` rule is due. -/
theorem delivery_types_agree_removed :
    let env := { sampleEnv with runtimeTypes := [("ws", none)] }
    resolveDelivery env "ws" = none ∧ (∃ handler, deliveryHandler env "webhook" = .ok handler) ∧
      ∀ d tr, Run (protocol env) anyStep ⟨sampleRowStore, fun _ : Nat => .idle⟩ tr d →
        ∀ before i id handler context behind,
          tr = before ++ .act i (.call id handler context) :: behind →
          ∃ e row rule caller,
            Run (protocol env) anyStep ⟨sampleRowStore, fun _ => .idle⟩ before e ∧
            e.locals i = .ready row rule caller ∧ row.id = id ∧ rule.delivery ≠ "ws" := by
  intro env
  have agree (name : String) := delivery_types_agree ⟨[], []⟩ env (.initial emptyDisk) name
  refine ⟨(agree "ws").1, (agree "webhook").2.2.2.1.2 ⟨_, rfl, by decide, .deliverWebhook, rfl⟩, ?_⟩
  intro d tr run
  exact (agree "ws").2.2.2.2 rfl run

end Webhooks
