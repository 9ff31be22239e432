import Webhooks.System.Copies
import Webhooks.System.Validity

/-!
# Custom deliveries

A rule of the `custom` type names a callable of the host by its dotted path. The path is
checked against the allowlist when the rule is written, and again at every delivery; what the
callable does counts as if `attempt` had called it. With the allowlist empty, as it ships, no
rule is stored and nothing is called.
-/
namespace Webhooks

open Interleaving (Config Run anyStep)

/-- Why a callable was not imported: an `ImportError` with its text, or another exception. -/
inductive ImportFailure where
  | importError (text : String)
  | raised (exc : PyException)

/-- The callables of the host by their paths, and what `str` raises on an exception that has
no text. -/
structure CustomHost where
  importCallable : String → Except ImportFailure (DeliveryContext → Behaviour)
  strError : PyException → PyException

/-- How `deliver_custom` reads what the callable does. -/
def CustomHost.read (host : CustomHost) : Behaviour → Behaviour
  | .returned result => .returned result
  | .malformed exc => .malformed exc
  | .returnedOther => .returned { ok := true }
  | .raised exc =>
    match exc.text with
    | some text =>
      .returned { ok := false, retryable := true, detail := exc.typeName ++ ": " ++ text }
    | none => .raised (host.strError exc)

/-- The import and the call: the path whose callable was called, if one was, and what it comes
to. -/
def CustomHost.call (host : CustomHost) (dotted : String) (context : DeliveryContext) :
    Option String × Behaviour :=
  match host.importCallable dotted with
  | .error (.importError text) =>
    (none, .returned
      { ok := false, retryable := false, detail := "unimportable handler: " ++ text })
  | .error (.raised exc) => (none, .raised exc)
  | .ok callable => (some dotted, host.read (callable context))

section
variable (env : Env)

def deliverCustom (host : CustomHost) (context : DeliveryContext) : Option String × Behaviour :=
  match validateCustomTarget env context.target with
  | .error detail => (none, .returned { ok := false, retryable := false, detail })
  | .ok () =>
    match context.target.item "path" with
    | .error exc => (none, .raised exc)
    | .ok path => host.call (path.toStr env.interpreter) context

/-- The `custom` type is the built-in one: no layer above it mentions the name. -/
def BuiltinCustom : Prop :=
  resolveDelivery env "custom" = some
    { handler := .path "stapel_webhooks.deliveries.deliver_custom"
      requiredTargetKeys := ["path"]
      anyOfTargetKeys := []
      targetValidator := some (.path "stapel_webhooks.deliveries.validate_custom_target")
      signed := false }

end

variable {ι : Type} {env : Env} {host : CustomHost} {σ σ' : Store} {l l' : Proc} {a : Act}

/-! ## One delivery -/

/-- The callable's answer counts as if `attempt` had called it, unless `str` raises. -/
theorem result_read {behaviour : Behaviour} {result : DeliveryResult}
    (h : behaviour.result = .ok result) : (host.read behaviour).result = .ok result := by
  cases behaviour with
  | returned result => exact h
  | malformed exc => cases h
  | returnedOther => exact h
  | raised exc =>
    obtain ⟨typeName, text⟩ := exc
    cases text with
    | none => cases h
    | some text => exact h

theorem validateCustomTarget_eq_ok {target : Json} : validateCustomTarget env target = .ok () ↔
    (if (target.get "path").truthy then (target.get "path").toStr env.interpreter else "") ∈
      env.settings.allowedCustomPaths := by
  unfold validateCustomTarget
  by_cases empty : env.settings.allowedCustomPaths = []
  · simp [empty]
  · simp only [empty, if_false, ite_not]
    split <;> simp_all

theorem item_of_truthy {target : Json} {key : String} (h : (target.get key).truthy = true) :
    target.item key = .ok (target.get key) := by
  cases target with
  | obj fields =>
    simp only [Json.get, Json.item] at h ⊢
    cases found : fields.lookup key with
    | some value => rfl
    | none => rw [found] at h; cases h
  | _ => cases h

theorem get_orEmpty {target : Json} {key : String} (h : (target.get key).truthy = true) :
    target.orEmpty = target := by
  cases target with
  | obj fields =>
    cases fields with
    | nil => cases h
    | cons field fields => rfl
  | _ => cases h

/-- A callable is called only if its path is on the allowlist, or the target names none and the
empty path is on it. -/
theorem allowed_of_called {context : DeliveryContext} {dotted : String}
    (called : (deliverCustom env host context).1 = some dotted) :
    dotted ∈ env.settings.allowedCustomPaths ∨
      "" ∈ env.settings.allowedCustomPaths ∧ (context.target.get "path").truthy = false := by
  unfold deliverCustom at called
  split at called
  · cases called
  · next allowed =>
    rw [validateCustomTarget_eq_ok] at allowed
    split at allowed
    · next named =>
      rw [item_of_truthy named] at called
      dsimp only at called
      unfold CustomHost.call at called
      split at called
      · cases called
      · cases called
      · cases called; exact .inl allowed
    · next unnamed => exact .inr ⟨allowed, Bool.eq_false_of_not_eq_true unnamed⟩

/-- What `validate_target` has found of a target it accepts. -/
theorem fits_of_validateTarget {name : String} {spec : DeliverySpec} {target : Json}
    (known : resolveDelivery env name = some spec)
    (fits : validateTarget env name target = .ok ()) :
    (∀ key ∈ spec.requiredTargetKeys, (target.get key).truthy = true) ∧
      ∀ validator, spec.targetValidator = some validator → validator ≠ .path "" →
        runValidator env validator target = .ok () := by
  unfold validateTarget at fits
  rw [known] at fits
  dsimp only at fits
  split at fits
  · cases fits
  split at fits
  · cases fits
  next present =>
    split at fits
    · cases fits
    refine ⟨?_, fun validator own named => ?_⟩
    · simpa [List.filter_eq_nil_iff] using present
    · rw [own] at fits
      split at fits
      · next absent => cases absent
      · next empty => exact absurd (Option.some.inj empty) named
      · next other _ same => cases same; exact fits

/-- What authoring checks of the target of a built-in custom rule. -/
theorem target_of_valid {rule : Subscription} (builtin : BuiltinCustom env)
    (custom : rule.delivery = "custom") (valid : rule.valid env) :
    (rule.target.get "path").truthy = true ∧ validateCustomTarget env rule.target = .ok () := by
  have checked := verdict env rule.eventType rule.delivery rule.target rule.payloadFilter
  rw [valid] at checked
  cases checked with
  | accepted spec _ known fits =>
    rw [custom] at fits
    obtain ⟨required, validated⟩ := fits_of_validateTarget builtin fits
    refine ⟨required "path" (List.mem_singleton_self _), ?_⟩
    have ran := validated _ rfl (by simp)
    rw [runValidator, if_pos rfl] at ran
    cases here : validateCustomTarget env rule.target with
    | ok => rfl
    | error detail => rw [here] at ran; cases ran

/-- A delivery for a valid custom rule passes the second check. -/
theorem deliverCustom_of_valid (host : CustomHost) {rule : Subscription}
    (builtin : BuiltinCustom env) (custom : rule.delivery = "custom") (valid : rule.valid env)
    (row : Delivery) :
    (rule.target.get "path").toStr env.interpreter ∈ env.settings.allowedCustomPaths ∧
      deliverCustom env host (buildContext row rule) =
        host.call ((rule.target.get "path").toStr env.interpreter) (buildContext row rule) := by
  obtain ⟨named, allowed⟩ := target_of_valid builtin custom valid
  have target : (buildContext row rule).target = rule.target := get_orEmpty named
  constructor
  · rwa [validateCustomTarget_eq_ok, if_pos named] at allowed
  · rw [deliverCustom, target, allowed, item_of_truthy named]

/-! ## Runs -/

/-- The copy of a rule inside `attempt` is valid. -/
def Proc.AttemptsValid (env : Env) : Proc → Prop
  | .ready _ rule _ => rule.valid env
  | .calling _ rule _ => rule.valid env
  | .answered _ rule _ _ => rule.valid env
  | _ => True

theorem Caller.attemptsValid_next (caller : Caller) : caller.next.AttemptsValid env := by
  cases caller <;> trivial

theorem Step.attemptsValid (stored : σ.rulesValid env) (valid : l.AttemptsValid env)
    (h : Step env σ l a σ' l') : l'.AttemptsValid env := by
  cases h
  case drainLoad hload _ => exact stored _ _ (Store.get?_of_load hload).2
  case inlineRule hrule => exact stored _ _ hrule
  case unresolved | call | answer => exact valid
  case inlineRuleGone | unimportable | answerEscapes | commit | applyRaises | commitRefused =>
    exact Caller.attemptsValid_next _
  all_goals trivial

theorem attemptsValid_of_run [DecidableEq ι] {c d : Config ι Store Proc}
    {tr : List (Interleaving.Event ι Act)} (idle : ∀ i, c.locals i = .idle)
    (valid : c.store.rulesValid env) (run : Run (protocol env) anyStep c tr d) :
    ∀ i, (d.locals i).AttemptsValid env := by
  induction run with
  | nil => exact fun i => by rw [idle i]; trivial
  | snoc run hs _ ih =>
    have stored := rulesValid_of_run run valid fun i => by rw [idle i]; trivial
    cases hs with
    | act hstep => exact Config.forall_set (hstep.attemptsValid stored (ih _)) fun j _ => ih j
    | tick => exact ih

/-- However the services interleave, the two checks of a custom rule agree: whenever `attempt`
has loaded one, `deliver_custom` gets to the callable the rule names, whose path is on the
allowlist, and the answer counts as if `attempt` had called it. With the allowlist empty no custom
rule is ever stored or loaded. -/
theorem custom_rule_served [DecidableEq ι] {c d : Config ι Store Proc}
    {tr : List (Interleaving.Event ι Act)} (builtin : BuiltinCustom env)
    (idle : ∀ i, c.locals i = .idle) (valid : c.store.rulesValid env)
    (run : Run (protocol env) anyStep c tr d) (host : CustomHost) :
    (∀ i row rule caller, d.locals i = .ready row rule caller → rule.delivery = "custom" →
      ∃ dotted ∈ env.settings.allowedCustomPaths,
        deliveryHandler env rule.delivery = .ok .deliverCustom ∧
        dotted = (rule.target.get "path").toStr env.interpreter ∧
        deliverCustom env host (buildContext row rule) =
          host.call dotted (buildContext row rule) ∧
        ∀ callable result, host.importCallable dotted = .ok callable →
          (callable (buildContext row rule)).result = .ok result →
            (deliverCustom env host (buildContext row rule)).2.result = .ok result) ∧
    (env.settings.allowedCustomPaths = [] →
      (∀ rule ∈ d.store.subscriptions.rows, rule.delivery ≠ "custom") ∧
        ∀ i row rule caller, d.locals i = .ready row rule caller → rule.delivery ≠ "custom") := by
  have loaded {i row rule caller} (here : d.locals i = .ready row rule caller) :
      rule.valid env := by
    have copies := attemptsValid_of_run idle valid run i
    rwa [here] at copies
  have stored := rulesValid_of_run run valid fun i => by rw [idle i]; trivial
  constructor
  · intro i row rule caller here custom
    obtain ⟨allowed, passes⟩ := deliverCustom_of_valid host builtin custom
      (loaded here) row
    refine ⟨_, allowed, ?_, rfl, passes, fun callable result found answers => ?_⟩
    · rw [custom, deliveryHandler, builtin]
      rfl
    · rw [passes, CustomHost.call, found]
      exact result_read answers
  · intro empty
    constructor
    · intro rule kept custom
      have allowed := (deliverCustom_of_valid host builtin custom
        (stored rule.id rule (Table.get?_of_mem kept)) sampleRow).1
      simp [empty] at allowed
    · intro i row rule caller here custom
      have allowed := (deliverCustom_of_valid host builtin custom (loaded here) row).1
      simp [empty] at allowed

/-- One path is on the allowlist. -/
def customEnv : Env :=
  { sampleEnv with settings := { defaults with allowedCustomPaths := ["host.notify"] } }

def customRule : Subscription :=
  { sampleRule with delivery := "custom", target := .obj [("path", .str "host.notify")] }

def customStore : Store :=
  { sampleRowStore with
    subscriptions := ⟨[customRule], List.nodup_singleton _, List.nodup_singleton _⟩ }

def customStart : Config Nat Store Proc := ⟨customStore, fun _ => .idle⟩

/-- A callable that does its job and returns nothing. -/
def quietHost : CustomHost := ⟨fun _ => .ok fun _ => .returnedOther, id⟩

/-- A drain gets to a custom rule. -/
theorem custom_rule_served_drained : ∃ tr, ∃ d : Config Nat Store Proc, ∃ row caller,
    Run (protocol customEnv) anyStep customStart tr d ∧
      d.locals 0 = .ready row customRule caller ∧
      (deliverCustom customEnv quietHost (buildContext row customRule)).2.result =
        .ok { ok := true } := by
  have start : Run (protocol customEnv) anyStep customStart [] customStart := .nil _
  have due := start.act 0 (.due 100 0 le_rfl) trivial
  have claimed := due.act 0 (@Step.claim _ _ _ (sampleUuid 2) _ 0 le_rfl
    (exec_claim canLease_defaults rfl)) trivial
  have loaded := claimed.act 0 (@Step.drainLoad _ _ _ _ _ _ customRule rfl rfl) trivial
  obtain ⟨tr, d, row, caller, run, here⟩ : ∃ tr, ∃ d : Config Nat Store Proc, ∃ row caller,
      Run (protocol customEnv) anyStep customStart tr d ∧
        d.locals 0 = .ready row customRule caller := ⟨_, _, _, _, loaded, rfl⟩
  have valid : customStart.store.rulesValid customEnv := by
    intro id rule stored
    obtain rfl : rule = customRule := List.mem_singleton.1 (Table.mem_of_get? stored)
    rfl
  have builtin : BuiltinCustom customEnv := by rfl
  obtain ⟨dotted, -, -, -, -, answers⟩ := (custom_rule_served builtin (fun _ => rfl) valid run
    quietHost).1 0 row customRule caller here rfl
  exact ⟨tr, d, row, caller, run, here, answers _ _ rfl rfl⟩

end Webhooks
