import Webhooks.System.Runs

/-!
# Stored rules are valid

A target is valid only for its delivery type, so a rule is validated as a whole.
An update writes the four validated columns together, from an instance that may be
stale, after validating the four values it writes; no other write to a stored rule
touches them. A call that is refused has written nothing, and has assigned nothing
to the instance it was given.
-/
namespace Webhooks

open Interleaving (Config Run anyStep)

variable {ι : Type} {env : Env} {σ σ' : Store} {l l' : Proc} {a : Act}

def Store.rulesValid (env : Env) (σ : Store) : Prop :=
  ∀ id rule, σ.subscriptions.get? id = some rule → rule.valid env

/-- A rule a creation is about to insert is valid. -/
def Proc.insertsValid (env : Env) : Proc → Prop
  | .created rule => rule.valid env
  | _ => True

theorem Caller.insertsValid_next (caller : Caller) : caller.next.insertsValid env := by
  cases caller <;> trivial

theorem Step.insertsValid (h : Step env σ l a σ' l') : l'.insertsValid env := by
  cases h
  case createBuild hcreate => exact valid_of_create hcreate
  case inlineRuleGone | unimportable | answerEscapes | commit | applyRaises | commitRefused =>
    exact Caller.insertsValid_next _
  all_goals trivial

/-- The outcome of an attempt leaves the validated columns of the rule alone. -/
theorem RuleUpdate.valid_saveOn {u : RuleUpdate} {t : Time} {rule : Subscription}
    (h : rule.valid env) : (u.saveOn t rule).valid env := by
  cases u <;> exact h

/-- A committed write leaves valid rules. -/
theorem Step.rulesValid {t : Time} {w : Write} (stored : σ.rulesValid env)
    (inserts : l.insertsValid env) (h : Step env σ l (.write t w) σ' l') : σ'.rulesValid env := by
  intro id rule hrule
  obtain kept | puts := rule_of_exec h.exec_of_write.2 hrule
  · exact stored id rule kept
  · cases puts with
    | outcome _ _ kept => exact RuleUpdate.valid_saveOn (stored id _ kept)
    | create _ =>
      cases h with
      | create => exact inserts
    | patch _ =>
      cases h with
      | patch hupdate =>
        have valid := valid_of_update hupdate
        exact valid
    | rotate kept =>
      have valid := stored id _ kept
      exact valid

theorem rulesValid_of_run [DecidableEq ι] {c d : Config ι Store Proc}
    {tr : List (Interleaving.Event ι Act)} (run : Run (protocol env) anyStep c tr d)
    (stored : c.store.rulesValid env) (inserts : ∀ i, (c.locals i).insertsValid env) :
    d.store.rulesValid env := by
  suffices d.store.rulesValid env ∧ ∀ i, (d.locals i).insertsValid env from this.1
  refine run.invariant (I := fun _ d => d.store.rulesValid env ∧
    ∀ i, (d.locals i).insertsValid env) ?_ ⟨stored, inserts⟩
  rintro tr d ev e ⟨stored, inserts⟩ hs -
  cases hs with
  | @act i a s l hstep =>
    refine ⟨?_, Config.forall_set hstep.insertsValid fun j _ => inserts j⟩
    obtain ⟨w, rfl, -⟩ | ⟨-, quiet⟩ := hstep.effect
    · exact hstep.rulesValid stored (inserts i)
    · intro id rule hrule
      rw [Config.store_set, quiet.subscriptions] at hrule
      exact stored id rule hrule
  | tick htick =>
    obtain ⟨t, -, rfl⟩ := htick
    exact ⟨stored, inserts⟩

/-- A refused update writes nothing. -/
theorem Step.store_of_refused_update {rule : Subscription} {changes : Changes} {e : ServiceError}
    (refused : updateSubscription env rule changes = .error e)
    (h : Step env σ (.patching rule changes) a σ' l') : σ' = σ := by
  cases h with
  | patch accepted _ => rw [refused] at accepted; cases accepted
  | patchRefused => rfl
  | crash => rfl

/-- A refused creation writes nothing. -/
theorem Step.store_of_refused_create {args : CreateArgs} {owned : Nat} {draw : TokenBytes}
    {id : Uuid} {now : Time} {e : ServiceError}
    (refused : createSubscription env args owned draw id now = .error e)
    (h : Step env σ (.creating args owned) a σ' l') : σ' = σ := by
  cases h with
  | createBuild draw' id' now' _ _ accepted =>
    rw [createSubscription_error refused] at accepted
    cases accepted
  | createRefused => rfl
  | crash => rfl

/-- In every run from an installation whose rules are valid — one without rules, say — every
stored rule would be accepted as a whole; and a refused update or creation leaves the store as it
was, and the loaded instance too. -/
theorem stored_rules_valid [DecidableEq ι] {c d : Config ι Store Proc}
    {tr : List (Interleaving.Event ι Act)} (idle : ∀ i, c.locals i = .idle)
    (valid : c.store.rulesValid env) (run : Run (protocol env) anyStep c tr d) :
    (∀ rule ∈ d.store.subscriptions.rows, validateSubscription env rule.eventType rule.delivery
      rule.target rule.payloadFilter = .ok ()) ∧
    (∀ i rule changes e, d.locals i = .patching rule changes →
      updateSubscription env rule changes = .error e →
        updateInstance env changes rule = (.error e, rule) ∧
        ∀ a σ' l', Step env d.store (d.locals i) a σ' l' → σ' = d.store) ∧
    ∀ i args owned draw id now e, d.locals i = .creating args owned →
      createSubscription env args owned draw id now = .error e →
        ∀ a σ' l', Step env d.store (d.locals i) a σ' l' → σ' = d.store := by
  refine ⟨?_, ?_, ?_⟩
  · intro rule hrule
    exact rulesValid_of_run run valid (fun i => by rw [idle i]; trivial) rule.id rule
      (Table.get?_of_mem hrule)
  · intro i rule changes e here refused
    refine ⟨by rw [updateInstance_eq, refused], ?_⟩
    intro a σ' l' h
    rw [here] at h
    exact h.store_of_refused_update refused
  · intro i args owned draw id now e here refused a σ' l' h
    rw [here] at h
    exact h.store_of_refused_create refused

theorem rulesValid_sampleStore : sampleStore.rulesValid sampleEnv := by
  intro id rule h
  obtain rfl : rule = sampleRule := List.mem_singleton.1 (Table.mem_of_get? h)
  rfl

/-- Two updates overlap, one to another delivery type and one to another target for the old type,
while a third, to a topic nobody watches, is refused. -/
theorem stored_rules_valid_overlapping : ∃ tr, ∃ d : Config Nat Store Proc, ∃ e,
    Run (protocol sampleEnv) anyStep sampleStart tr d ∧
      d.store.subscriptions.rows.map (·.delivery) = ["ws"] ∧
      d.locals 2 = .patching sampleRule { eventType := some "other" } ∧
      (∀ rule ∈ d.store.subscriptions.rows, validateSubscription sampleEnv rule.eventType
        rule.delivery rule.target rule.payloadFilter = .ok ()) ∧
      updateInstance sampleEnv { eventType := some "other" } sampleRule = (.error e, sampleRule) ∧
      ∀ a σ' l', Step sampleEnv d.store (d.locals 2) a σ' l' → σ' = d.store := by
  have start : Run (protocol sampleEnv) anyStep sampleStart [] sampleStart := .nil _
  have loaded := ((start.act 0 (@Step.patchLoad _ _ sampleRule.id sampleRule
    { delivery := some "webhook", target := some (.obj [("url", .str "https://receiver.example")]) }
    rfl) trivial).act 1 (@Step.patchLoad _ _ sampleRule.id sampleRule
    { target := some (.obj [("stream", .str "others")]) } rfl) trivial).act 2
    (@Step.patchLoad _ _ sampleRule.id sampleRule { eventType := some "other" } rfl) trivial
  have saved := (loaded.act 0 (.patch rfl rfl) trivial).act 1 (.patch rfl rfl) trivial
  obtain ⟨tr, d, run, types, here⟩ : ∃ tr, ∃ d : Config Nat Store Proc,
      Run (protocol sampleEnv) anyStep sampleStart tr d ∧
      d.store.subscriptions.rows.map (·.delivery) = ["ws"] ∧
      d.locals 2 = .patching sampleRule { eventType := some "other" } :=
    ⟨_, _, saved, rfl, rfl⟩
  obtain ⟨valid, refused, -⟩ := stored_rules_valid (fun _ => rfl) rulesValid_sampleStore run
  exact ⟨tr, d, _, run, types, here, valid, refused 2 sampleRule _ _ here rfl⟩

end Webhooks
