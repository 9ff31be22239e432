import Webhooks.System.Columns
import Webhooks.System.Validity

/-!
# Switching a rule off

An inactive rule matches nothing, so once it is stored as inactive no dispatch that starts
afterwards plans for it. What stands in the way is the update: it validates the whole rule
against the configuration of today, so a rule that no longer fits cannot be saved, inactive
or not, and fires on. And a dispatch or an update that had loaded the rule before goes on with
the copy it holds.
-/
namespace Webhooks

open Interleaving (Config Run StepCondition anyStep)

def switchOff : Changes := { isActive := some false }

variable {ι : Type} {env before : Env} {σ σ' : Store} {l l' : Proc} {a : Act} {id : Uuid}
  {rule new : Subscription}

/-! ## A rule that is off -/

/-- The rule is not stored as an active one. -/
def Store.isOff (σ : Store) (id : Uuid) : Prop :=
  ∀ rule, σ.subscriptions.get? id = some rule → rule.isActive = false

/-- An update is under way that loaded the rule while it was active and leaves `is_active` as it
found it, or a creation that is about to insert it. -/
def Proc.revives (id : Uuid) : Proc → Prop
  | .patching copy changes => copy.id = id ∧ changes.isActive = none ∧ copy.isActive = true
  | .created rule => rule.id = id
  | _ => False

/-- A dispatch is under way that matched the rule and has a delivery for it to plan. -/
def Proc.hasMatched (id : Uuid) : Proc → Prop
  | .planning _ rules _ => ∃ rule ∈ rules, rule.id = id
  | .inserting _ row rules _ => row.subscriptionId = id ∨ ∃ rule ∈ rules, rule.id = id
  | .rereading _ _ rules _ => ∃ rule ∈ rules, rule.id = id
  | _ => False

/-- The step does not re-activate the rule. -/
def leavesOff (id : Uuid) : StepCondition ι Store Proc Act := fun _ ev _ =>
  ∀ i t new changes, ev = .act i (.write t (.patch new changes)) → new.id = id →
    changes.isActive ≠ some true

/-- However the installation runs on from here, no dispatch plans for the rule until it is
re-activated. -/
def StaysOff [DecidableEq ι] (id : Uuid) (c : Config ι Store Proc) : Prop :=
  ∀ (env : Env) (tr : List (Interleaving.Event ι Act)) (d : Config ι Store Proc),
    Run (protocol env) (leavesOff id) c tr d →
      ∀ i t row, .act i (.write t (.plan row)) ∈ tr → row.subscriptionId ≠ id

/-- At the moment of the switch nobody holds the rule as an active one to save it back, and no
dispatch that matched it is still planning. -/
structure Unheld (id : Uuid) (c : Config ι Store Proc) : Prop where
  calm : ∀ i, ¬(c.locals i).revives id
  through : ∀ i, ¬(c.locals i).hasMatched id

theorem Caller.not_revives_next (caller : Caller) : ¬caller.next.revives id := by
  cases caller <;> exact not_false

theorem Caller.not_hasMatched_next (caller : Caller) : ¬caller.next.hasMatched id := by
  cases caller <;> exact not_false

/-- What an update does to `is_active`. -/
theorem isActive_of_update {changes : Changes}
    (h : updateSubscription env rule changes = .ok new) :
    new.isActive = changes.isActive.getD rule.isActive := by
  rw [updateSubscription_eq_ok h]
  rcases changes.isActive with _ | _ | _ <;> rfl

theorem RuleUpdate.isActive_saveOn {u : RuleUpdate} {t : Time} (off : rule.isActive = false) :
    (u.saveOn t rule).isActive = false := by
  cases u with
  | disable failures now => rfl
  | _ => exact off

/-- Only a save of an active instance makes the rule active again. -/
theorem Step.isOff (h : Step env σ l a σ' l') (off : σ.isOff id) (calm : ¬l.revives id)
    (kept : ∀ t new changes, a = .write t (.patch new changes) → new.id = id →
      changes.isActive ≠ some true) : σ'.isOff id := by
  intro rule hrule
  obtain ⟨w, rfl, hexec⟩ | ⟨-, quiet⟩ := h.effect
  · obtain stored | puts := rule_of_exec hexec hrule
    · exact off rule stored
    · cases puts with
      | outcome _ _ stored => exact RuleUpdate.isActive_saveOn (off _ stored)
      | create own =>
        cases h with
        | create => exact absurd own.symm calm
      | @patch new changes _ own =>
        obtain ⟨copy, rfl, -, updated⟩ := h.of_patch
        have same := updateSubscription_id updated
        change new.isActive = false
        rw [isActive_of_update updated]
        rcases hactive : changes.isActive with _ | _ | _
        · have copied : ¬copy.isActive = true := fun active =>
            calm ⟨same.symm.trans own.symm, hactive, active⟩
          simpa using copied
        · rfl
        · exact absurd hactive (kept _ _ _ rfl own.symm)
      | rotate stored =>
        have still := off _ stored
        exact still
  · rw [quiet.subscriptions] at hrule
    exact off rule hrule

/-- A process comes to hold the rule for re-activation only by loading it active, or by building
one with a fresh id. -/
theorem Step.revives (h : Step env σ l a σ' l') (off : σ.isOff id) (minted : id ∈ σ.minted)
    (revives : l'.revives id) : l.revives id := by
  cases h
  case patchLoad stored =>
    obtain ⟨rfl, -, active⟩ := revives
    rw [Table.key_of_get? stored] at off
    rw [off _ stored] at active
    cases active
  case createBuild fresh past created =>
    have own := (createSubscription_eq_ok created).2
    exact absurd ((own.symm.trans revives) ▸ minted) fresh
  case inlineRuleGone | unimportable | answerEscapes | commit | applyRaises | commitRefused =>
    exact absurd revives (Caller.not_revives_next _)
  all_goals exact revives.elim

/-- A dispatch comes to hold a rule only by matching it, which an inactive rule does not. -/
theorem Step.hasMatched (h : Step env σ l a σ' l') (off : σ.isOff id)
    (matched : l'.hasMatched id) : l.hasMatched id := by
  cases h
  case matched event _ =>
    obtain ⟨rule, matching, rfl⟩ := matched
    obtain ⟨stored, accepted⟩ := (mem_matchingSubscriptions env).1 matching
    have inactive := off rule (Table.get?_of_mem stored)
    simp [isMatching, inactive] at accepted
  case found =>
    obtain ⟨rule, later, own⟩ := matched
    exact ⟨rule, List.mem_cons_of_mem _ later, own⟩
  case build =>
    rcases matched with own | ⟨rule, later, own⟩
    · exact ⟨_, List.mem_cons_self, own⟩
    · exact ⟨rule, List.mem_cons_of_mem _ later, own⟩
  case insert => exact .inr matched
  case lost => exact .inr matched
  case reread => exact matched
  case inlineRuleGone | unimportable | answerEscapes | commit | applyRaises | commitRefused =>
    exact absurd matched (Caller.not_hasMatched_next _)
  all_goals exact matched.elim

/-- Every process that could bring the rule back has gone, and the rule is off. -/
structure SwitchedOff (id : Uuid) (c : Config ι Store Proc) : Prop where
  off : c.store.isOff id
  minted : id ∈ c.store.minted
  calm : ∀ i, ¬(c.locals i).revives id

section
variable [DecidableEq ι] {c d e : Config ι Store Proc} {tr : List (Interleaving.Event ι Act)}
  {ev : Interleaving.Event ι Act}

theorem SwitchedOff.step (h : SwitchedOff id c) (hs : Interleaving.Step (protocol env) c ev d)
    (ok : leavesOff id c ev d) : SwitchedOff id d := by
  cases hs with
  | @act i a s l hstep =>
    refine ⟨?_, hstep.minted h.minted, ?_⟩
    · refine hstep.isOff h.off (h.calm i) fun t new changes ha => ?_
      exact ok i t new changes (by rw [ha])
    · refine Config.forall_set (Q := fun _ (l : Proc) => ¬l.revives id) ?_ fun j _ => h.calm j
      exact fun revives => h.calm i (hstep.revives h.off h.minted revives)
  | tick htick =>
    obtain ⟨t, -, rfl⟩ := htick
    exact ⟨h.off, h.minted, h.calm⟩

theorem SwitchedOff.run (run : Run (protocol env) (leavesOff id) c tr d)
    (h : SwitchedOff id c) : SwitchedOff id d :=
  run.invariant (I := fun _ d => SwitchedOff id d) (fun _ _ _ _ h hs ok => h.step hs ok) h

/-- A process that has not matched the rule plans nothing for it. -/
theorem SwitchedOff.unplanned (run : Run (protocol env) (leavesOff id) c tr d)
    (h : SwitchedOff id c) (i : ι) (through : ¬(c.locals i).hasMatched id) (t : Time)
    (row : Delivery) (planned : .act i (.write t (.plan row)) ∈ tr) :
    row.subscriptionId ≠ id := by
  suffices kept : SwitchedOff id d ∧ ¬(d.locals i).hasMatched id ∧ ∀ t row,
      .act i (.write t (.plan row)) ∈ tr → row.subscriptionId ≠ id from kept.2.2 t row planned
  refine run.invariant (I := fun tr d => SwitchedOff id d ∧ ¬(d.locals i).hasMatched id ∧ ∀ t row,
    .act i (.write t (.plan row)) ∈ tr → row.subscriptionId ≠ id) ?_ ⟨h, through, by simp⟩
  rintro tr d ev e ⟨off, through, none⟩ hs ok
  refine ⟨off.step hs ok, ?_, ?_⟩
  · cases hs with
    | @act j a s l hstep =>
      by_cases own : j = i
      · subst own
        rw [Config.locals_set_self]
        exact fun matched => through (hstep.hasMatched off.off matched)
      · rw [Config.locals_set_of_ne _ _ _ (Ne.symm own)]
        exact through
    | tick => exact through
  · intro t row planned
    rcases List.mem_append.1 planned with earlier | last
    · exact none t row earlier
    · rw [List.mem_singleton] at last
      cases hs with
      | tick => cases last
      | act hstep =>
        cases last
        obtain ⟨event, rules, rows, here, -⟩ := hstep.of_plan
        rw [here] at through
        exact fun own => through (.inl own)

/-- An inactive rule with an id that is taken stays off. -/
theorem Unheld.staysOff (h : Unheld id c) (off : c.store.isOff id)
    (minted : id ∈ c.store.minted) : StaysOff id c := by
  intro env tr d run i t row planned
  have switched : SwitchedOff id c := ⟨off, minted, h.calm⟩
  exact switched.unplanned run i (h.through i) t row planned

end

/-! ## A rule that still fits -/

/-- What the configuration of today asks of a rule. -/
structure StillFits (env : Env) (rule : Subscription) : Prop where
  watched : rule.eventType ∈ watchedEvents env
  served : (resolveDelivery env rule.delivery).isSome
  allowed : validateTarget env rule.delivery rule.target = .ok ()
  secure : rule.delivery = "webhook" → env.settings.allowInsecureTargets = false →
    startsWithHttps (targetUrl env rule.target)
  shallow : validateFilter env.interpreter (orInt env.settings.maxFilterDepth 4) 1
    rule.payloadFilter = .ok ()

theorem valid_iff_stillFits : rule.valid env ↔ StillFits env rule := by
  constructor
  · intro h
    have result := verdict env rule.eventType rule.delivery rule.target rule.payloadFilter
    rw [show validateSubscription env _ _ _ _ = .ok () from h] at result
    cases result with
    | accepted spec watched known fits safe fine =>
      exact ⟨watched, by rw [known]; rfl, fits, safe, fine⟩
  · rintro ⟨watched, served, allowed, secure, shallow⟩
    have known : (resolveDelivery env rule.delivery).isNone = false := by
      simpa using served
    unfold Subscription.valid validateSubscription
    simp only [watched, known, allowed, shallow, not_true_eq_false, if_false, Bool.false_eq_true,
      bind, Except.bind, pure, Except.pure]
    split
    · next checked =>
      have https := secure checked.1 (Bool.eq_false_of_not_eq_true checked.2)
      unfold startsWithHttps targetUrl at https
      simp only [https, not_true_eq_false, if_false]
    · rfl

/-- A rule as the services have stored it, valid under the configuration it was written under. -/
structure Written (before : Env) (σ : Store) (rule : Subscription) : Prop where
  stored : σ.subscriptions.get? rule.id = some rule
  minted : rule.id ∈ σ.minted
  valid : rule.valid before
  normal : rule.payloadFilter.orEmpty = rule.payloadFilter
  accepted : before.backend.acceptsSubscription rule = true

/-- What a process has in hand to store a rule from. -/
def Proc.bringsMinted (minted : List Uuid) : Proc → Prop
  | .patching copy _ => copy.id ∈ minted
  | .created rule => rule.id ∈ minted ∧ rule.payloadFilter.orEmpty = rule.payloadFilter
  | _ => True

theorem Caller.bringsMinted_next (minted : List Uuid) (caller : Caller) :
    caller.next.bringsMinted minted := by
  cases caller <;> trivial

theorem Proc.bringsMinted.mono {minted minted' : List Uuid} (sub : minted ⊆ minted')
    (h : l.bringsMinted minted) : l.bringsMinted minted' := by
  cases l with
  | patching copy changes => exact sub h
  | created rule => exact ⟨sub h.1, h.2⟩
  | _ => trivial

/-- The columns of every stored rule, apart from its validity. -/
def Store.keepsRules (env : Env) (σ : Store) : Prop :=
  ∀ id rule, σ.subscriptions.get? id = some rule → rule.id ∈ σ.minted ∧
    rule.payloadFilter.orEmpty = rule.payloadFilter ∧ env.backend.acceptsSubscription rule = true

theorem orEmpty_orEmpty (filter : Json) : filter.orEmpty.orEmpty = filter.orEmpty := by
  by_cases truthy : filter.truthy = true <;> simp [Json.orEmpty, truthy]

theorem Step.bringsMinted (h : Step env σ l a σ' l') (stored : σ.keepsRules env) :
    l'.bringsMinted σ'.minted := by
  cases h
  case patchLoad found => exact (stored _ _ found).1
  case createBuild created =>
    obtain ⟨from', own⟩ := createSubscription_eq_ok created
    rw [Proc.bringsMinted, own, from'.payloadFilter]
    exact ⟨List.mem_cons_self, orEmpty_orEmpty _⟩
  case inlineRuleGone | unimportable | answerEscapes | commit | applyRaises | commitRefused =>
    exact Caller.bringsMinted_next _ _
  all_goals trivial

/-- The database has taken the count an attempt writes. -/
theorem accepted_of_outcome {o : Outcome} {u : RuleUpdate}
    (hexec : exec env σ (.outcome o) = some σ') (hu : o.update = some u)
    (accepted : env.backend.acceptsSubscription rule = true) (t : Time) :
    env.backend.acceptsSubscription (u.saveOn t rule) = true := by
  have count : env.backend.integers u.failures = true := by
    simp only [exec, Option.ite_none_right_eq_some] at hexec
    obtain ⟨-, h⟩ := hexec
    split at h
    · next hrules =>
      rw [hu, Store.updateRule] at hrules
      split at hrules
      · next both => exact (Bool.and_eq_true _ _ ▸ both).1
      · cases hrules
    · cases h
  cases u <;> simp_all [Backend.acceptsSubscription, RuleUpdate.saveOn, RuleUpdate.apply,
    Subscription.saved, RuleUpdate.failures]

/-- A committed write keeps what the columns of stored rules are like. -/
theorem Step.keepsRules (h : Step env σ l a σ' l') (stored : σ.keepsRules env)
    (brings : l.bringsMinted σ.minted) : σ'.keepsRules env := by
  obtain ⟨w, rfl, hexec⟩ | ⟨-, quiet⟩ := h.effect
  · intro id rule hrule
    rw [(exec_frame hexec).2]
    obtain kept | puts := rule_of_exec hexec hrule
    · exact stored id rule kept
    · cases puts with
      | @outcome o u old _ update kept =>
        obtain ⟨minted, normal, accepted⟩ := stored id old kept
        refine ⟨?_, ?_, accepted_of_outcome hexec update accepted σ.clock⟩
        · exact (u.saveOn_id σ.clock old).symm ▸ minted
        · cases u <;> exact normal
      | create _ =>
        simp only [exec, Option.ite_none_right_eq_some] at hexec
        cases h with
        | create => exact ⟨brings.1, brings.2, hexec.1⟩
      | @patch new changes _ _ =>
        simp only [exec, Option.ite_none_right_eq_some] at hexec
        obtain ⟨copy, rfl, -, updated⟩ := h.of_patch
        refine ⟨?_, ?_, hexec.1⟩
        · have minted : new.id ∈ σ.minted := by
            rw [updateSubscription_id updated]
            exact brings
          exact minted
        · change new.payloadFilter.orEmpty = new.payloadFilter
          rw [updateSubscription_eq_ok updated]
          rcases changes.isActive with _ | _ | _ <;> exact orEmpty_orEmpty _
      | @rotate secret old kept =>
        simp only [exec, Option.ite_none_right_eq_some, Bool.and_eq_true] at hexec
        obtain ⟨minted, normal, accepted⟩ := stored id old kept
        refine ⟨minted, normal, ?_⟩
        simp_all [Backend.acceptsSubscription, Subscription.withSecret]
  · intro id rule hrule
    rw [quiet.subscriptions] at hrule
    obtain ⟨minted, rest⟩ := stored id rule hrule
    exact ⟨quiet.minted minted, rest⟩

/-- In every run from an installation without rules, a stored rule is written like that. -/
theorem written_of_run [DecidableEq ι] {c d : Config ι Store Proc}
    {tr : List (Interleaving.Event ι Act)} (run : Run (protocol env) anyStep c tr d)
    (idle : ∀ i, c.locals i = .idle) (empty : ∀ id, c.store.subscriptions.get? id = none)
    (stored : d.store.subscriptions.get? id = some rule) : Written env d.store rule := by
  have none {id : Uuid} {rule : Subscription} (h : c.store.subscriptions.get? id = some rule) :
      False := by
    rw [empty id] at h
    cases h
  have kept : d.store.keepsRules env ∧ ∀ i, (d.locals i).bringsMinted d.store.minted := by
    refine run.invariant (I := fun _ d => d.store.keepsRules env ∧
      ∀ i, (d.locals i).bringsMinted d.store.minted) ?_
      ⟨fun _ _ h => (none h).elim, fun i => by rw [idle i]; trivial⟩
    rintro tr d ev e ⟨stored, brings⟩ hs -
    cases hs with
    | @act i a s l hstep =>
      refine ⟨hstep.keepsRules stored (brings i), ?_⟩
      refine Config.forall_set (Q := fun _ (l : Proc) => l.bringsMinted s.minted) ?_ ?_
      · exact hstep.bringsMinted stored
      · exact fun j _ => (brings j).mono hstep.minted
    | tick htick =>
      obtain ⟨t, -, rfl⟩ := htick
      exact ⟨stored, brings⟩
  have valid := rulesValid_of_run run (fun _ _ h => (none h).elim)
    (fun i => by rw [idle i]; trivial) id rule stored
  obtain ⟨minted, normal, accepted⟩ := kept.1 id rule stored
  exact ⟨by rw [Table.key_of_get? stored]; exact stored, minted, valid, normal, accepted⟩

/-! ## Switching it off -/

section
variable [DecidableEq ι] {c : Config ι Store Proc}

/-- The update succeeds, its save is taken, and from then on the rule stays off. -/
def SwitchesOff (env : Env) (c : Config ι Store Proc) (rule : Subscription) : Prop :=
  ∃ new σ', updateSubscription env rule switchOff = .ok new ∧
    exec env c.store (.patch new switchOff) = some σ' ∧ StaysOff rule.id ⟨σ', c.locals⟩

/-- Whatever the configuration has become on the same database, the update of a rule that still
fits succeeds and stores it as inactive. -/
theorem switchOff_stored (written : Written before σ rule)
    (database : env.backend = before.backend) (fits : StillFits env rule) :
    ∃ new σ', updateSubscription env rule switchOff = .ok new ∧
      exec env σ (.patch new switchOff) = some σ' ∧ σ'.isOff rule.id := by
  let new : Subscription := { rule with isActive := false }
  have updated : updateSubscription env rule switchOff = .ok new := by
    refine updateSubscription_ok_iff.2 ⟨valid_iff_stillFits.2 fits, ?_⟩
    simp only [switchOff, Option.getD_none, written.normal]
    rfl
  have taken : env.backend.acceptsSubscription new = true := by
    rw [database]
    exact written.accepted
  obtain ⟨rules, saved⟩ := Option.isSome_iff_exists.1
    (Table.save?_isSome (a := new.saved σ.clock true) written.stored rfl)
  have present : (σ.subscriptions.get? new.id).isSome = true := by
    rw [show σ.subscriptions.get? new.id = some rule from written.stored]
    rfl
  have patched : exec env σ (.patch new switchOff) = some { σ with subscriptions := rules } := by
    simp only [exec, taken, if_true, present, saved, Option.map_some]
  refine ⟨new, _, updated, patched, ?_⟩
  intro stored hstored
  rw [exec_subscriptions patched, Write.onSubscription, if_pos rfl] at hstored
  cases hstored
  rfl

/-- Only a rule that still fits can be switched off, and where nobody else has hold of it, each
that fits can. -/
theorem switchesOff_exact (written : Written before c.store rule)
    (database : env.backend = before.backend) :
    (SwitchesOff env c rule → StillFits env rule) ∧
      (StillFits env rule ∧ Unheld rule.id c → SwitchesOff env c rule) := by
  constructor
  · rintro ⟨new, σ', updated, -⟩
    exact valid_iff_stillFits.1 (updateSubscription_ok_iff.1 updated).1
  · rintro ⟨fits, calm, through⟩
    obtain ⟨new, σ', updated, patched, off⟩ := switchOff_stored written database fits
    have minted : rule.id ∈ σ'.minted := by
      rw [(exec_frame patched).2]
      exact written.minted
    have unheld : Unheld rule.id ⟨σ', c.locals⟩ := ⟨calm, through⟩
    exact ⟨new, σ', updated, patched, unheld.staysOff off minted⟩

end

/-- The stored rule, with its id handed out. -/
def switchStore : Store := { sampleStore with minted := [sampleRule.id] }

theorem written_sample : Written sampleEnv switchStore sampleRule :=
  ⟨rfl, List.mem_singleton_self _, rfl, rfl, rfl⟩

/-- A bound of one level still admits the empty filter. -/
def shallowFilters : Env := { sampleEnv with settings := { defaults with maxFilterDepth := 1 } }

/-- A dispatch is under way that matched another rule. -/
def switchStart : Config Nat Store Proc :=
  ⟨switchStore, fun i => if i = 0 then
    .planning sampleEvent [{ sampleRule with id := sampleUuid 4 }] [] else .idle⟩

theorem switchesOff_shallow : StillFits shallowFilters sampleRule ∧
    SwitchesOff shallowFilters switchStart sampleRule := by
  have fits : StillFits shallowFilters sampleRule := valid_iff_stillFits.1 rfl
  obtain ⟨-, switches⟩ := @switchesOff_exact Nat shallowFilters sampleEnv sampleRule _ switchStart
    written_sample rfl
  refine ⟨fits, switches ⟨fits, ?_, ?_⟩⟩
  · intro i revives
    by_cases first : i = 0 <;> simp [switchStart, first, Proc.revives] at revives
  · intro i matched
    by_cases first : i = 0 <;> simp [switchStart, first, Proc.hasMatched] at matched
    exact absurd matched (by decide)

/-- The delivery type of the rule is gone from the settings. -/
def withoutWs : Env :=
  { sampleEnv with settings := { defaults with deliveryTypes := [("ws", none)] } }

theorem removed_type_cannot_be_switched_off :
    Written sampleEnv switchStart.store sampleRule ∧
      ¬SwitchesOff withoutWs switchStart sampleRule ∧
      matchingSubscriptions withoutWs switchStore.subscriptions.rows sampleEvent.eventType
        sampleEvent.data = [sampleRule] := by
  refine ⟨written_sample, ?_, rfl⟩
  rintro ⟨new, σ', updated, -⟩
  have refused : updateSubscription withoutWs sampleRule switchOff =
      refuse 400 err400UnknownDelivery [("delivery", .str "ws")] := rfl
  rw [refused] at updated
  cases updated

/-! ## Who else has hold of the rule -/

/-- The sample rule as its update has stored it. -/
def switchedStore : Store :=
  { switchStore with
    subscriptions := ⟨[{ sampleRule with isActive := false }], List.nodup_singleton _,
      List.nodup_singleton _⟩ }

theorem SwitchesOff.sample {locals : Nat → Proc}
    (h : SwitchesOff sampleEnv ⟨switchStore, locals⟩ sampleRule) :
    StaysOff sampleRule.id ⟨switchedStore, locals⟩ := by
  obtain ⟨new, σ', updated, patched, stays⟩ := h
  cases updated
  have stored : exec sampleEnv switchStore
      (.patch { sampleRule with isActive := false } switchOff) = some switchedStore := rfl
  cases stored.symm.trans patched
  exact stays

theorem leavesOff_read {c d : Config ι Store Proc} {i : ι} : leavesOff id c (.act i .read) d := by
  rintro _ _ _ _ ⟨⟩

theorem leavesOff_plan {c d : Config ι Store Proc} {i : ι} {t : Time} {row : Delivery} :
    leavesOff id c (.act i (.write t (.plan row))) d := by
  rintro _ _ _ _ ⟨⟩

/-- A dispatch that matched the rule before the switch plans for it after it. -/
theorem matched_rule_fires : StillFits sampleEnv sampleRule ∧
    ¬SwitchesOff sampleEnv (ι := Nat)
      ⟨switchStore, fun _ => .planning sampleEvent [sampleRule] []⟩ sampleRule := by
  refine ⟨valid_iff_stillFits.1 rfl, fun h => ?_⟩
  let matched : Config Nat Store Proc :=
    ⟨switchedStore, fun _ => .planning sampleEvent [sampleRule] []⟩
  have start : Run (protocol sampleEnv) (leavesOff sampleRule.id) matched [] matched := .nil _
  have built := start.act 0
    (@Step.build _ _ _ sampleRule _ _ (sampleUuid 2) 0 0 rfl (by decide) le_rfl le_rfl)
    leavesOff_read
  have inserted := built.act 0 (.insert rfl) leavesOff_plan
  exact h.sample sampleEnv _ _ inserted 0 0 _ (List.mem_append_right _ (List.mem_singleton_self _))
    rfl

/-- An update that loaded the rule before the switch saves `is_active` back. -/
theorem stale_copy_revives : StillFits sampleEnv sampleRule ∧
    ¬SwitchesOff sampleEnv (ι := Nat)
      ⟨switchStore, fun _ => .patching sampleRule relabelled⟩ sampleRule := by
  refine ⟨valid_iff_stillFits.1 rfl, fun h => ?_⟩
  let stale : Config Nat Store Proc :=
    ⟨switchedStore, fun _ => .patching sampleRule relabelled⟩
  have start : Run (protocol sampleEnv) (leavesOff sampleRule.id) stale [] stale := .nil _
  have saved := start.act 0 (@Step.patch _ _ _ sampleRule _ relabelled rfl rfl) (by
    intro _ _ _ _ hev _
    cases hev
    nofun)
  have matched := saved.act 0 (.matched sampleEvent rfl) leavesOff_read
  have built := matched.act 0
    (@Step.build _ _ _ { sampleRule with description := "CRM sync" } _ _ (sampleUuid 2) 0 0 rfl
      (by decide) le_rfl le_rfl)
    leavesOff_read
  have inserted := built.act 0 (.insert rfl) leavesOff_plan
  exact h.sample sampleEnv _ _ inserted 0 0 _ (List.mem_append_right _ (List.mem_singleton_self _))
    rfl

end Webhooks
