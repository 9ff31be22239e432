import Mathlib.Data.List.Dedup
import Webhooks.Sequential.Scoping
import Webhooks.System.Validity

/-!
# The system checks

What `manage.py check` says of the configuration, and of the rules in the table. The check
of the live rules looks at the two hundred newest active ones; what it names was in the
table before the configuration took effect, since no run writes such a rule.
-/
namespace Webhooks

open Interleaving (Config Run anyStep)

/-- A `checks.Warning`. -/
structure CheckMessage where
  msg : String
  hint : String
  id : String
deriving DecidableEq

/-- An entry of `CELERY_BEAT_SCHEDULE`: a dictionary with its task, if it has one, or not a
dictionary. -/
inductive BeatEntry where
  | dict (task : Option String)
  | other
deriving DecidableEq

def drainTaskName : String := "stapel_webhooks.tasks.drain_deliveries"

def purgeTaskName : String := "stapel_webhooks.tasks.purge_deliveries"

/-- `get_webhooks_beat_schedule`. -/
def getWebhooksBeatSchedule : List (String × BeatEntry) :=
  [("webhooks-drain", .dict (some drainTaskName)), ("webhooks-purge", .dict (some purgeTaskName))]

/-- `repr` of a list of strings. -/
def reprList (py : Interpreter) (names : List String) : String :=
  "[" ++ ", ".intercalate (names.map py.strRepr) ++ "]"

/-- `sorted` of a set. -/
def sortedSet (names : List String) : List String := names.dedup.insertionSort (· ≤ ·)

section
variable (env : Env)

/-- W001: the reaction layer is listening to nothing. -/
def checkWatchedEvents : List CheckMessage :=
  if watchedEvents env ≠ [] then []
  else
    [{ msg := "stapel-webhooks watches no events — no subscription can ever fire."
       hint := "Leave STAPEL_WEBHOOKS['WATCH_CATALOG'] on so installed modules' " ++
         "schemas/emits define the vocabulary, or list topics explicitly in " ++
         "STAPEL_WEBHOOKS['WATCH_EVENTS']."
       id := "webhooks.W001" }]

/-- W002: deferred dispatch with nothing scheduled to drain it. -/
def checkDrainScheduled (schedule : List (String × BeatEntry)) : List CheckMessage :=
  if inlineDispatch env then []
  else if schedule = [] then []
  else if schedule.any (·.2 = .dict (some drainTaskName)) then []
  else
    [{ msg := "CELERY_BEAT_SCHEDULE has no entry for " ++ drainTaskName ++ " — with " ++
         "DISPATCH_MODE='deferred' nothing will ever deliver a planned reaction."
       hint := "CELERY_BEAT_SCHEDULE = \x7b**get_webhooks_beat_schedule(), ...\x7d " ++
         "(stapel_webhooks.tasks), or run the deliver_webhooks management " ++
         "command from cron."
       id := "webhooks.W002" }]

/-- W003: the guard against internal targets is off. -/
def checkInsecureTargets : List CheckMessage :=
  if ¬env.settings.allowInsecureTargets then []
  else
    [{ msg := "STAPEL_WEBHOOKS['ALLOW_INSECURE_TARGETS'] is on: webhook targets may " ++
         "be plaintext http and may resolve to private, loopback or " ++
         "link-local addresses (including the cloud metadata endpoint)."
       hint := "Leave it off outside development; use " ++
         "STAPEL_WEBHOOKS['ALLOWED_TARGET_HOSTS'] to reach a known " ++
         "in-cluster receiver instead."
       id := "webhooks.W003" }]

/-- W004: inline dispatch puts a stranger's endpoint on the request path. -/
def checkInlineDispatch : List CheckMessage :=
  if ¬inlineDispatch env then []
  else
    [{ msg := "STAPEL_WEBHOOKS['DISPATCH_MODE'] = 'inline': every matching event is " ++
         "delivered in the emitting process, so a slow receiver becomes this " ++
         "service's latency."
       hint := "Use the default 'deferred' plus the drain task in production."
       id := "webhooks.W004" }]

/-- `_active_rules`; without a store the database has raised. The ordering of the table stands in
the query, so `distinct` finds nothing to drop. -/
def activeRules : Option Store → List (String × String)
  | none => []
  | some σ =>
    (((σ.subscriptions.rows.filter (·.isActive)).insertionSort newestFirst).take 200).map
      fun rule => (rule.eventType, rule.delivery)

/-- The unwatched events among the live rules. -/
def orphanEvents (σ : Option Store) : List String :=
  sortedSet (((activeRules σ).map Prod.fst).filter (· ∉ watchedEvents env))

/-- The unregistered delivery types among the live rules. -/
def orphanTypes (σ : Option Store) : List String :=
  sortedSet (((activeRules σ).map Prod.snd).filter (· ∉ (getDeliveryTypes env).map Prod.fst))

/-- W005 and W006: active rules naming something this process cannot serve. -/
def checkLiveSubscriptions (σ : Option Store) : List CheckMessage :=
  if activeRules σ = [] then []
  else
    (if orphanEvents env σ = [] then []
    else
      [{ msg := "Active subscriptions name events this deployment does not watch: " ++
           reprList env.interpreter (orphanEvents env σ) ++ ". They will never fire."
         hint := "Install the module that emits them, add them to " ++
           "STAPEL_WEBHOOKS['WATCH_EVENTS'], or deactivate the rules."
         id := "webhooks.W005" }]) ++
    if orphanTypes env σ = [] then []
    else
      [{ msg := "Active subscriptions name delivery types that are not registered: " ++
           reprList env.interpreter (orphanTypes env σ) ++
           ". Their deliveries dead-letter on the first attempt."
         hint := "Restore the type in STAPEL_WEBHOOKS['DELIVERY_TYPES'] or " ++
           "deactivate the rules."
         id := "webhooks.W006" }]

end

variable {env : Env} {σ σ' : Store}

/-! ## What the checks look at -/

@[simp] theorem mem_sortedSet {names : List String} {name : String} :
    name ∈ sortedSet names ↔ name ∈ names := by
  rw [sortedSet, List.mem_insertionSort, List.mem_dedup]

/-- A schedule built on the one the package offers has its drain. -/
theorem checkDrainScheduled_offered {others : List (String × BeatEntry)}
    (own : "webhooks-drain" ∉ others.map Prod.fst) :
    checkDrainScheduled env (Assoc.update getWebhooksBeatSchedule others) = [] := by
  have absent : others.reverse.lookup "webhooks-drain" = none := by
    refine Assoc.lookup_eq_none ?_
    rwa [List.map_reverse, List.mem_reverse]
  have entry : (Assoc.update getWebhooksBeatSchedule others).lookup "webhooks-drain" =
      some (.dict (some drainTaskName)) := by
    rw [Assoc.lookup_update, absent]
    rfl
  obtain ⟨before, after, split, -⟩ := List.lookup_eq_some_iff.1 entry
  have drained : (Assoc.update getWebhooksBeatSchedule others).any
      (·.2 = .dict (some drainTaskName)) = true := by
    rw [split]
    simp
  unfold checkDrainScheduled
  rw [drained, if_pos rfl]
  split_ifs <;> rfl

/-- How many active rules are newer than this one. -/
def Store.newer (σ : Store) (rule : Subscription) : ℕ :=
  (σ.subscriptions.rows.filter (·.isActive)).countP fun other =>
    decide (newestFirst other rule) && decide (other.id ≠ rule.id)

theorem mem_activeRules {pair : String × String} : pair ∈ activeRules (some σ) ↔
    ∃ rule ∈ σ.subscriptions.rows, rule.isActive = true ∧ σ.newer rule < 200 ∧
      (rule.eventType, rule.delivery) = pair := by
  have distinct : ((σ.subscriptions.rows.filter (·.isActive)).map Subscription.id).Nodup :=
    (List.filter_sublist.map Subscription.id).nodup σ.subscriptions.keys
  have place {rule : Subscription} (hrule : rule ∈ σ.subscriptions.rows.filter (·.isActive)) :=
    Table.mem_take_insertionSort (r := newestFirst) distinct
      (fun a b => newestFirst_antisymm) hrule 200
  simp only [activeRules, List.mem_map]
  constructor
  · rintro ⟨rule, taken, rfl⟩
    have active := (List.mem_insertionSort newestFirst).1 (List.mem_of_mem_take taken)
    obtain ⟨stored, live⟩ := List.mem_filter.1 active
    exact ⟨rule, stored, live, (place active).1 taken, rfl⟩
  · rintro ⟨rule, stored, live, few, rfl⟩
    exact ⟨rule, (place (List.mem_filter.2 ⟨stored, live⟩)).2 few, rfl⟩

theorem mem_orphanEvents {e : String} : e ∈ orphanEvents env (some σ) ↔
    e ∉ watchedEvents env ∧ ∃ rule ∈ σ.subscriptions.rows, rule.isActive = true ∧
      rule.eventType = e ∧ σ.newer rule < 200 := by
  simp only [orphanEvents, mem_sortedSet, List.mem_filter, List.mem_map, mem_activeRules]
  constructor
  · rintro ⟨⟨pair, ⟨rule, stored, live, few, rfl⟩, rfl⟩, unwatched⟩
    exact ⟨by simpa using unwatched, rule, stored, live, rfl, few⟩
  · rintro ⟨unwatched, rule, stored, live, rfl, few⟩
    exact ⟨⟨_, ⟨rule, stored, live, few, rfl⟩, rfl⟩, by simpa using unwatched⟩

theorem mem_orphanTypes {d : String} : d ∈ orphanTypes env (some σ) ↔
    d ∉ (getDeliveryTypes env).map Prod.fst ∧ ∃ rule ∈ σ.subscriptions.rows, rule.isActive = true ∧
      rule.delivery = d ∧ σ.newer rule < 200 := by
  simp only [orphanTypes, mem_sortedSet, List.mem_filter, List.mem_map (f := Prod.snd),
    mem_activeRules]
  constructor
  · rintro ⟨⟨pair, ⟨rule, stored, live, few, rfl⟩, rfl⟩, unregistered⟩
    exact ⟨by simpa using unregistered, rule, stored, live, rfl, few⟩
  · rintro ⟨unregistered, rule, stored, live, rfl, few⟩
    exact ⟨⟨_, ⟨rule, stored, live, few, rfl⟩, rfl⟩, by simpa using unregistered⟩

theorem sorted_sortedSet (names : List String) :
    (sortedSet names).Pairwise (· ≤ ·) ∧ (sortedSet names).Nodup :=
  ⟨List.pairwise_insertionSort (· ≤ ·) _,
    (List.perm_insertionSort (· ≤ ·) _).nodup_iff.2 (List.nodup_dedup names)⟩

/-- No active rule, no orphan. -/
theorem orphans_of_none {σ : Option Store} (h : activeRules σ = []) :
    orphanEvents env σ = [] ∧ orphanTypes env σ = [] := by
  simp [orphanEvents, orphanTypes, h, sortedSet]

/-- Which warnings there are. -/
theorem checkLiveSubscriptions_ids (σ : Option Store) :
    (checkLiveSubscriptions env σ).map (·.id) =
      (if orphanEvents env σ = [] then [] else ["webhooks.W005"]) ++
        if orphanTypes env σ = [] then [] else ["webhooks.W006"] := by
  unfold checkLiveSubscriptions
  split
  · next none => simp [orphans_of_none none]
  · split_ifs <;> rfl

/-- What the check of the live rules names: each event that nobody watches and each type that is
not registered, once and in order, if one of the two hundred newest active rules does. -/
theorem live_check_exact (env : Env) (σ : Store) :
    (∀ e, e ∈ orphanEvents env (some σ) ↔ e ∉ watchedEvents env ∧
      ∃ rule ∈ σ.subscriptions.rows, rule.isActive = true ∧ rule.eventType = e ∧
        σ.newer rule < 200) ∧
    (∀ d, d ∈ orphanTypes env (some σ) ↔ d ∉ (getDeliveryTypes env).map Prod.fst ∧
      ∃ rule ∈ σ.subscriptions.rows, rule.isActive = true ∧ rule.delivery = d ∧
        σ.newer rule < 200) ∧
    (∀ names ∈ [orphanEvents env (some σ), orphanTypes env (some σ)],
      names.Pairwise (· ≤ ·) ∧ names.Nodup) ∧
    (checkLiveSubscriptions env (some σ)).map (·.id) =
      (if orphanEvents env (some σ) = [] then [] else ["webhooks.W005"]) ++
        if orphanTypes env (some σ) = [] then [] else ["webhooks.W006"] := by
  refine ⟨fun e => mem_orphanEvents, fun d => mem_orphanTypes, ?_, checkLiveSubscriptions_ids _⟩
  simp only [List.forall_mem_cons, List.not_mem_nil, false_imp_iff, implies_true, and_true]
  exact ⟨sorted_sortedSet _, sorted_sortedSet _⟩

/-! ## Orphans over a run -/

/-- The rule names something this process can serve. -/
structure Subscription.Known (env : Env) (rule : Subscription) : Prop where
  event : rule.eventType ∈ watchedEvents env
  delivery : rule.delivery ∈ (getDeliveryTypes env).map Prod.fst

theorem known_of_valid {rule : Subscription} (h : rule.valid env) : rule.Known env := by
  have checked := verdict env rule.eventType rule.delivery rule.target rule.payloadFilter
  rw [h] at checked
  cases checked with
  | accepted spec watched known =>
    obtain ⟨before, after, split, -⟩ := List.lookup_eq_some_iff.1 known
    exact ⟨watched, by rw [split]; simp⟩

theorem Subscription.Known.saveOn {rule : Subscription} (h : rule.Known env) (u : RuleUpdate)
    (t : Time) : (u.saveOn t rule).Known env := by
  cases u <;> exact ⟨h.event, h.delivery⟩

/-- The rule comes from this one, with the same event and the same type; nobody has switched it
on. -/
structure Subscription.From (old rule : Subscription) : Prop where
  event : rule.eventType = old.eventType
  delivery : rule.delivery = old.delivery
  live : rule.isActive = true → old.isActive = true

theorem Subscription.From.refl (rule : Subscription) : rule.From rule :=
  ⟨rfl, rfl, fun live => live⟩

theorem Subscription.From.saveOn {old rule : Subscription} (h : old.From rule) (u : RuleUpdate)
    (t : Time) : old.From (u.saveOn t rule) := by
  cases u with
  | success | strike => exact ⟨h.event, h.delivery, h.live⟩
  | disable => exact ⟨h.event, h.delivery, fun live => by cases live⟩

/-- Every rule names what can be served, or was there at the start. -/
def Store.KnownOrFrom (env : Env) (σ₀ σ : Store) : Prop :=
  ∀ id rule, σ.subscriptions.get? id = some rule →
    rule.Known env ∨ ∃ old, σ₀.subscriptions.get? id = some old ∧ old.From rule

theorem Step.knownOrFrom {σ₀ : Store} {t : Time} {w : Write} {l l' : Proc}
    (stored : σ₀.KnownOrFrom env σ) (inserts : l.insertsValid env)
    (h : Step env σ l (.write t w) σ' l') : σ₀.KnownOrFrom env σ' := by
  intro id rule hrule
  obtain kept | puts := rule_of_exec h.exec_of_write.2 hrule
  · exact stored id rule kept
  · cases puts with
    | outcome about _ kept =>
      rcases stored id _ kept with known | ⟨old, hold, same⟩
      · exact .inl (known.saveOn _ _)
      · exact .inr ⟨old, hold, same.saveOn _ _⟩
    | create _ =>
      cases h with
      | create =>
        obtain ⟨event, delivery⟩ := known_of_valid inserts
        exact .inl ⟨event, delivery⟩
    | patch _ =>
      cases h with
      | patch hupdate =>
        obtain ⟨event, delivery⟩ := known_of_valid (valid_of_update hupdate)
        exact .inl ⟨event, delivery⟩
    | rotate kept =>
      rcases stored id _ kept with known | ⟨old, hold, same⟩
      · exact .inl ⟨known.event, known.delivery⟩
      · exact .inr ⟨old, hold, same.event, same.delivery, same.live⟩

theorem knownOrFrom_of_run {ι : Type} [DecidableEq ι] {c d : Config ι Store Proc}
    {tr : List (Interleaving.Event ι Act)} (run : Run (protocol env) anyStep c tr d)
    (idle : ∀ i, c.locals i = .idle) : c.store.KnownOrFrom env d.store := by
  suffices c.store.KnownOrFrom env d.store ∧ ∀ i, (d.locals i).insertsValid env from this.1
  refine run.invariant (I := fun _ d => c.store.KnownOrFrom env d.store ∧
    ∀ i, (d.locals i).insertsValid env) ?_ ⟨?_, fun i => by rw [idle i]; trivial⟩
  · rintro tr d ev e ⟨stored, inserts⟩ hs -
    cases hs with
    | @act i a s l hstep =>
      refine ⟨?_, Config.forall_set hstep.insertsValid fun j _ => inserts j⟩
      obtain ⟨w, rfl, -⟩ | ⟨-, quiet⟩ := hstep.effect
      · exact hstep.knownOrFrom stored (inserts i)
      · intro id rule hrule
        rw [Config.store_set, quiet.subscriptions] at hrule
        exact stored id rule hrule
    | tick htick =>
      obtain ⟨t, -, rfl⟩ := htick
      exact ⟨stored, inserts⟩
  · exact fun id rule stored => .inr ⟨rule, stored, .refl rule⟩

/-- However the services interleave, what the check of the live rules names after a run was named
by a rule that was active before it: no run writes an orphan, and none switches one on. -/
theorem orphans_of_run {ι : Type} [DecidableEq ι] {c d : Config ι Store Proc}
    {tr : List (Interleaving.Event ι Act)} (idle : ∀ i, c.locals i = .idle)
    (run : Run (protocol env) anyStep c tr d) :
    (∀ e ∈ orphanEvents env (some d.store), ∃ old ∈ c.store.subscriptions.rows,
      old.isActive = true ∧ old.eventType = e) ∧
    (∀ t ∈ orphanTypes env (some d.store), ∃ old ∈ c.store.subscriptions.rows,
      old.isActive = true ∧ old.delivery = t) ∧
    ((∀ old ∈ c.store.subscriptions.rows, old.isActive = true → old.Known env) →
      checkLiveSubscriptions env (some d.store) = []) := by
  have traced := knownOrFrom_of_run run idle
  have events : ∀ e ∈ orphanEvents env (some d.store), ∃ old ∈ c.store.subscriptions.rows,
      old.isActive = true ∧ old.eventType = e := by
    intro e he
    obtain ⟨unwatched, rule, stored, live, rfl, -⟩ := mem_orphanEvents.1 he
    rcases traced rule.id rule (Table.get?_of_mem stored) with known | ⟨old, hold, same⟩
    · exact absurd known.event unwatched
    · exact ⟨old, Table.mem_of_get? hold, same.live live, same.event.symm⟩
  have types : ∀ t ∈ orphanTypes env (some d.store), ∃ old ∈ c.store.subscriptions.rows,
      old.isActive = true ∧ old.delivery = t := by
    intro t ht
    obtain ⟨unregistered, rule, stored, live, rfl, -⟩ := mem_orphanTypes.1 ht
    rcases traced rule.id rule (Table.get?_of_mem stored) with known | ⟨old, hold, same⟩
    · exact absurd known.delivery unregistered
    · exact ⟨old, Table.mem_of_get? hold, same.live live, same.delivery.symm⟩
  refine ⟨events, types, fun served => ?_⟩
  have noEvents : orphanEvents env (some d.store) = [] := by
    refine List.eq_nil_iff_forall_not_mem.2 fun e he => ?_
    obtain ⟨old, stored, live, rfl⟩ := events e he
    exact (mem_orphanEvents.1 he).1 (served old stored live).event
  have noTypes : orphanTypes env (some d.store) = [] := by
    refine List.eq_nil_iff_forall_not_mem.2 fun t ht => ?_
    obtain ⟨old, stored, live, rfl⟩ := types t ht
    exact (mem_orphanTypes.1 ht).1 (served old stored live).delivery
  simp [checkLiveSubscriptions, noEvents, noTypes]

/-- Two updates of one rule overlap; the check stays silent. -/
theorem orphans_of_run_overlapping : ∃ tr, ∃ d : Config Nat Store Proc,
    Run (protocol sampleEnv) anyStep sampleStart tr d ∧
      d.store.subscriptions.rows.map (·.delivery) = ["ws"] ∧
      checkLiveSubscriptions sampleEnv (some d.store) = [] := by
  have start : Run (protocol sampleEnv) anyStep sampleStart [] sampleStart := .nil _
  have loaded := (start.act 0 (@Step.patchLoad _ _ sampleRule.id sampleRule
    { delivery := some "webhook", target := some (.obj [("url", .str "https://receiver.example")]) }
    rfl) trivial).act 1 (@Step.patchLoad _ _ sampleRule.id sampleRule
    { target := some (.obj [("stream", .str "others")]) } rfl) trivial
  have saved := (loaded.act 0 (.patch rfl rfl) trivial).act 1 (.patch rfl rfl) trivial
  obtain ⟨tr, d, run, types⟩ : ∃ tr, ∃ d : Config Nat Store Proc,
      Run (protocol sampleEnv) anyStep sampleStart tr d ∧
      d.store.subscriptions.rows.map (·.delivery) = ["ws"] := ⟨_, _, saved, rfl⟩
  refine ⟨tr, d, run, types, (orphans_of_run (fun _ => rfl) run).2.2 ?_⟩
  intro old stored _
  exact known_of_valid (rulesValid_sampleStore old.id old (Table.get?_of_mem stored))

end Webhooks
