import Webhooks.Actions

/-!
# Subscribable and listened to

A process from `AppConfig.ready()` on, through any sequence of the calls that change
what is watched, with the files on disk changing in between. No topic is ever wired
twice. The vocabulary is derived anew at every call and the wiring is not, so that a
catalog rebuilt without wiring lets rules in that nobody listens for; while no step
does that, whatever is accepted is wired.
-/
namespace Webhooks

inductive CatalogCall where
  | watchEvent (name : String)
  | subscribeWatchedEvents
  /-- `event_catalog(refresh=True)`. -/
  | refresh
  /-- A validation, a view or a function that looks at the vocabulary. -/
  | look
  | resetCatalog
  /-- Packages are installed, changed or removed on disk. -/
  | editFiles (disk : Disk)

section
variable (sources : CatalogSources) (env : Env)

/-- The process after a call, whether it returns or raises. -/
def Process.call (process : Process) : CatalogCall → Process
  | .watchEvent name => (watchEvent sources env name process).2
  | .subscribeWatchedEvents => (subscribeWatchedEvents sources env process).2
  | .refresh => (eventCatalog sources true process).2
  | .look => (currentEnv sources env process).2
  | .resetCatalog => (resetCatalog process).2
  | .editFiles disk => { process with disk }

def Process.callAll (process : Process) (calls : List CatalogCall) : Process :=
  calls.foldl (Process.call sources env) process

/-- A process before its `ready()`. -/
def Process.initial (disk : Disk) : Process := ⟨disk, none, [], [], []⟩

/-- The process after `ready()`. -/
def Process.ready (disk : Disk) : Process :=
  (subscribeWatchedEvents sources env (.initial disk)).2

end

/-! ## What validation accepts -/

/-- `validate_subscription` does not refuse the event type, whatever the rest of the rule is. -/
def acceptsEventType (env : Env) (name : String) : Prop :=
  ∀ delivery target payloadFilter, validateSubscription env name delivery target payloadFilter ≠
    refuse 400 err400UnknownEvent [("event_type", .str name)]

theorem acceptsEventType_iff {env : Env} {name : String} :
    acceptsEventType env name ↔ name ∈ watchedEvents env := by
  constructor
  · intro accepted
    by_contra absent
    refine accepted "" .null .null ?_
    simp [validateSubscription, absent, refuse, bind, Except.bind]
  · intro watched delivery target payloadFilter refused
    exact (refused ▸ verdict env name delivery target payloadFilter).of_refuse.1 rfl watched

/-- Validation in this process, at this moment, accepts the event type. -/
def Process.Accepts (sources : CatalogSources) (env : Env) (process : Process) (name : String) :
    Prop :=
  ∃ now, (currentEnv sources env process).1 = .ok now ∧ acceptsEventType now name

variable {sources : CatalogSources} {env : Env} {process : Process}

/-! ## Wired once -/

/-- The handler list has each wired topic, once. -/
structure Process.WiredOnce (process : Process) : Prop where
  handlers : process.handlers = process.subscribed
  nodup : process.handlers.Nodup

theorem Process.WiredOnce.wire (h : process.WiredOnce) (name : String) :
    (process.wire name).WiredOnce := by
  unfold Process.wire
  split
  · exact h
  · next unwired =>
    refine ⟨congrArg (· ++ [name]) h.handlers, ?_⟩
    rw [← h.handlers] at unwired
    exact List.nodup_append_comm.1 (List.nodup_cons.2 ⟨unwired, h.nodup⟩)

theorem Process.WiredOnce.wireAll (h : process.WiredOnce) (names : List String) :
    (process.wireAll names).WiredOnce := by
  unfold Process.wireAll
  generalize names.dedup.insertionSort (· ≤ ·) = todo
  induction todo generalizing process with
  | nil => exact h
  | cons topic todo ih => exact ih (h.wire topic)

theorem Process.WiredOnce.read (h : process.WiredOnce) : (process.read sources env).WiredOnce := by
  obtain ⟨cache, same⟩ := process.read_eq sources env
  rw [same]
  exact ⟨h.handlers, h.nodup⟩

theorem Process.WiredOnce.subscribe (h : process.WiredOnce) :
    (Webhooks.subscribeWatchedEvents sources env process).2.WiredOnce := by
  rw [subscribeWatchedEvents_apply]
  split
  · exact h.read.wireAll _
  · exact h.read

theorem Process.WiredOnce.call (h : process.WiredOnce) (call : CatalogCall) :
    (process.call sources env call).WiredOnce := by
  cases call with
  | watchEvent name =>
    have named : Process.WiredOnce
        { process with runtimeEvents := process.runtimeEvents ++ [name] } := ⟨h.handlers, h.nodup⟩
    rw [Process.call, watchEvent_apply]
    exact named.subscribe
  | subscribeWatchedEvents => exact h.subscribe
  | refresh =>
    rw [Process.call, eventCatalog_refresh, rescan_apply]
    cases buildCatalog sources process.disk <;> exact ⟨h.handlers, h.nodup⟩
  | look =>
    rw [Process.call, currentEnv_apply]
    exact h.read
  | resetCatalog => exact ⟨h.handlers, h.nodup⟩
  | editFiles disk => exact ⟨h.handlers, h.nodup⟩

theorem Process.WiredOnce.callAll (h : process.WiredOnce) (calls : List CatalogCall) :
    (process.callAll sources env calls).WiredOnce := by
  induction calls generalizing process with
  | nil => exact h
  | cons call calls ih => exact ih (h.call call)

/-! ## Listening -/

/-- Neither ignored nor unheard. -/
def Process.Hears (env : Env) (process : Process) (name : String) : Prop :=
  name ∈ ignoredEvents env ∨ name ∈ process.subscribed

/-- Every topic the settings, the runtime or the catalog name is heard. -/
structure Process.Listening (sources : CatalogSources) (env : Env) (process : Process) :
    Prop where
  settings : ∀ name ∈ env.settings.watchEvents, process.Hears env name
  runtime : ∀ name ∈ process.runtimeEvents, process.Hears env name
  catalog : ∀ names, process.watchedCatalog sources env = .ok names →
    ∀ name ∈ names, process.Hears env name

/-- A catalog that was scanned without wiring has nothing new. -/
def Process.HearsAll (sources : CatalogSources) (env : Env) (process : Process) (disk : Disk) :
    Prop :=
  env.settings.watchCatalog = true → ∀ catalog, buildCatalog sources disk = .ok catalog →
    ∀ entry ∈ catalog.rows, process.Hears env entry.event

/-- A call that lets in no event nobody listens for. -/
def CatalogCall.Covered (sources : CatalogSources) (env : Env) (process : Process) :
    CatalogCall → Prop
  -- the topic is named before the scan, and a scan that raises leaves it unwired
  | .watchEvent name => ∀ exc, process.watchedCatalog sources env = .error exc →
      process.Hears env name
  | .refresh | .resetCatalog => process.HearsAll sources env process.disk
  | .editFiles disk => process.cache = none → process.HearsAll sources env disk
  | .subscribeWatchedEvents | .look => True

def AllCovered (sources : CatalogSources) (env : Env) (process : Process) :
    List CatalogCall → Prop
  | [] => True
  | call :: calls =>
    call.Covered sources env process ∧ AllCovered sources env (process.call sources env call) calls

theorem Process.Listening.read (h : process.Listening sources env) :
    (process.read sources env).Listening sources env := by
  have found := @Process.watchedCatalog_read sources env process
  obtain ⟨cache, same⟩ := process.read_eq sources env
  refine ⟨?_, ?_, ?_⟩
  · rw [same]; exact h.settings
  · rw [same]; exact h.runtime
  · rw [found, same]; exact h.catalog

/-- After a wiring that found the catalog everything is heard, whatever was before. -/
theorem listening_wired {names : List String}
    (found : process.watchedCatalog sources env = .ok names) :
    (subscribeWatchedEvents sources env process).2.Listening sources env := by
  have later := @Process.watchedCatalog_read sources env process
  rw [subscribeWatchedEvents_apply, found]
  obtain ⟨cache, read⟩ := process.read_eq sources env
  rw [read] at later
  obtain ⟨handlers, subscribed, wired, mem⟩ := (process.read sources env).wireAll_eq
    (watchedEvents { env with catalogEventNames := names, runtimeEvents := process.runtimeEvents })
  dsimp only
  rw [wired, read]
  have hears (name : String) (named : env.settings.watchCatalog = true ∧ name ∈ names ∨
      name ∈ env.settings.watchEvents ∨ name ∈ process.runtimeEvents) :
      name ∈ ignoredEvents env ∨ name ∈ subscribed := by
    by_cases ignored : name ∈ ignoredEvents env
    · exact .inl ignored
    · exact .inr ((mem name).2 (.inr (mem_watchedEvents.2 ⟨named, ignored⟩)))
  refine ⟨fun name listed => hears name (.inr (.inl listed)),
    fun name listed => hears name (.inr (.inr listed)), ?_⟩
  intro names' found' name listed
  obtain rfl : names' = names := Except.ok.inj (found'.symm.trans (later.trans found))
  refine hears name (.inl ⟨?_, listed⟩)
  by_contra off
  simp only [Process.watchedCatalog, off] at found
  cases found
  exact List.not_mem_nil listed

theorem Process.Listening.subscribe (h : process.Listening sources env) :
    (Webhooks.subscribeWatchedEvents sources env process).2.Listening sources env := by
  cases found : process.watchedCatalog sources env with
  | ok names => exact listening_wired found
  | error exc =>
    rw [subscribeWatchedEvents_apply, found]
    exact h.read

/-- A catalog just scanned, or about to be, in which everything is heard. -/
theorem Process.Listening.scanned (h : process.Listening sources env) {disk : Disk}
    (heard : process.HearsAll sources env disk) {after : Process}
    (subscribed : after.subscribed = process.subscribed)
    (runtime : after.runtimeEvents = process.runtimeEvents)
    (scan : ∀ catalog, after.catalog sources = .ok catalog →
      buildCatalog sources disk = .ok catalog) : after.Listening sources env := by
  have hears (name : String) (heard : process.Hears env name) : after.Hears env name := by
    unfold Process.Hears at heard ⊢
    rwa [subscribed]
  refine ⟨fun name listed => hears name (h.settings name listed),
    fun name listed => hears name (h.runtime name (runtime ▸ listed)), ?_⟩
  intro names found name listed
  unfold Process.watchedCatalog at found
  split at found
  · next watching =>
    cases cataloged : after.catalog sources with
    | error exc => rw [cataloged] at found; cases found
    | ok catalog =>
      rw [cataloged] at found
      cases found
      obtain ⟨entry, stored, rfl⟩ := mem_catalogEventNames.1 listed
      exact hears _ (heard watching catalog (scan catalog cataloged) entry stored)
  · cases found
    exact absurd listed List.not_mem_nil

theorem Process.Listening.call (h : process.Listening sources env) {call : CatalogCall}
    (covered : call.Covered sources env process) :
    (process.call sources env call).Listening sources env := by
  cases call with
  | watchEvent name =>
    rw [Process.call, watchEvent_apply]
    cases found : process.watchedCatalog sources env with
    | ok names => exact listening_wired found
    | error exc =>
      have heard := covered exc found
      have named : Process.Listening sources env
          { process with runtimeEvents := process.runtimeEvents ++ [name] } := by
        refine ⟨h.settings, ?_, h.catalog⟩
        intro topic member
        rcases List.mem_append.1 member with old | new
        · exact h.runtime topic old
        · rw [List.mem_singleton.1 new]
          exact heard
      exact named.subscribe
  | subscribeWatchedEvents => exact h.subscribe
  | refresh =>
    rw [Process.call, eventCatalog_refresh, rescan_apply]
    cases built : buildCatalog sources process.disk with
    | error exc => exact h
    | ok catalog =>
      refine h.scanned covered rfl rfl ?_
      rintro cached ⟨⟩
      exact built
  | look =>
    rw [Process.call, currentEnv_apply]
    exact h.read
  | resetCatalog => exact h.scanned covered rfl rfl fun _ found => found
  | editFiles disk =>
    cases cached : process.cache with
    | none =>
      refine h.scanned (covered cached) rfl rfl fun catalog found => ?_
      simpa [Process.call, Process.catalog, cached] using found
    | some catalog =>
      refine ⟨h.settings, h.runtime, ?_⟩
      intro names found
      refine h.catalog names ?_
      simpa [Process.call, Process.watchedCatalog, Process.catalog, cached] using found

theorem Process.Listening.callAll (h : process.Listening sources env) {calls : List CatalogCall}
    (covered : AllCovered sources env process calls) :
    (process.callAll sources env calls).Listening sources env := by
  induction calls generalizing process with
  | nil => exact h
  | cons call calls ih => exact ih (h.call covered.1) covered.2

theorem Process.Listening.subscribed_of_accepts (h : process.Listening sources env) {name : String}
    (accepts : process.Accepts sources env name) : name ∈ process.subscribed := by
  obtain ⟨now, read, accepted⟩ := accepts
  rw [currentEnv_apply] at read
  cases found : process.watchedCatalog sources env with
  | error exc => rw [found] at read; cases read
  | ok names =>
    rw [found] at read
    cases read
    obtain ⟨named, kept⟩ := mem_watchedEvents.1 (acceptsEventType_iff.1 accepted)
    have heard : process.Hears env name := by
      rcases named with ⟨-, shipped⟩ | listed | runtime
      · exact h.catalog names found name shipped
      · exact h.settings name listed
      · exact h.runtime name runtime
    exact heard.resolve_left kept

/-- In a process whose `ready()` returned no topic is ever wired twice; and while no call lets in
an event nobody listens for, every event type that validation accepts is wired. -/
theorem accepted_events_wired (sources : CatalogSources) (env : Env) (disk : Disk)
    (calls : List CatalogCall) {n : Nat}
    (started : (subscribeWatchedEvents sources env (.initial disk)).1 = .ok n) :
    let process := (Process.ready sources env disk).callAll sources env calls
    (∀ name, process.handlers.count name ≤ 1) ∧
      (AllCovered sources env (.ready sources env disk) calls →
        ∀ name, process.Accepts sources env name → process.handlers.count name = 1) := by
  intro process
  obtain ⟨names, found⟩ := watchedCatalog_of_subscribe started
  have once : process.WiredOnce := by
    refine Process.WiredOnce.callAll (Process.WiredOnce.subscribe ?_) calls
    exact ⟨rfl, List.nodup_nil⟩
  refine ⟨List.nodup_iff_count_le_one.1 once.nodup, fun covered name accepts => ?_⟩
  have listening : process.Listening sources env := (listening_wired found).callAll covered
  refine List.count_eq_one_of_mem once.nodup ?_
  rw [once.handlers]
  exact listening.subscribed_of_accepts accepts

/-- A package is installed under the running process and the catalog is refreshed: validation
accepts its event, and nobody listens for it. -/
theorem accepted_unheard :
    let process := (Process.ready shippedSources sampleEnv emptyDisk).callAll shippedSources
      sampleEnv [.editFiles shippedDisk, .refresh]
    process.Accepts shippedSources sampleEnv "listing.published" ∧
      process.handlers.count "listing.published" = 0 := by
  refine ⟨⟨_, rfl, acceptsEventType_iff.2 ?_⟩, ?_⟩ <;> decide +kernel

theorem accepted_events_wired_refreshed :
    let process := (Process.ready shippedSources sampleEnv shippedDisk).callAll shippedSources
      sampleEnv [.refresh, .resetCatalog, .watchEvent "order.paid", .editFiles emptyDisk]
    process.handlers.count "order.paid" = 1 ∧ process.handlers.count "listing.published" = 1 := by
  have heard (process : Process) (wired : "listing.published" ∈ process.subscribed) :
      process.HearsAll shippedSources sampleEnv shippedDisk := by
    intro _ catalog built entry stored
    cases buildCatalog_shipped.symm.trans built
    cases List.mem_singleton.1 stored
    exact .inr wired
  obtain ⟨-, wired⟩ := accepted_events_wired shippedSources sampleEnv shippedDisk
    [.refresh, .resetCatalog, .watchEvent "order.paid", .editFiles emptyDisk] rfl
  have covered := wired
    ⟨heard _ (by decide +kernel), heard _ (by decide +kernel), nofun, nofun, trivial⟩
  constructor <;> refine covered _ ⟨_, rfl, acceptsEventType_iff.2 ?_⟩ <;> decide +kernel

end Webhooks
