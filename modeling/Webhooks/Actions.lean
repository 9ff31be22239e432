import Mathlib.Data.List.Dedup
import Webhooks.Catalog
import Webhooks.Services.Authoring

/-!
# Where the reaction layer attaches to the bus

The state of one process: the cached catalog, the topics named at runtime, the topics
wired so far and the action registry, which takes a handler and never gives it back.
Whatever reads the catalog may find it uncached and scan the files again.
-/
namespace Webhooks

structure Process where
  /-- What is on disk now. -/
  disk : Disk
  /-- `_CACHE`. -/
  cache : Option Catalog
  /-- `_runtime_events`. -/
  runtimeEvents : List String
  /-- `_SUBSCRIBED`. -/
  subscribed : List String
  /-- The topics `subscribe_action` was called with for `handle_event`, one entry a call. -/
  handlers : List String

abbrev InProcess := ExceptT PyException (StateM Process)

/-! ## `catalog.py` -/

section
variable (sources : CatalogSources)

/-- `_CACHE = build_catalog()`. -/
def rescan : InProcess Catalog := do
  let process ← get
  let catalog ← liftExcept (buildCatalog sources process.disk)
  modify fun process => { process with cache := some catalog }
  return catalog

def eventCatalog (refresh : Bool) : InProcess Catalog := do
  let process ← get
  match process.cache, refresh with
  | some catalog, false => return catalog
  | _, _ => rescan sources

def resetCatalog : InProcess Unit := modify fun process => { process with cache := none }

/-! ## `actions.py` -/

variable (env : Env)

/-- What a service reads in this process now: the catalog, unless `WATCH_CATALOG` is off, and the
topics named at runtime. -/
def currentEnv : InProcess Env := do
  let catalogEventNames ← if env.settings.watchCatalog then
      catalogEventNames <$> eventCatalog sources false
    else pure []
  let process ← get
  return { env with catalogEventNames, runtimeEvents := process.runtimeEvents }

/-- `watched_events()`. -/
def watchedNow : InProcess (List String) := watchedEvents <$> currentEnv sources env

/-- One turn of the loop: a topic is wired once. -/
def Process.wire (process : Process) (name : String) : Process :=
  if name ∈ process.subscribed then process
  else
    { process with
      handlers := process.handlers ++ [name]
      subscribed := process.subscribed ++ [name] }

def subscribeWatchedEvents : InProcess Nat := do
  let names ← watchedNow sources env
  let before ← get
  modify fun process => (names.dedup.insertionSort (· ≤ ·)).foldl Process.wire process
  let after ← get
  return after.subscribed.length - before.subscribed.length

def watchEvent (name : String) : InProcess Unit := do
  modify fun process => { process with runtimeEvents := process.runtimeEvents ++ [name] }
  let _ ← subscribeWatchedEvents sources env

end

/-! ## What each function does to the process -/

variable {sources : CatalogSources} {env : Env} {process : Process}

/-- What `event_catalog()` would return. -/
def Process.catalog (sources : CatalogSources) (process : Process) :
    Except PyException Catalog :=
  match process.cache with
  | some catalog => .ok catalog
  | none => buildCatalog sources process.disk

theorem rescan_apply : rescan sources process =
    match buildCatalog sources process.disk with
    | .ok catalog => (.ok catalog, { process with cache := some catalog })
    | .error exc => (.error exc, process) := by
  unfold rescan
  simp only [bind_apply, get_apply, liftExcept_apply, modify_apply]
  cases buildCatalog sources process.disk <;> rfl

theorem eventCatalog_refresh : eventCatalog sources true process = rescan sources process := by
  unfold eventCatalog
  rw [bind_apply, get_apply]
  obtain ⟨disk, cache, runtimeEvents, subscribed, handlers⟩ := process
  cases cache <;> rfl

/-- Without a refresh: what is returned is cached from then on. -/
theorem eventCatalog_apply : eventCatalog sources false process =
    match process.catalog sources with
    | .ok catalog => (.ok catalog, { process with cache := some catalog })
    | .error exc => (.error exc, process) := by
  unfold eventCatalog Process.catalog
  rw [bind_apply, get_apply]
  obtain ⟨disk, cache, runtimeEvents, subscribed, handlers⟩ := process
  cases cache with
  | some catalog => rfl
  | none => exact rescan_apply

/-- What reading the vocabulary leaves: a catalog that was found is cached. -/
def Process.read (sources : CatalogSources) (env : Env) (process : Process) : Process :=
  if env.settings.watchCatalog then
    match process.catalog sources with
    | .ok catalog => { process with cache := some catalog }
    | .error _ => process
  else process

/-- The catalog as far as it is watched. -/
def Process.watchedCatalog (sources : CatalogSources) (env : Env) (process : Process) :
    Except PyException (List String) :=
  if env.settings.watchCatalog then (process.catalog sources).map catalogEventNames else .ok []

theorem currentEnv_apply : currentEnv sources env process =
    ((process.watchedCatalog sources env).map fun catalogEventNames =>
        { env with catalogEventNames, runtimeEvents := process.runtimeEvents },
      process.read sources env) := by
  unfold currentEnv Process.watchedCatalog Process.read
  by_cases watching : env.settings.watchCatalog = true
  · simp only [watching, if_true]
    rw [bind_apply, map_eq_pure_bind, bind_apply, eventCatalog_apply]
    cases process.catalog sources <;> rfl
  · simp only [watching, if_false, Bool.false_eq_true]
    rfl

def Process.wireAll (process : Process) (names : List String) : Process :=
  (names.dedup.insertionSort (· ≤ ·)).foldl Process.wire process

theorem subscribeWatchedEvents_apply : (subscribeWatchedEvents sources env process).2 =
    match process.watchedCatalog sources env with
    | .ok catalogEventNames => (process.read sources env).wireAll
        (watchedEvents { env with catalogEventNames, runtimeEvents := process.runtimeEvents })
    | .error _ => process.read sources env := by
  unfold subscribeWatchedEvents watchedNow
  rw [bind_apply, map_eq_pure_bind, bind_apply, currentEnv_apply]
  cases process.watchedCatalog sources env <;> rfl

theorem watchedCatalog_of_subscribe {wired : Nat}
    (h : (subscribeWatchedEvents sources env process).1 = .ok wired) :
    ∃ names, process.watchedCatalog sources env = .ok names := by
  unfold subscribeWatchedEvents watchedNow at h
  rw [bind_apply, map_eq_pure_bind, bind_apply, currentEnv_apply] at h
  cases found : process.watchedCatalog sources env with
  | ok names => exact ⟨names, rfl⟩
  | error exc => rw [found] at h; cases h

/-- `watch_event` names its topic first, and that stays when the scan raises. -/
theorem watchEvent_apply (name : String) : (watchEvent sources env name process).2 =
    (subscribeWatchedEvents sources env
      { process with runtimeEvents := process.runtimeEvents ++ [name] }).2 := by
  unfold watchEvent
  rw [bind_apply, modify_apply]
  dsimp only
  rw [bind_apply]
  split
  · next added after run => rw [run]; rfl
  · next exc after run => rw [run]

/-! ## What they leave alone -/

/-- Reading the vocabulary fills the cache and does nothing else. -/
theorem Process.read_eq (sources : CatalogSources) (env : Env) (process : Process) :
    ∃ cache, process.read sources env = { process with cache } := by
  unfold Process.read
  split
  · cases process.catalog sources with
    | ok catalog => exact ⟨some catalog, rfl⟩
    | error exc => exact ⟨process.cache, rfl⟩
  · exact ⟨process.cache, rfl⟩

/-- What was found is what the next reader finds. -/
theorem Process.watchedCatalog_read :
    (process.read sources env).watchedCatalog sources env = process.watchedCatalog sources env := by
  unfold Process.watchedCatalog Process.read
  split
  · cases found : process.catalog sources with
    | ok catalog => rfl
    | error exc => rw [found]
  · rfl

/-- Wiring adds the topics that were not wired and does nothing else. -/
theorem Process.wireAll_eq (process : Process) (names : List String) :
    ∃ handlers subscribed, process.wireAll names = { process with handlers, subscribed } ∧
      ∀ name, name ∈ subscribed ↔ name ∈ process.subscribed ∨ name ∈ names := by
  have loop : ∀ (todo : List String) (process : Process), ∃ handlers subscribed,
      todo.foldl Process.wire process = { process with handlers, subscribed } ∧
        ∀ name, name ∈ subscribed ↔ name ∈ process.subscribed ∨ name ∈ todo := by
    intro todo
    induction todo with
    | nil => exact fun process => ⟨process.handlers, process.subscribed, rfl, by simp⟩
    | cons topic todo ih =>
      intro process
      obtain ⟨handlers, subscribed, same, mem⟩ := ih (process.wire topic)
      rw [List.foldl_cons, same]
      unfold Process.wire at mem ⊢
      by_cases wired : topic ∈ process.subscribed
      · simp only [wired, if_true] at mem ⊢
        refine ⟨handlers, subscribed, rfl, fun name => ?_⟩
        rw [mem, List.mem_cons]
        constructor
        · exact fun h => h.imp_right .inr
        · rintro (old | rfl | new)
          · exact .inl old
          · exact .inl wired
          · exact .inr new
      · simp only [wired, if_false] at mem ⊢
        refine ⟨handlers, subscribed, rfl, fun name => ?_⟩
        rw [mem, List.mem_append, List.mem_singleton, List.mem_cons, or_assoc]
  obtain ⟨handlers, subscribed, same, mem⟩ := loop (names.dedup.insertionSort (· ≤ ·)) process
  refine ⟨handlers, subscribed, same, fun name => ?_⟩
  rw [mem, List.mem_insertionSort, List.mem_dedup]

end Webhooks
