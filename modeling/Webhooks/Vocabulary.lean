import Webhooks.Listening

/-!
# Who shows the vocabulary

The comm Function, the REST view and the management command list what can be subscribed
to, and validation decides what may be. The Function lists the catalog as it was
scanned; the others derive the watched topics. They agree exactly where the catalog
and the watched topics are the same set.
-/
namespace Webhooks

/-- An event as the Function and the view show it. -/
structure CatalogEvent where
  event : String
  module : String
  package : String
  description : Json
  required : List Json
  properties : List String

def CatalogEntry.present (entry : CatalogEntry) : CatalogEvent :=
  ⟨entry.event, entry.module, entry.package, entry.description, entry.required, entry.properties⟩

def byEvent (a b : CatalogEvent) : Prop := a.event ≤ b.event

instance (a b : CatalogEvent) : Decidable (byEvent a b) := inferInstanceAs (Decidable (_ ≤ _))

structure EventCatalog where
  events : List CatalogEvent
  deliveryTypes : List String

/-- One line of the command. -/
structure CatalogRow where
  event : String
  module : String
  properties : List String

/-- A topic, with what its catalog entry says, if it has one. -/
def catalogRow (catalog : Catalog) (name : String) : CatalogRow :=
  match catalog.get? name with
  | some entry => ⟨name, entry.module, entry.properties⟩
  | none => ⟨name, "", []⟩

@[simp] theorem catalogRow_event (catalog : Catalog) (name : String) :
    (catalogRow catalog name).event = name := by
  unfold catalogRow
  cases catalog.get? name <;> rfl

section
variable (sources : CatalogSources) (env : Env)

/-- `data.get(key)`: what is no object has no `get`. -/
def getItem (data : Json) (key : String) : Except PyException Json :=
  if data.isDict then .ok (data.get key)
  else .error ⟨"AttributeError", some ("'" ++ data.typeName ++ "' object has no attribute 'get'")⟩

/-- `webhooks.event_catalog`. -/
def eventCatalogFunction (payload : Json) : InProcess (List CatalogEvent) := do
  let refresh ← liftExcept (getItem payload.orEmpty "refresh")
  let catalog ← eventCatalog sources refresh.truthy
  return (catalog.rows.map CatalogEntry.present).insertionSort byEvent

/-- What a watched topic without a schema looks like. -/
def unshipped (name : String) : CatalogEvent where
  event := name
  module := ""
  package := ""
  description := .str "Declared by STAPEL_WEBHOOKS['WATCH_EVENTS']; no schema shipped."
  required := []
  properties := []

/-- `EventCatalogView.get`. -/
def eventCatalogView : InProcess EventCatalog := do
  let watched ← watchedNow sources env
  let catalog ← eventCatalog sources false
  let shipped := catalog.rows.filter fun entry => entry.event ∈ watched
  let missing := watched.dedup.filter fun name => name ∉ shipped.map (·.event)
  let events := shipped.map CatalogEntry.present ++ missing.map unshipped
  return {
    events := events.insertionSort byEvent
    deliveryTypes := ((getDeliveryTypes env).map Prod.fst).insertionSort (· ≤ ·) }

/-- The rows the command `webhooks_event_catalog` prints. -/
def eventCatalogCommand : InProcess (List CatalogRow) := do
  let catalog ← eventCatalog sources true
  let watched ← watchedNow sources env
  return (watched.dedup.insertionSort (· ≤ ·)).map (catalogRow catalog)

end

/-! ## One set or not -/

variable {sources : CatalogSources} {env : Env} {process : Process} {catalog : Catalog}

/-- The catalog of this process is what a scan finds now, cached or not. -/
structure Process.Fresh (sources : CatalogSources) (process : Process) (catalog : Catalog) :
    Prop where
  built : buildCatalog sources process.disk = .ok catalog
  cached : ∀ cached, process.cache = some cached → cached = catalog

/-- Asked for the vocabulary now, each answers, and they all name the same events. -/
def OneVocabulary (sources : CatalogSources) (env : Env) (process : Process) (payload : Json) :
    Prop :=
  ∃ listed shown printed,
    (eventCatalogFunction sources payload process).1 = .ok listed ∧
    (eventCatalogView sources env process).1 = .ok shown ∧
    (eventCatalogCommand sources env process).1 = .ok printed ∧
    ∀ name, (name ∈ listed.map (·.event) ↔ process.Accepts sources env name) ∧
      (name ∈ shown.events.map (·.event) ↔ process.Accepts sources env name) ∧
      (name ∈ printed.map (·.event) ↔ process.Accepts sources env name)

/-- The catalog is what is watched: nothing in it is ignored or, with `WATCH_CATALOG` off, left
out, and every other watched topic ships a schema. -/
structure CatalogIsWatched (env : Env) (runtime : List String) (catalog : Catalog) : Prop where
  unignored : ∀ entry ∈ catalog.rows, entry.event ∉ ignoredEvents env
  listed : env.settings.watchCatalog = false → ∀ entry ∈ catalog.rows,
    entry.event ∈ env.settings.watchEvents ∨ entry.event ∈ runtime
  shipped : ∀ name, name ∈ env.settings.watchEvents ∨ name ∈ runtime → name ∉ ignoredEvents env →
    ∃ entry ∈ catalog.rows, entry.event = name

/-- A topic is watched, going by the catalog, the settings and the runtime. -/
def Watched (env : Env) (runtime : List String) (catalog : Catalog) (name : String) : Prop :=
  (env.settings.watchCatalog = true ∧ (∃ entry ∈ catalog.rows, entry.event = name) ∨
    name ∈ env.settings.watchEvents ∨ name ∈ runtime) ∧ name ∉ ignoredEvents env

theorem Process.Fresh.catalog_eq (h : process.Fresh sources catalog) :
    process.catalog sources = .ok catalog := by
  unfold Process.catalog
  cases cached : process.cache with
  | none => exact h.built
  | some found => rw [h.cached found cached]

theorem Process.Fresh.cache (h : process.Fresh sources catalog) :
    Process.Fresh sources { process with cache := some catalog } catalog :=
  ⟨h.built, fun _ cached => (Option.some.inj cached).symm⟩

/-- With a refresh or without, the catalog comes back and stays. -/
theorem Process.Fresh.eventCatalog (h : process.Fresh sources catalog) (refresh : Bool) :
    Webhooks.eventCatalog sources refresh process =
      (.ok catalog, { process with cache := some catalog }) := by
  cases refresh with
  | false => rw [eventCatalog_apply, h.catalog_eq]
  | true => rw [eventCatalog_refresh, rescan_apply, h.built]

theorem Process.Fresh.read (h : process.Fresh sources catalog) :
    (process.read sources env).Fresh sources catalog := by
  unfold Process.read
  rw [h.catalog_eq]
  split
  · exact h.cache
  · exact h

/-- What a service reads in a fresh process, and the topics it then watches. -/
theorem Process.Fresh.currentEnv (h : process.Fresh sources catalog) (env : Env) :
    ∃ now, Webhooks.currentEnv sources env process = (.ok now, process.read sources env) ∧
      ∀ name, name ∈ watchedEvents now ↔ Watched env process.runtimeEvents catalog name := by
  rw [currentEnv_apply, Process.watchedCatalog, h.catalog_eq]
  cases watching : env.settings.watchCatalog with
  | true =>
    refine ⟨_, rfl, fun name => ?_⟩
    simp only [mem_watchedEvents, Watched, watching, mem_catalogEventNames]
    rfl
  | false =>
    refine ⟨_, rfl, fun name => ?_⟩
    simp only [mem_watchedEvents, Watched, watching, Bool.false_eq_true, false_and]
    rfl

theorem Process.Fresh.accepts_iff (h : process.Fresh sources catalog) (name : String) :
    process.Accepts sources env name ↔ Watched env process.runtimeEvents catalog name := by
  obtain ⟨now, run, watched⟩ := h.currentEnv env
  rw [← watched, ← acceptsEventType_iff]
  constructor
  · rintro ⟨found, read, accepted⟩
    rw [run] at read
    cases read
    exact accepted
  · exact fun accepted => ⟨now, by rw [run], accepted⟩

theorem Process.Fresh.watchedNow (h : process.Fresh sources catalog) (env : Env) :
    ∃ watched, Webhooks.watchedNow sources env process =
        (.ok watched, process.read sources env) ∧
      ∀ name, name ∈ watched ↔ process.Accepts sources env name := by
  obtain ⟨now, run, watched⟩ := h.currentEnv env
  refine ⟨watchedEvents now, ?_, fun name => (watched name).trans (h.accepts_iff name).symm⟩
  rw [Webhooks.watchedNow, map_eq_pure_bind, bind_apply, run]
  rfl

/-! ## What each of them lists -/

theorem Process.Fresh.function (h : process.Fresh sources catalog) {payload : Json}
    (object : payload.orEmpty.isDict = true) :
    ∃ listed, (eventCatalogFunction sources payload process).1 = .ok listed ∧
      ∀ name, name ∈ listed.map (·.event) ↔ ∃ entry ∈ catalog.rows, entry.event = name := by
  unfold eventCatalogFunction getItem
  rw [bind_apply, if_pos object, liftExcept_apply]
  dsimp only
  rw [bind_apply, h.eventCatalog]
  refine ⟨_, rfl, fun name => ?_⟩
  simp [List.mem_insertionSort, CatalogEntry.present]

/-- The Function answers nothing but objects and what counts as none. -/
theorem isDict_of_eventCatalogFunction {payload : Json} {listed : List CatalogEvent}
    (answers : (eventCatalogFunction sources payload process).1 = .ok listed) :
    payload.orEmpty.isDict = true := by
  by_contra other
  unfold eventCatalogFunction getItem at answers
  rw [bind_apply, if_neg other, liftExcept_apply] at answers
  cases answers

theorem Process.Fresh.view (h : process.Fresh sources catalog) (env : Env) :
    ∃ shown, (eventCatalogView sources env process).1 = .ok shown ∧
      ∀ name, name ∈ shown.events.map (·.event) ↔ process.Accepts sources env name := by
  obtain ⟨watched, run, accepted⟩ := h.watchedNow env
  unfold eventCatalogView
  rw [bind_apply, run]
  dsimp only
  rw [bind_apply, h.read.eventCatalog]
  refine ⟨_, rfl, fun name => ?_⟩
  rw [← accepted]
  simp only [List.mem_map, List.mem_insertionSort, List.mem_append, List.mem_filter,
    List.mem_dedup, decide_eq_true_eq]
  constructor
  · rintro ⟨event, ⟨entry, ⟨-, listed⟩, rfl⟩ | ⟨topic, ⟨listed, -⟩, rfl⟩, rfl⟩
    · exact listed
    · exact listed
  · intro listed
    by_cases shipped : ∃ entry, (entry ∈ catalog.rows ∧ entry.event ∈ watched) ∧ entry.event = name
    · obtain ⟨entry, stored, rfl⟩ := shipped
      exact ⟨entry.present, .inl ⟨entry, stored, rfl⟩, rfl⟩
    · exact ⟨unshipped name, .inr ⟨name, ⟨listed, shipped⟩, rfl⟩, rfl⟩

theorem Process.Fresh.command (h : process.Fresh sources catalog) (env : Env) :
    ∃ printed, (eventCatalogCommand sources env process).1 = .ok printed ∧
      ∀ name, name ∈ printed.map (·.event) ↔ process.Accepts sources env name := by
  obtain ⟨watched, run, accepted⟩ := h.cache.watchedNow env
  unfold eventCatalogCommand
  rw [bind_apply, h.eventCatalog]
  dsimp only
  rw [bind_apply, run]
  refine ⟨_, rfl, fun name => ?_⟩
  have same : Process.Accepts sources env { process with cache := some catalog } name ↔
      process.Accepts sources env name :=
    (h.cache.accepts_iff name).trans (h.accepts_iff name).symm
  rw [← same, ← accepted]
  simp [List.mem_insertionSort]

/-- Whatever the catalog, the settings and the runtime name: the Function, the view, the command
and validation have one vocabulary if and only if the Function is handed an object, or what
counts as none, and the catalog is what is watched. -/
theorem oneVocabulary_iff (sources : CatalogSources) (env : Env) (process : Process)
    (catalog : Catalog) (payload : Json) (fresh : process.Fresh sources catalog) :
    OneVocabulary sources env process payload ↔
      payload.orEmpty.isDict = true ∧ CatalogIsWatched env process.runtimeEvents catalog := by
  obtain ⟨shown, viewed, shownAccepted⟩ := fresh.view env
  obtain ⟨printed, ran, printedAccepted⟩ := fresh.command env
  constructor
  · rintro ⟨listed', shown', printed', asked', -, -, same⟩
    have object := isDict_of_eventCatalogFunction asked'
    obtain ⟨listed, asked, inCatalog⟩ := fresh.function object
    cases asked.symm.trans asked'
    have agree (name : String) : (∃ entry ∈ catalog.rows, entry.event = name) ↔
        Watched env process.runtimeEvents catalog name :=
      (inCatalog name).symm.trans ((same name).1.trans (fresh.accepts_iff name))
    refine ⟨object, fun entry stored => ((agree _).1 ⟨entry, stored, rfl⟩).2, ?_, ?_⟩
    · intro off entry stored
      rcases ((agree _).1 ⟨entry, stored, rfl⟩).1 with ⟨on, -⟩ | named
      · rw [off] at on; cases on
      · exact named
    · exact fun name named kept => (agree name).2 ⟨.inr named, kept⟩
  · rintro ⟨object, aligned⟩
    obtain ⟨listed, asked, inCatalog⟩ := fresh.function object
    refine ⟨listed, shown, printed, asked, viewed, ran, fun name => ⟨?_, shownAccepted name,
      printedAccepted name⟩⟩
    rw [inCatalog, fresh.accepts_iff]
    constructor
    · rintro ⟨entry, stored, rfl⟩
      refine ⟨?_, aligned.unignored entry stored⟩
      cases watching : env.settings.watchCatalog with
      | true => exact .inl ⟨rfl, entry, stored, rfl⟩
      | false => exact .inr (aligned.listed watching entry stored)
    · rintro ⟨⟨-, shipped⟩ | named, kept⟩
      · exact shipped
      · exact aligned.shipped name named kept

/-- This package's own installation, as far as one of the facts it emits goes. -/
def ownSources : CatalogSources :=
  ⟨[⟨some "/srv/stapel_webhooks", "stapel_webhooks", "webhooks"⟩], []⟩

def ownDisk : Disk := fun _ => .ok [⟨"webhooks.delivery.dead.json", .ok (some (.obj []))⟩]

/-- With the default settings the Function offers a fact of this very package, and validation
refuses it. -/
theorem ignored_fact_listed :
    let process := Process.ready ownSources sampleEnv ownDisk
    (∃ catalog, process.Fresh ownSources catalog) ∧
      ¬OneVocabulary ownSources sampleEnv process .null := by
  intro process
  refine ⟨⟨_, rfl, fun cached same => (Option.some.inj same).symm⟩, ?_⟩
  rintro ⟨listed, shown, printed, asked, -, -, same⟩
  have offered : "webhooks.delivery.dead" ∈ listed.map (·.event) := by
    cases asked
    decide +kernel
  obtain ⟨now, read, accepted⟩ := (same _).1.1 offered
  cases read
  exact absurd (acceptsEventType_iff.1 accepted) (by decide +kernel)

theorem oneVocabulary_iff_shipped :
    OneVocabulary shippedSources sampleEnv (.ready shippedSources sampleEnv shippedDisk)
      (.obj [("refresh", .bool true)]) := by
  refine (oneVocabulary_iff shippedSources sampleEnv _ shippedCatalog _
    ⟨rfl, fun cached same => (Option.some.inj same).symm⟩).2 ⟨rfl, ?_, nofun, ?_⟩
  · intro entry stored
    cases List.mem_singleton.1 stored
    decide
  · rintro name (listed | runtime)
    · exact absurd listed List.not_mem_nil
    · exact absurd runtime List.not_mem_nil

end Webhooks
