import Webhooks.Catalog
import Webhooks.Library.Loops

/-!
# A scan that survives its files

What `_entry` promises of the boot: no file takes the deployment down, and an event is
in the catalog exactly when some package ships a readable object for it, as the first
package that does has it. The promise holds up to the shapes `_entry` relies on without
looking: a value of `required` that can be listed, one of `properties` that has keys; and as
long as every root can be asked for its directory.
-/
namespace Webhooks

/-- The file can be read and holds a JSON object. -/
def SchemaFile.IsObject (file : SchemaFile) : Prop :=
  ∃ fields, file.schema = .ok (some (.obj fields))

/-- What the root gives away: nothing where asking for its directory raises. -/
def Disk.files (disk : Disk) (root : PosixPath) : List SchemaFile := (disk root).toOption.getD []

/-- `<event>.json` under the root of `origin` is a readable object. -/
def Disk.Ships (disk : Disk) (event : String) (origin : CatalogSource) : Prop :=
  ∃ file ∈ disk.files origin.root, file.name = event ++ ".json" ∧ file.IsObject

/-- `row` is built from the file of the first root that ships `event`, the apps' roots before the
extra ones. -/
def Disk.FirstShips (disk : Disk) (sources : CatalogSources) (event : String)
    (row : CatalogEntry) : Prop :=
  ∃ before origin after, sources.roots = before ++ origin :: after ∧
    (∀ earlier ∈ before, ¬disk.Ships event earlier) ∧
    ∃ file ∈ disk.files origin.root, file.name = event ++ ".json" ∧
      catalogEntry file origin = .ok (some row)

/-- `build_catalog` raises nothing, and maps an event to the row of its first root, which it
has one for exactly when some root ships the event. -/
def SurvivesScan (sources : CatalogSources) (disk : Disk) : Prop :=
  ∃ catalog, buildCatalog sources disk = .ok catalog ∧
    ∀ event, ((∃ row, catalog.get? event = some row) ↔
        ∃ origin ∈ sources.roots, disk.Ships event origin) ∧
      ∀ row, catalog.get? event = some row → disk.FirstShips sources event row

/-- `list` takes the value. -/
def Json.isIterable : Json → Bool
  | .arr _ | .str _ | .obj _ => true
  | _ => false

/-- What `_entry` reads of the file has the shape its reader expects, an empty value standing
for a missing one. -/
structure SchemaFile.Decodes (file : SchemaFile) : Prop where
  parsed : ∀ raised, file.schema ≠ .error raised
  required : ∀ fields, file.schema = .ok (some (.obj fields)) →
    ((Json.obj fields).get "required").truthy = true →
      ((Json.obj fields).get "required").isIterable = true
  properties : ∀ fields, file.schema = .ok (some (.obj fields)) →
    ((Json.obj fields).get "properties").truthy = true →
      ((Json.obj fields).get "properties").isDict = true

/-- Every root can be asked for its directory; every file the scan opens decodes, and none that
holds an object has a name with nothing before its suffix. -/
structure WellShipped (sources : CatalogSources) (disk : Disk) : Prop where
  asked : ∀ origin ∈ sources.roots, ∀ raised, disk origin.root ≠ .error raised
  files : ∀ origin ∈ sources.roots, ∀ file ∈ disk.files origin.root,
    jsonSuffix.isSuffixOf file.name.toList = true →
      file.Decodes ∧ (file.IsObject → file.name ≠ ".json")

/-! ## One file -/

section File
variable {file : SchemaFile} {origin : CatalogSource} {row : CatalogEntry} {event : String}

theorem requiredOf_isOk {value : Json} :
    (∃ items, requiredOf value = .ok items) ↔ (value.truthy = true → value.isIterable = true) := by
  cases value <;> simp [requiredOf, Json.isIterable, apply_ite] <;> split <;> simp_all

theorem propertiesOf_isOk {value : Json} :
    (∃ names, propertiesOf value = .ok names) ↔ (value.truthy = true → value.isDict = true) := by
  cases value <;> simp [propertiesOf, Json.isDict, apply_ite] <;> split <;> simp_all

/-- What `_entry` gives for a file that holds an object, and what it gives for any other. -/
theorem catalogEntry_eq_some : catalogEntry file origin = .ok (some row) ↔
    ∃ fields required properties, file.schema = .ok (some (.obj fields)) ∧
      requiredOf ((Json.obj fields).get "required") = .ok required ∧
      propertiesOf ((Json.obj fields).get "properties") = .ok properties ∧
      row = {
        event := stem file.name
        package := origin.package
        module := origin.module
        description :=
          if ((Json.obj fields).get "description").truthy then (Json.obj fields).get "description"
          else .str ""
        required
        properties
        schema := .obj fields
        source := (origin.root.joinpath (emitsDir ++ [file.name])).str } := by
  unfold catalogEntry
  split
  · next fields read =>
    simp only [Loops.bind_eq_ok]
    constructor
    · rintro ⟨required, hreq, properties, hprop, same⟩
      cases same
      exact ⟨fields, required, properties, read, hreq, hprop, rfl⟩
    · rintro ⟨fields', required, properties, read', hreq, hprop, rfl⟩
      cases read.symm.trans read'
      exact ⟨required, hreq, properties, hprop, rfl⟩
  · next value other read =>
    constructor
    · intro h
      cases h
    · rintro ⟨fields, required, properties, read', -⟩
      exact absurd (Except.ok.inj (read.symm.trans read')) (other fields)
  · next raised read =>
    constructor
    · intro h
      cases h
    · rintro ⟨fields, required, properties, read', -⟩
      cases read.symm.trans read'

theorem isObject_iff (decodes : file.Decodes) :
    file.IsObject ↔ ∃ row, catalogEntry file origin = .ok (some row) := by
  constructor
  · rintro ⟨fields, read⟩
    obtain ⟨required, hreq⟩ := requiredOf_isOk.2 (decodes.required fields read)
    obtain ⟨properties, hprop⟩ := propertiesOf_isOk.2 (decodes.properties fields read)
    exact ⟨_, catalogEntry_eq_some.2 ⟨fields, required, properties, read, hreq, hprop, rfl⟩⟩
  · rintro ⟨row, h⟩
    obtain ⟨fields, -, -, read, -⟩ := catalogEntry_eq_some.1 h
    exact ⟨fields, read⟩

theorem catalogEntry_isOk : (∃ entry, catalogEntry file origin = .ok entry) ↔ file.Decodes := by
  constructor
  · rintro ⟨entry, h⟩
    unfold catalogEntry at h
    split at h
    · next fields read =>
      obtain ⟨required, hreq, h⟩ := Loops.bind_eq_ok.1 h
      obtain ⟨properties, hprop, -⟩ := Loops.bind_eq_ok.1 h
      constructor
      · intro raised read'
        cases read.symm.trans read'
      · intro fields' read'
        cases read.symm.trans read'
        exact requiredOf_isOk.1 ⟨required, hreq⟩
      · intro fields' read'
        cases read.symm.trans read'
        exact propertiesOf_isOk.1 ⟨properties, hprop⟩
    · next value other read =>
      have none (fields) (read' : file.schema = .ok (some (.obj fields))) : False :=
        other fields (Except.ok.inj (read.symm.trans read'))
      constructor
      · intro raised read'
        cases read.symm.trans read'
      · exact fun fields read' => (none fields read').elim
      · exact fun fields read' => (none fields read').elim
    · cases h
  · intro decodes
    by_cases object : file.IsObject
    · obtain ⟨row, h⟩ := (isObject_iff decodes).1 object
      exact ⟨some row, h⟩
    · unfold catalogEntry
      split
      · next fields read => exact absurd ⟨fields, read⟩ object
      · exact ⟨none, rfl⟩
      · next raised read => exact absurd read (decodes.parsed raised)

theorem event_of_catalogEntry (h : catalogEntry file origin = .ok (some row)) :
    row.event = stem file.name := by
  obtain ⟨fields, required, properties, -, -, -, rfl⟩ := catalogEntry_eq_some.1 h
  rfl

/-! ## Names and stems -/

theorem toList_jsonName (event : String) :
    (event ++ ".json").toList = event.toList ++ jsonSuffix := by
  rw [String.toList_append]
  rfl

theorem jsonSuffix_isSuffixOf {name : String} :
    jsonSuffix.isSuffixOf name.toList = true ↔ ∃ event : String, name = event ++ ".json" := by
  rw [List.isSuffixOf_iff_suffix]
  constructor
  · rintro ⟨base, h⟩
    refine ⟨String.ofList base, String.toList_inj.1 ?_⟩
    rw [toList_jsonName, String.toList_ofList, h]
  · rintro ⟨event, rfl⟩
    exact ⟨event.toList, (toList_jsonName event).symm⟩

theorem stem_jsonName (event : String) :
    stem (event ++ ".json") = if event = "" then ".json" else event := by
  have base : (event ++ ".json").toList.take ((event ++ ".json").toList.length
      - jsonSuffix.length) = event.toList := by
    rw [toList_jsonName]
    simp
  unfold stem
  simp only [base]
  by_cases bare : event = ""
  · subst bare
    rfl
  · have : event.toList ≠ [] := by simpa using bare
    simp [bare, this]

/-- A file with something before its suffix is the file of its stem, and of no other event. -/
theorem stem_eq_iff {name : String} (suffix : jsonSuffix.isSuffixOf name.toList = true)
    (named : name ≠ ".json") : stem name = event ↔ name = event ++ ".json" := by
  obtain ⟨base, rfl⟩ := jsonSuffix_isSuffixOf.1 suffix
  have nonempty : base ≠ "" := by
    rintro rfl
    exact named rfl
  rw [stem_jsonName, if_neg nonempty]
  constructor
  · rintro rfl
    rfl
  · intro same
    have := congrArg String.toList same
    rw [toList_jsonName, toList_jsonName] at this
    exact String.toList_inj.1 (List.append_cancel_right this)

end File

/-! ## The scan -/

/-- The row of `event` the file adds to a catalog that has none yet. -/
def offerOf (event : String) (origin : CatalogSource) (file : SchemaFile) : Option CatalogEntry :=
  match catalogEntry file origin with
  | .ok (some row) => if row.event = event then some row else none
  | _ => none

/-- The files of `schemas/emits` in the order `_scan` opens them. -/
def Disk.scanned (disk : Disk) (origin : CatalogSource) : List SchemaFile :=
  ((disk.files origin.root).filter fun file => jsonSuffix.isSuffixOf file.name.toList).insertionSort
    fun a b => a.name ≤ b.name

/-- The row of `event` a source adds. -/
def Disk.offer (disk : Disk) (event : String) (origin : CatalogSource) : Option CatalogEntry :=
  (disk.scanned origin).findSome? (offerOf event origin)

section Scan
variable {disk : Disk} {origin : CatalogSource} {file : SchemaFile} {row : CatalogEntry}
  {event : String} {into after : Catalog} {sources : CatalogSources}

theorem mem_scanned : file ∈ disk.scanned origin ↔
    file ∈ disk.files origin.root ∧ jsonSuffix.isSuffixOf file.name.toList = true := by
  simp [Disk.scanned, List.mem_insertionSort]

theorem offerOf_eq_some : offerOf event origin file = some row ↔
    catalogEntry file origin = .ok (some row) ∧ row.event = event := by
  unfold offerOf
  split
  · next other read =>
    rw [read]
    grind
  · next other =>
    constructor
    · intro h
      cases h
    · exact fun h => absurd h.1 (other row)

/-- The first writer wins. -/
theorem get?_setdefault :
    (into.setdefault row).get? event =
      (into.get? event).or (if row.event = event then some row else none) := by
  unfold Catalog.setdefault
  cases inserted : into.insert? row with
  | none =>
    have taken : (into.get? row.event).isSome := by
      rcases Table.insert?_eq_none.1 inserted with taken | taken <;> exact taken
    by_cases same : row.event = event
    · subst same
      obtain ⟨old, hold⟩ := Option.isSome_iff_exists.1 taken
      simp [hold]
    · simp [same]
  | some grown =>
    have fresh : into.get? row.event = none := by
      by_contra some
      have := Table.insert?_eq_none.2 (.inl (Option.isSome_iff_ne_none.2 some))
      rw [inserted] at this
      cases this
    rw [Option.getD_some, Table.get?_insert inserted]
    by_cases same : row.event = event
    · subst same
      simp [fresh]
    · simp [same, Ne.symm same]

theorem scanFile_eq_ok : scanFile origin into file = .ok after ↔
    ∃ entry, catalogEntry file origin = .ok entry ∧ after = entry.elim into into.setdefault := by
  unfold scanFile
  rw [Loops.bind_eq_ok]
  refine exists_congr fun entry => and_congr_right fun _ => ?_
  cases entry <;> exact ⟨fun h => (Except.ok.inj h).symm, fun h => congrArg Except.ok h.symm⟩

theorem get?_scanFile (h : scanFile origin into file = .ok after) :
    after.get? event = (into.get? event).or (offerOf event origin file) := by
  obtain ⟨entry, read, rfl⟩ := scanFile_eq_ok.1 h
  unfold offerOf
  rw [read]
  cases entry with
  | none => simp
  | some row => exact get?_setdefault

theorem scan_eq_ok : scan disk into origin = .ok after ↔
    (∀ raised, disk origin.root ≠ .error raised) ∧
      (disk.scanned origin).foldlM (scanFile origin) into = .ok after := by
  unfold scan Disk.scanned Disk.files
  cases disk origin.root with
  | error raised => simp [bind, Except.bind]
  | ok files => simp [bind, Except.bind, Except.toOption]

theorem get?_scan (h : scan disk into origin = .ok after) :
    after.get? event = (into.get? event).or (disk.offer event origin) :=
  Loops.read_foldlM (fun catalog : Catalog => catalog.get? event)
    (fun _ _ _ step => get?_scanFile step) (scan_eq_ok.1 h).2

theorem get?_buildCatalog (h : buildCatalog sources disk = .ok after) :
    after.get? event = sources.roots.findSome? (disk.offer event) := by
  have read := Loops.read_foldlM (fun catalog : Catalog => catalog.get? event)
    (fun _ _ _ step => get?_scan step) h
  simpa [Table.empty, Table.get?] using read

/-- The scan ends if and only if every root can be asked and every file it opens decodes. -/
theorem buildCatalog_isOk : (∃ catalog, buildCatalog sources disk = .ok catalog) ↔
    ∀ origin ∈ sources.roots, (∀ raised, disk origin.root ≠ .error raised) ∧
      ∀ file ∈ disk.scanned origin, file.Decodes := by
  apply Loops.foldlM_isOk
  intro into origin
  simp only [scan_eq_ok, exists_and_left]
  refine and_congr_right fun _ => ?_
  apply Loops.foldlM_isOk
  intro into file
  rw [← @catalogEntry_isOk file origin]
  simp only [scanFile_eq_ok]
  constructor
  · rintro ⟨after, entry, read, -⟩
    exact ⟨entry, read⟩
  · rintro ⟨entry, read⟩
    exact ⟨_, entry, read, rfl⟩

/-- The row a source adds is built from its file of the event, a directory holding one file of
each name. -/
theorem offer_eq_some (distinct : ((disk.files origin.root).map (·.name)).Nodup)
    (named : ∀ file ∈ disk.scanned origin, file.IsObject → file.name ≠ ".json")
    (decodes : ∀ file ∈ disk.scanned origin, file.Decodes) :
    disk.offer event origin = some row ↔
      ∃ file ∈ disk.files origin.root, file.name = event ++ ".json" ∧
        catalogEntry file origin = .ok (some row) := by
  have found {file : SchemaFile} {row : CatalogEntry} (hfile : file ∈ disk.scanned origin) :
      offerOf event origin file = some row ↔
        file.name = event ++ ".json" ∧ catalogEntry file origin = .ok (some row) := by
    rw [offerOf_eq_some, and_comm]
    refine and_congr_left fun read => ?_
    have object := (@isObject_iff file origin (decodes file hfile)).2 ⟨row, read⟩
    rw [event_of_catalogEntry read]
    exact stem_eq_iff (mem_scanned.1 hfile).2 (named file hfile object)
  constructor
  · intro h
    obtain ⟨file, hfile, offered⟩ := List.exists_of_findSome?_eq_some h
    exact ⟨file, (mem_scanned.1 hfile).1, (found hfile).1 offered⟩
  · rintro ⟨file, hfile, name, read⟩
    have opened : file ∈ disk.scanned origin :=
      mem_scanned.2 ⟨hfile, jsonSuffix_isSuffixOf.2 ⟨event, name⟩⟩
    cases offered : disk.offer event origin with
    | none =>
      have := List.findSome?_eq_none_iff.1 offered file opened
      rw [(found opened).2 ⟨name, read⟩] at this
      cases this
    | some row' =>
      obtain ⟨file', hfile', offered'⟩ := List.exists_of_findSome?_eq_some offered
      obtain ⟨name', read'⟩ := (found hfile').1 offered'
      have same : file' = file := List.inj_on_of_nodup_map distinct (mem_scanned.1 hfile').1 hfile
        (name'.trans name.symm)
      subst same
      exact congrArg some (Option.some.inj (Except.ok.inj (read'.symm.trans read)))

theorem ships_iff (distinct : ((disk.files origin.root).map (·.name)).Nodup)
    (named : ∀ file ∈ disk.scanned origin, file.IsObject → file.name ≠ ".json")
    (decodes : ∀ file ∈ disk.scanned origin, file.Decodes) :
    disk.Ships event origin ↔ ∃ row, disk.offer event origin = some row := by
  simp only [offer_eq_some distinct named decodes]
  constructor
  · rintro ⟨file, hfile, name, object⟩
    have opened : file ∈ disk.scanned origin :=
      mem_scanned.2 ⟨hfile, jsonSuffix_isSuffixOf.2 ⟨event, name⟩⟩
    obtain ⟨row, read⟩ := (isObject_iff (decodes file opened)).1 object
    exact ⟨row, file, hfile, name, read⟩
  · rintro ⟨row, file, hfile, name, read⟩
    have opened : file ∈ disk.scanned origin :=
      mem_scanned.2 ⟨hfile, jsonSuffix_isSuffixOf.2 ⟨event, name⟩⟩
    exact ⟨file, hfile, name, (isObject_iff (decodes file opened)).2 ⟨row, read⟩⟩

end Scan

/-- The scan keeps its promise if and only if every root can be asked, every file it opens decodes
and no object's file is named by its suffix alone. -/
theorem survivesScan_iff (sources : CatalogSources) (disk : Disk)
    (distinct : ∀ root, ((disk.files root).map (·.name)).Nodup) :
    SurvivesScan sources disk ↔ WellShipped sources disk := by
  constructor
  · rintro ⟨catalog, built, cataloged⟩
    have scans := buildCatalog_isOk.1 ⟨catalog, built⟩
    refine ⟨fun origin horigin => (scans origin horigin).1, ?_⟩
    intro origin horigin file hfile suffix
    refine ⟨(scans origin horigin).2 file (mem_scanned.2 ⟨hfile, suffix⟩), fun object bare => ?_⟩
    -- such a file ships the event without a name, which no row has
    obtain ⟨row, hrow⟩ := (cataloged "").1.2 ⟨origin, horigin, file, hfile, bare, object⟩
    obtain ⟨_, origin', _, _, _, file', _, name, read⟩ := (cataloged "").2 row hrow
    have event := event_of_catalogEntry read
    rw [name, stem_jsonName, Table.key_of_get? hrow] at event
    exact absurd event (by decide)
  · intro well
    have decodes (origin) (h : origin ∈ sources.roots) (file)
        (hfile : file ∈ disk.scanned origin) :=
      (well.files origin h file (mem_scanned.1 hfile).1 (mem_scanned.1 hfile).2).1
    have named (origin) (h : origin ∈ sources.roots) (file)
        (hfile : file ∈ disk.scanned origin) :=
      (well.files origin h file (mem_scanned.1 hfile).1 (mem_scanned.1 hfile).2).2
    obtain ⟨catalog, built⟩ := buildCatalog_isOk.2 fun origin horigin =>
      ⟨well.asked origin horigin, decodes origin horigin⟩
    refine ⟨catalog, built, fun event => ?_⟩
    have offers (origin) (h : origin ∈ sources.roots) :=
      @ships_iff disk origin event (distinct origin.root) (named origin h) (decodes origin h)
    rw [get?_buildCatalog built]
    constructor
    · constructor
      · rintro ⟨row, found⟩
        obtain ⟨origin, horigin, offered⟩ := List.exists_of_findSome?_eq_some found
        exact ⟨origin, horigin, (offers origin horigin).2 ⟨row, offered⟩⟩
      · rintro ⟨origin, horigin, ships⟩
        obtain ⟨row, offered⟩ := (offers origin horigin).1 ships
        have : (sources.roots.findSome? (disk.offer event)).isSome := by
          rw [List.findSome?_isSome_iff]
          exact ⟨origin, horigin, by simp [offered]⟩
        exact Option.isSome_iff_exists.1 this
    · intro row found
      obtain ⟨before, origin, after, split, offered, passed⟩ := List.findSome?_eq_some_iff.1 found
      have horigin : origin ∈ sources.roots := by simp [split]
      refine ⟨before, origin, after, split, fun earlier hearlier ships => ?_, ?_⟩
      · obtain ⟨row', offered'⟩ := (offers earlier (by simp [split, hearlier])).1 ships
        rw [passed earlier hearlier] at offered'
        cases offered'
      · exact (offer_eq_some (distinct _) (named origin horigin) (decodes origin horigin)).1 offered

/-- An app and an extra directory, both with a broken file beside the good one. -/
def mixedSources : CatalogSources :=
  ⟨[⟨some "/srv/listings", "listings", "listings"⟩], ["/srv/extra/"]⟩

def mixedDisk : Disk := fun _ => .ok
  [⟨"broken.event.json", .ok none⟩,
    ⟨"good.event.json", .ok (some (.obj [("properties", .obj [])]))⟩]

theorem survivesScan_mixed : SurvivesScan mixedSources mixedDisk := by
  have distinct : ["broken.event.json", "good.event.json"].Nodup := by decide
  refine (survivesScan_iff mixedSources mixedDisk fun _ => distinct).2 ⟨fun _ _ => nofun, ?_⟩
  rintro origin - file hfile -
  simp only [mixedDisk, Disk.files, Except.toOption, Option.getD_some, List.mem_cons,
    List.not_mem_nil, or_false] at hfile
  rcases hfile with rfl | rfl
  · exact ⟨⟨nofun, nofun, nofun⟩, fun _ => by decide⟩
  · refine ⟨⟨nofun, ?_, ?_⟩, fun _ => by decide⟩ <;> rintro fields ⟨⟩ truthy <;> cases truthy

/-- The app's file is the one that counts. -/
example : (buildCatalog mixedSources mixedDisk).toOption.map
    (fun catalog => catalog.rows.map fun row => (row.package, row.source)) =
      some [("listings", "/srv/listings/schemas/emits/good.event.json")] := by decide +kernel

/-- A schema that marks itself required, as a property's schema once did. -/
def markedDisk : Disk := fun _ => .ok
  [⟨"listing.published.json", .ok (some (.obj [("required", .bool true)]))⟩]

theorem boolean_required_escapes : ¬SurvivesScan shippedSources markedDisk := by
  rintro ⟨catalog, built, -⟩
  have raised : buildCatalog shippedSources markedDisk =
      .error ⟨"TypeError", some "'bool' object is not iterable"⟩ := rfl
  rw [raised] at built
  cases built

end Webhooks
