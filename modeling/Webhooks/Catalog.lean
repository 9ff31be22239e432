import Mathlib.Data.List.Sort
import Webhooks.Library.Table
import Webhooks.Python

/-!
# The event catalog

`build_catalog` over the schema files of the installed packages: one entry per event,
named after its file, the first package that ships it winning. A file that cannot be
read is skipped; one that nests too deep for the parser raises, and so does a schema whose
`required` or `properties` is of another shape than its reader expects, and a root that cannot
be looked into.
-/
namespace Webhooks

/-- A file in `schemas/emits`, with what `json.loads` of its text gives: none for an `OSError` or
a `ValueError`, and whatever else is raised (`RecursionError`, where the text nests too deep). -/
structure SchemaFile where
  name : String
  schema : Except PyException (Option Json)

/-! ## Where the files are -/

/-- A `PosixPath`: its root, one slash or two or none, and its parts. -/
structure PosixPath where
  root : String
  parts : List String
deriving DecidableEq

/-- `Path(text)`: empty parts and single dots are dropped. -/
def PosixPath.ofString (text : String) : PosixPath where
  root :=
    match text.toList with
    | '/' :: '/' :: '/' :: _ => "/"
    | '/' :: '/' :: _ => "//"
    | '/' :: _ => "/"
    | _ => ""
  parts :=
    ((text.toList.splitOn '/').map String.ofList).filter fun part => part ≠ "" ∧ part ≠ "."

/-- `str(path)`. -/
def PosixPath.str (path : PosixPath) : String :=
  if path.root = "" ∧ path.parts = [] then "." else path.root ++ "/".intercalate path.parts

/-- `path.name`. -/
def PosixPath.name (path : PosixPath) : String := path.parts.getLast?.getD ""

def PosixPath.joinpath (path : PosixPath) (parts : List String) : PosixPath :=
  { path with parts := path.parts ++ parts }

def emitsDir : List String := ["schemas", "emits"]

/-- The files in `schemas/emits` under each root; none where there is no such directory. Asking for
the directory may raise: a name that is too long, a root nobody may look into. -/
abbrev Disk := PosixPath → Except PyException (List SchemaFile)

/-- An installed app. -/
structure AppConfig where
  path : Option String
  name : String
  label : String

/-- `INSTALLED_APPS` and the texts of `EXTRA_CATALOG_PATHS`, each in its order. -/
structure CatalogSources where
  apps : List AppConfig
  extraPaths : List String

/-- A root that is scanned, and what its entries name as their package and module. -/
structure CatalogSource where
  root : PosixPath
  package : String
  module : String

/-- The root of an app that has a path. -/
def AppConfig.source (config : AppConfig) : Option CatalogSource :=
  match config.path with
  | none | some "" => none
  | some path => some ⟨.ofString path, config.name, config.label⟩

/-- The directory's own name stands for the package and the module. -/
def extraSource (extra : String) : CatalogSource :=
  let root := PosixPath.ofString extra
  ⟨root, root.name, root.name⟩

/-- What is scanned, in this order. -/
def CatalogSources.roots (sources : CatalogSources) : List CatalogSource :=
  sources.apps.filterMap AppConfig.source ++ sources.extraPaths.map extraSource

/-! ## The entries -/

structure CatalogEntry where
  event : String
  package : String
  module : String
  description : Json
  required : List Json
  properties : List String
  schema : Json
  source : String

abbrev Catalog := Table CatalogEntry.event CatalogEntry.event

def jsonSuffix : List Char := ".json".toList

/-- `path.stem` of a file `glob("*.json")` finds. -/
def stem (name : String) : String :=
  let base := name.toList.take (name.toList.length - jsonSuffix.length)
  if base = [] then name else String.ofList base

/-- `list(value or ())`. -/
def requiredOf (value : Json) : Except PyException (List Json) :=
  match value with
  | .arr items => .ok items
  | .str s => .ok (s.toList.map fun c => .str (String.singleton c))
  | .obj fields => .ok (fields.map fun field => .str field.1)
  | other =>
    if other.truthy then
      .error ⟨"TypeError", some ("'" ++ other.typeName ++ "' object is not iterable")⟩
    else .ok []

/-- `sorted((value or {}).keys())`. -/
def propertiesOf (value : Json) : Except PyException (List String) :=
  match value with
  | .obj fields => .ok ((fields.map Prod.fst).insertionSort (· ≤ ·))
  | other =>
    if other.truthy then
      .error ⟨"AttributeError", some ("'" ++ other.typeName ++ "' object has no attribute 'keys'")⟩
    else .ok []

/-- `_entry`: no row where the file is unreadable or holds no object. -/
def catalogEntry (file : SchemaFile) (origin : CatalogSource) :
    Except PyException (Option CatalogEntry) :=
  match file.schema with
  | .ok (some (.obj fields)) => do
    let schema := Json.obj fields
    let description := schema.get "description"
    let required ← requiredOf (schema.get "required")
    let properties ← propertiesOf (schema.get "properties")
    return some {
      event := stem file.name
      package := origin.package
      module := origin.module
      description := if description.truthy then description else .str ""
      required
      properties
      schema
      source := (origin.root.joinpath (emitsDir ++ [file.name])).str }
  | .ok _ => .ok none
  | .error raised => .error raised

/-- `into.setdefault(row["event"], row)`: the first writer wins. -/
def Catalog.setdefault (into : Catalog) (row : CatalogEntry) : Catalog :=
  (into.insert? row).getD into

def scanFile (origin : CatalogSource) (into : Catalog) (file : SchemaFile) :
    Except PyException Catalog := do
  match ← catalogEntry file origin with
  | none => return into
  | some row => return into.setdefault row

/-- `_scan`. -/
def scan (disk : Disk) (into : Catalog) (origin : CatalogSource) : Except PyException Catalog := do
  let files ← disk origin.root
  let found := files.filter fun file => jsonSuffix.isSuffixOf file.name.toList
  (found.insertionSort fun a b => a.name ≤ b.name).foldlM (scanFile origin) into

def buildCatalog (sources : CatalogSources) (disk : Disk) : Except PyException Catalog :=
  sources.roots.foldlM (scan disk) Table.empty

/-- `catalog_event_names`, of the catalog that `event_catalog` returns. -/
def catalogEventNames (catalog : Catalog) : List String :=
  (catalog.rows.map (·.event)).insertionSort (· ≤ ·)

@[simp] theorem mem_catalogEventNames {catalog : Catalog} {name : String} :
    name ∈ catalogEventNames catalog ↔ ∃ entry ∈ catalog.rows, entry.event = name := by
  simp [catalogEventNames, List.mem_insertionSort]

/-! ## A package that ships one event -/

def shippedSources : CatalogSources := ⟨[⟨some "/srv/listings", "listings", "listings"⟩], []⟩

def shippedFile : SchemaFile := ⟨"listing.published.json", .ok (some (.obj []))⟩

def shippedEntry : CatalogEntry where
  event := "listing.published"
  package := "listings"
  module := "listings"
  description := .str ""
  required := []
  properties := []
  schema := .obj []
  source := "/srv/listings/schemas/emits/listing.published.json"

def emptyDisk : Disk := fun _ => .ok []

def shippedDisk : Disk := fun root =>
  .ok (if root = .ofString "/srv/listings" then [shippedFile] else [])

def shippedCatalog : Catalog := ⟨[shippedEntry], List.nodup_singleton _, List.nodup_singleton _⟩

theorem buildCatalog_shipped : buildCatalog shippedSources shippedDisk = .ok shippedCatalog := rfl

end Webhooks
