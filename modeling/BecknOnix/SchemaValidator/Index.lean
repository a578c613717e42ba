/-
  BecknOnix.SchemaValidator.Index

  The schema validator plugin's index of schema files and the lookup `Validate` makes in
  it.

  `New` refuses a nil config and otherwise builds the index with `initialise`, which
  walks `SchemaDir` depth first, in `os.ReadDir` order, and files every
  `.json` file under the key `domain_version_schema` built from the first three
  components of its path relative to `SchemaDir`; a later file with the same key
  replaces an earlier one. `Validate` builds the key of a request from the payload's
  `context` and the last element of the URL, and compiles the file filed under it.

  A file is identified by the components of its path relative to `SchemaDir` (the
  code stores `filepath.Join(dir, name)`, which these determine). `selectSchema` is
  `Validate` up to the file it selects; the whole of `Validate`, with the JSON decoding
  and the compiled schema's own validation, is in `BecknOnix.SchemaValidator.Validate`.
  The lookup lowers the domain with `strings.ToLower`, whose mapping of characters beyond
  ASCII is the parameter `unicodeToLower` (`BecknOnix.Go.toLower`).
-/
import BecknOnix.Go.Errors
import BecknOnix.Go.Strings

namespace BecknOnix.SchemaValidator

open BecknOnix.Go

/-! ## The schema directory -/

/-- An entry of a directory listing. A directory carries the error `os.ReadDir` fails
    on it with, if it does, and otherwise its entries in `ReadDir` order (sorted by
    name). -/
inductive Entry where
  | file (name : String)
  | dir (name : String) (readErr : Option String) (entries : List Entry)
  deriving Repr

/-- `schemaFiles`: schema key ↦ the file filed under it. -/
abbrev SchemaFiles := String → Option (List String)

/-- The key `initialise` builds from a file's path relative to `SchemaDir`, or its error. -/
def uniqueKey (parts : List String) : Except String String :=
  match parts with
  | p0 :: p1 :: p2 :: _ =>
    let domain := trim p0
    let version := trim p1
    let schemaFileName := trimSuffix (trim p2) ".json"
    if domain = "" ∨ version = "" ∨ schemaFileName = "" then
      .error ("invalid schema file structure, one or more components are empty. Relative path: " ++
        "/".intercalate parts)
    else .ok (domain ++ "_" ++ version ++ "_" ++ schemaFileName)
  | _ =>
    .error ("invalid schema file structure, expected domain/version/schema.json but got: " ++
      "/".intercalate parts)

/-- `v.schemaFiles[key] = path`. -/
def SchemaFiles.insert (m : SchemaFiles) (key : String) (path : List String) : SchemaFiles :=
  fun k => if k = key then some path else m k

/-- The file branch of `processDir`'s loop. -/
def indexFile (parts : List String) (m : SchemaFiles) : Except String SchemaFiles :=
  match uniqueKey parts with
  | .error err => .error err
  | .ok key => .ok (m.insert key parts)

mutual
/-- One entry of `processDir`'s loop, in the directory at relative path `rel`: a
    directory is read and walked (`processDir(entryPath)`), a `.json` file is indexed,
    anything else is skipped. -/
def processEntry (rel : List String) : Entry → SchemaFiles → Except String SchemaFiles
  | .file name, m => if ext name = ".json" then indexFile (rel ++ [name]) m else .ok m
  | .dir name readErr entries, m =>
    match readErr with
    | some err => .error ("failed to read directory: " ++ err)
    | none => processEntries (rel ++ [name]) entries m

/-- `processDir`'s loop over the entries, stopping at the first error. -/
def processEntries (rel : List String) : List Entry → SchemaFiles → Except String SchemaFiles
  | [], m => .ok m
  | e :: es, m =>
    match processEntry rel e m with
    | .error err => .error err
    | .ok m => processEntries rel es m
end

/-- `processDir` on the directory at relative path `rel`. -/
def processDir (rel : List String) (readErr : Option String) (entries : List Entry)
    (m : SchemaFiles) : Except String SchemaFiles :=
  match readErr with
  | some err => .error ("failed to read directory: " ++ err)
  | none => processEntries rel entries m

/-- `schemaValidator.initialise`, on what `os.Stat(SchemaDir)` finds: nothing, a file, or
    a directory. The index starts empty, as `New` makes it. -/
def initialise (schemaDir : String) (root : Option Entry) : Except String SchemaFiles :=
  match root with
  | none => .error ("schema directory does not exist: " ++ schemaDir)
  | some (.file _) => .error ("provided schema path is not a directory: " ++ schemaDir)
  | some (.dir _ readErr entries) =>
    match processDir [] readErr entries (fun _ => none) with
    | .error err => .error ("failed to read schema directory: " ++ err)
    | .ok files => .ok files

/-- `New`, on its config's `SchemaDir` (`none` for a nil config) and what `os.Stat` finds
    there: the index `initialise` builds, or its error. -/
def new (config : Option String) (root : Option Entry) : Except String SchemaFiles :=
  match config with
  | none => .error "config cannot be nil"
  | some schemaDir =>
    match initialise schemaDir root with
    | .error err => .error ("failed to initialise schemaValidator: " ++ err)
    | .ok files => .ok files

/-! ## The lookup of `Validate` -/

/-- The `context` fields of the payload that `Validate` reads. -/
structure PayloadContext where
  domain : String
  version : String := ""
  coreVersion : String := ""
  deriving DecidableEq, Repr

section Lookup

-- The rune mapping of `unicode.ToLower`, which `strings.ToLower` applies to a domain that
-- is not ASCII.
variable (unicodeToLower : Char → Char)

/-- `Validate`'s `domain`: lower case, with `:` replaced by `_`. -/
def requestDomain (c : PayloadContext) : String :=
  replaceAll (toLower unicodeToLower c.domain) ':' '_'

/-- `Validate`'s `schemaFileName`, once the context has a domain and a version: the
    version falls back to `core_version`, and the endpoint is `path.Base(url.String())`. -/
def schemaKey (c : PayloadContext) (url : String) : String :=
  let version := "v" ++ (if c.version = "" then c.coreVersion else c.version)
  requestDomain unicodeToLower c ++ "_" ++ version ++ "_" ++ pathBase url

/-- The checks of `Validate` on the context, then its key. -/
def schemaFileName (c : PayloadContext) (url : String) : Except GoError String :=
  if c.domain = "" then .error (.badReq (.plain "missing field Domain in context"))
  else if c.version = "" ∧ c.coreVersion = "" then
    .error (.badReq (.plain "missing field Version or CoreVersion in context"))
  else .ok (schemaKey unicodeToLower c url)

/-- The file `Validate` has `getCompiledSchema` compile for a request (or take from the
    cache, which holds only files compiled under their key), or its bad-request error. -/
def selectSchema (files : SchemaFiles) (c : PayloadContext) (url : String) :
    Except GoError (List String) :=
  match schemaFileName unicodeToLower c url with
  | .error err => .error err
  | .ok key =>
    match files key with
    | none => .error (.badReq (.plain ("schema not found for domain: " ++ requestDomain unicodeToLower c)))
    | some path => .ok path

end Lookup

end BecknOnix.SchemaValidator
