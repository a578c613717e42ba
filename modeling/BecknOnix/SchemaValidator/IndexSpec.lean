/-
  BecknOnix.SchemaValidator.IndexSpec

  What the index `initialise` builds, and so which file `Validate` selects.

  The abstract index is the list of `.json` files in walk order (`jsonFilesOf`), each
  key standing for the last file filed under it (`lastWithKey`). `processEntries_ok`
  shows the walk refines it: when it succeeds, every `.json` file had a valid key and
  the map it built is the fold of the file list (`fileAll`), whose lookups are
  `lastWithKey` (`fileAll_apply`). `selectSchema_last_file` puts this together with
  the key `Validate` builds. `initialise_ok_iff` says which directories the walk accepts:
  it fails on the first unreadable directory or `.json` file without a key, and on
  nothing else.

  Keys are not injective on paths: `_` joins the components, and only the first three
  components of a path count.
-/
import BecknOnix.SchemaValidator.Index

namespace BecknOnix.SchemaValidator

open BecknOnix.Go

/-! ## The abstract index -/

mutual
/-- The `.json` files under an entry at relative path `rel`, in walk order. -/
def Entry.jsonFiles (rel : List String) : Entry → List (List String)
  | .file name => if ext name = ".json" then [rel ++ [name]] else []
  | .dir name _ entries => jsonFilesOf (rel ++ [name]) entries

/-- The `.json` files under a list of entries, in walk order. -/
def jsonFilesOf (rel : List String) : List Entry → List (List String)
  | [] => []
  | e :: es => e.jsonFiles rel ++ jsonFilesOf rel es
end

/-- The key a file is filed under, if its path is valid. -/
def keyOf (parts : List String) : Option String := (uniqueKey parts).toOption

/-- The index as meant: a key stands for the last file, in walk order, filed under it. -/
def lastWithKey (files : List (List String)) (k : String) : Option (List String) :=
  files.reverse.find? fun p => keyOf p = some k

/-- Filing the files one after the other, as the walk does. -/
def fileAll (files : List (List String)) (m : SchemaFiles) : SchemaFiles :=
  files.foldl (fun m p => match keyOf p with | some k => m.insert k p | none => m) m

@[simp] theorem fileAll_nil (m : SchemaFiles) : fileAll [] m = m := rfl

theorem fileAll_append (xs ys : List (List String)) (m : SchemaFiles) :
    fileAll (xs ++ ys) m = fileAll ys (fileAll xs m) := List.foldl_append _ _ _ _

/-- A lookup in the filed map finds the last file filed under the key, or what was
    there before. -/
theorem fileAll_apply (files : List (List String)) (m : SchemaFiles) (k : String) :
    fileAll files m k = (lastWithKey files k).or (m k) := by
  induction files generalizing m with
  | nil => rfl
  | cons p ps ih =>
    simp only [fileAll, List.foldl_cons] at ih ⊢
    rw [ih]
    simp only [lastWithKey, List.reverse_cons, List.find?_append]
    cases hk : keyOf p with
    | none => simp [hk]
    | some k' =>
      by_cases hkk : k = k'
      · subst hkk
        cases (ps.reverse.find? fun p => keyOf p = some k) <;> simp [hk, SchemaFiles.insert]
      · cases (ps.reverse.find? fun p => keyOf p = some k) <;>
          simp [hk, SchemaFiles.insert, hkk, Ne.symm hkk]

/-! ## The walk refines the abstract index -/

theorem indexFile_ok {parts : List String} {m m' : SchemaFiles} (h : indexFile parts m = .ok m') :
    (keyOf parts).isSome ∧ m' = fileAll [parts] m := by
  unfold indexFile at h
  cases hk : uniqueKey parts with
  | error err => simp [hk] at h
  | ok key =>
    simp only [hk, Except.ok.injEq] at h
    simp [keyOf, hk, fileAll, h, Except.toOption]

mutual
/-- One entry of the walk files exactly its `.json` files, each under a valid key. -/
theorem processEntry_ok : ∀ {rel : List String} {e : Entry} {m m' : SchemaFiles},
    processEntry rel e m = .ok m' →
      (∀ p ∈ e.jsonFiles rel, (keyOf p).isSome) ∧ m' = fileAll (e.jsonFiles rel) m
  | rel, .file name, m, m', h => by
    simp only [processEntry] at h
    simp only [Entry.jsonFiles]
    split at h
    · rename_i hx
      obtain ⟨hk, rfl⟩ := indexFile_ok h
      simp [hx, hk]
    · rename_i hx
      simp only [Except.ok.injEq] at h
      simp [hx, h]
  | rel, .dir name readErr entries, m, m', h => by
    simp only [processEntry] at h
    split at h
    · cases h
    · exact processEntries_ok h

/-- The loop files exactly the `.json` files of its entries, in walk order. -/
theorem processEntries_ok : ∀ {rel : List String} {es : List Entry} {m m' : SchemaFiles},
    processEntries rel es m = .ok m' →
      (∀ p ∈ jsonFilesOf rel es, (keyOf p).isSome) ∧ m' = fileAll (jsonFilesOf rel es) m
  | rel, [], m, m', h => by
    simp only [processEntries, Except.ok.injEq] at h
    simp [jsonFilesOf, h]
  | rel, e :: es, m, m', h => by
    simp only [processEntries] at h
    split at h
    · cases h
    · rename_i m₁ h₁
      obtain ⟨hk₁, rfl⟩ := processEntry_ok h₁
      obtain ⟨hk₂, rfl⟩ := processEntries_ok h
      refine ⟨fun p hp => ?_, by rw [jsonFilesOf, fileAll_append]⟩
      rcases List.mem_append.mp hp with hp | hp
      · exact hk₁ p hp
      · exact hk₂ p hp
end

/-- What `initialise` accepts: every `.json` file under the directory has a valid key,
    and the index is the abstract one. -/
theorem initialise_ok {schemaDir name : String} {readErr : Option String} {entries : List Entry}
    {files : SchemaFiles} (h : initialise schemaDir (some (.dir name readErr entries)) = .ok files) :
    (∀ p ∈ jsonFilesOf [] entries, (keyOf p).isSome) ∧
      ∀ k, files k = lastWithKey (jsonFilesOf [] entries) k := by
  simp only [initialise, processDir] at h
  cases readErr with
  | some err => simp at h
  | none =>
    cases hp : processEntries [] entries (fun _ => none) with
    | error err => simp [hp] at h
    | ok files' =>
      simp only [hp, Except.ok.injEq] at h
      subst h
      obtain ⟨hk, rfl⟩ := processEntries_ok hp
      exact ⟨hk, fun k => by rw [fileAll_apply]; cases lastWithKey _ k <;> rfl⟩

/-! ## What `initialise` accepts -/

mutual
/-- Every directory at or under an entry can be read. -/
def Entry.readable : Entry → Bool
  | .file _ => true
  | .dir _ readErr entries => readErr.isNone && readableAll entries

/-- Every directory at or under a list of entries can be read. -/
def readableAll : List Entry → Bool
  | [] => true
  | e :: es => e.readable && readableAll es
end

/-- The file branch of the walk succeeds exactly when the path has a key. -/
theorem indexFile_isOk_iff (parts : List String) (m : SchemaFiles) :
    (∃ m', indexFile parts m = .ok m') ↔ (keyOf parts).isSome := by
  unfold indexFile keyOf
  cases uniqueKey parts with
  | error err => exact iff_of_false (fun ⟨_, h⟩ => nomatch h) nofun
  | ok key => exact iff_of_true ⟨_, rfl⟩ rfl

mutual
/-- One entry of the walk succeeds exactly when every directory under it can be read and
    every `.json` file under it has a key. -/
theorem processEntry_isOk_iff : ∀ {rel : List String} {e : Entry} {m : SchemaFiles},
    (∃ m', processEntry rel e m = .ok m') ↔ e.readable ∧ ∀ p ∈ e.jsonFiles rel, (keyOf p).isSome
  | rel, .file name, m => by
    simp only [processEntry, Entry.readable, Entry.jsonFiles, true_and]
    split_ifs with hx
    · rw [indexFile_isOk_iff]; simp
    · exact iff_of_true ⟨_, rfl⟩ nofun
  | rel, .dir name readErr entries, m => by
    simp only [processEntry, Entry.readable, Entry.jsonFiles, Bool.and_eq_true]
    cases readErr with
    | some err => exact iff_of_false (fun ⟨_, h⟩ => nomatch h) fun ⟨⟨h, _⟩, _⟩ => nomatch h
    | none => rw [processEntries_isOk_iff]; simp only [Option.isNone_none, true_and, and_assoc]
/-- The loop succeeds exactly when every directory under its entries can be read and every
    `.json` file under them has a key. -/
theorem processEntries_isOk_iff : ∀ {rel : List String} {es : List Entry} {m : SchemaFiles},
    (∃ m', processEntries rel es m = .ok m') ↔ readableAll es ∧ ∀ p ∈ jsonFilesOf rel es, (keyOf p).isSome
  | rel, [], m => iff_of_true ⟨_, rfl⟩ ⟨rfl, nofun⟩
  | rel, e :: es, m => by
    simp only [processEntries, readableAll, jsonFilesOf, Bool.and_eq_true, List.mem_append]
    cases h : processEntry rel e m with
    | error err =>
      refine iff_of_false (fun ⟨_, h'⟩ => nomatch h') fun ⟨⟨he, _⟩, hk⟩ => ?_
      obtain ⟨_, h'⟩ := processEntry_isOk_iff.mpr ⟨he, fun p hp => hk p (.inl hp)⟩
      rw [h] at h'; cases h'
    | ok m₁ =>
      rw [processEntries_isOk_iff]
      have he := processEntry_isOk_iff.mp ⟨m₁, h⟩
      constructor
      · rintro ⟨hr, hk⟩; exact ⟨⟨he.1, hr⟩, fun p hp => hp.elim (he.2 p) (hk p)⟩
      · rintro ⟨⟨-, hr⟩, hk⟩; exact ⟨hr, fun p hp => hk p (.inr hp)⟩
end

/-- A path has a key when it has at least three components, the domain and the version
    not blank, and the third, trimmed of `.json`, not blank. -/
theorem keyOf_isSome_iff {parts : List String} :
    (keyOf parts).isSome ↔ ∃ d v f rest, parts = d :: v :: f :: rest ∧
      trim d ≠ "" ∧ trim v ≠ "" ∧ trimSuffix (trim f) ".json" ≠ "" := by
  unfold keyOf uniqueKey
  match parts with
  | d :: v :: f :: rest =>
    dsimp only
    split_ifs with h
    · refine iff_of_false nofun fun ⟨_, _, _, _, he, hd, hv, hf⟩ => ?_
      obtain ⟨rfl, rfl, rfl, rfl⟩ : d = _ ∧ v = _ ∧ f = _ ∧ rest = _ := by simpa using he
      exact h.elim hd (·.elim hv hf)
    · push_neg at h
      exact iff_of_true rfl ⟨d, v, f, rest, rfl, h⟩
  | [] | [_] | [_, _] => exact iff_of_false nofun fun ⟨_, _, _, _, he, _⟩ => nomatch he

/-- What `initialise` accepts: `SchemaDir` is a directory, every directory under it can be
    read, and every `.json` file under it lies at least two directories deep, under a
    domain and a version whose names are not blank, with a third path component that is not
    blank once trimmed of `.json`. -/
theorem initialise_ok_iff {schemaDir : String} {root : Option Entry} :
    (∃ files, initialise schemaDir root = .ok files) ↔
      ∃ name entries, root = some (.dir name none entries) ∧ readableAll entries ∧
        ∀ p ∈ jsonFilesOf [] entries, ∃ d v f rest, p = d :: v :: f :: rest ∧
          trim d ≠ "" ∧ trim v ≠ "" ∧ trimSuffix (trim f) ".json" ≠ "" := by
  simp only [← keyOf_isSome_iff]
  match root with
  | none => exact iff_of_false (fun ⟨_, h⟩ => nomatch h) fun ⟨_, _, h, _⟩ => nomatch h
  | some (.file _) => exact iff_of_false (fun ⟨_, h⟩ => nomatch h) fun ⟨_, _, h, _⟩ => nomatch h
  | some (.dir name (some err) entries) =>
    exact iff_of_false (fun ⟨_, h⟩ => nomatch h) fun ⟨_, _, h, _⟩ => nomatch h
  | some (.dir name none entries) =>
    refine (?_ : _ ↔ readableAll entries ∧ ∀ p ∈ jsonFilesOf [] entries, (keyOf p).isSome).trans
      ⟨fun h => ⟨name, entries, rfl, h⟩, fun ⟨_, _, h, hr⟩ => by cases h; exact hr⟩
    rw [← processEntries_isOk_iff (m := fun _ => none)]
    unfold initialise processDir
    dsimp only
    cases processEntries [] entries (fun _ => none) with
    | error err => exact iff_of_false (fun ⟨_, h⟩ => nomatch h) fun ⟨_, h⟩ => nomatch h
    | ok files => exact iff_of_true ⟨_, rfl⟩ ⟨_, rfl⟩

/-- What `New` accepts: a config, whose `SchemaDir` is a directory, every directory under
    it readable, and every `.json` file under it at least two directories deep, under a
    domain and a version whose names are not blank, with a third path component that is not
    blank once trimmed of `.json`. -/
theorem new_ok_iff {config : Option String} {root : Option Entry} :
    (∃ files, new config root = .ok files) ↔
      ∃ schemaDir name entries, config = some schemaDir ∧ root = some (.dir name none entries) ∧
        readableAll entries ∧ ∀ p ∈ jsonFilesOf [] entries, ∃ d v f rest, p = d :: v :: f :: rest ∧
          trim d ≠ "" ∧ trim v ≠ "" ∧ trimSuffix (trim f) ".json" ≠ "" := by
  cases config with
  | none => exact iff_of_false (fun ⟨_, h⟩ => nomatch h) fun ⟨_, _, _, h, _⟩ => nomatch h
  | some schemaDir =>
    have hinit : (∃ files, new (some schemaDir) root = .ok files) ↔
        ∃ files, initialise schemaDir root = .ok files := by
      unfold new
      dsimp only
      cases initialise schemaDir root with
      | error err => exact iff_of_false (fun ⟨_, h⟩ => nomatch h) fun ⟨_, h⟩ => nomatch h
      | ok files => exact iff_of_true ⟨_, rfl⟩ ⟨_, rfl⟩
    rw [hinit, initialise_ok_iff]
    exact ⟨fun ⟨n, e, h⟩ => ⟨schemaDir, n, e, rfl, h⟩, fun ⟨_, n, e, _, h⟩ => ⟨n, e, h⟩⟩

/-! ## The file `Validate` selects -/

section Select

variable (unicodeToLower : Char → Char)

/-- A context with a domain and a version passes `Validate`'s checks. -/
theorem schemaFileName_ok {c : PayloadContext} (url : String) (hd : c.domain ≠ "")
    (hv : c.version ≠ "" ∨ c.coreVersion ≠ "") :
    schemaFileName unicodeToLower c url = .ok (schemaKey unicodeToLower c url) := by
  unfold schemaFileName
  rw [if_neg hd, if_neg fun ⟨h₁, h₂⟩ => hv.elim (· h₁) (· h₂)]

/-- For a schema directory `initialise` accepts, and a request whose context has a
    domain and a version, `Validate` selects the last `.json` file, in walk order,
    filed under the request's key, and answers "schema not found" when there is none. -/
theorem selectSchema_last_file {schemaDir name : String} {readErr : Option String}
    {entries : List Entry} {files : SchemaFiles}
    (hinit : initialise schemaDir (some (.dir name readErr entries)) = .ok files)
    {c : PayloadContext} (url : String) (hd : c.domain ≠ "")
    (hv : c.version ≠ "" ∨ c.coreVersion ≠ "") :
    (∀ p ∈ jsonFilesOf [] entries, (keyOf p).isSome) ∧
      selectSchema unicodeToLower files c url =
        match lastWithKey (jsonFilesOf [] entries) (schemaKey unicodeToLower c url) with
        | none => .error (.badReq (.plain ("schema not found for domain: " ++ requestDomain unicodeToLower c)))
        | some path => .ok path := by
  obtain ⟨hk, hfiles⟩ := initialise_ok hinit
  refine ⟨hk, ?_⟩
  cases hl : lastWithKey (jsonFilesOf [] entries) (schemaKey unicodeToLower c url) <;>
    simp [selectSchema, schemaFileName_ok unicodeToLower url hd hv, hfiles, hl]

/-- `ondc_trv10/v2.0.0/search.json`. -/
def trv10Entries : List Entry := [.dir "ondc_trv10" none [.dir "v2.0.0" none [.file "search.json"]]]

example : ∃ files, initialise "schemas" (some (.dir "schemas" none trv10Entries)) = .ok files ∧
    selectSchema unicodeToLower files { domain := "ONDC:TRV10", version := "2.0.0" }
      "https://bpp.example.com/search" =
      .ok ["ondc_trv10", "v2.0.0", "search.json"] :=
  ⟨_, rfl, rfl⟩

/-- `a/v1_v2/x.json` and `a_v1/v2/x.json`, in `ReadDir` order. -/
def collidingEntries : List Entry :=
  [.dir "a" none [.dir "v1_v2" none [.file "x.json"]], .dir "a_v1" none [.dir "v2" none [.file "x.json"]]]

/-- Two files, one key: `initialise` accepts both, and a request of domain `a`, version
    `1_v2` and endpoint `x`, which names `a/v1_v2/x.json`, selects `a_v1/v2/x.json`. -/
theorem initialise_collision_shadows :
    jsonFilesOf [] collidingEntries = [["a", "v1_v2", "x.json"], ["a_v1", "v2", "x.json"]] ∧
      ∃ files, initialise "schemas" (some (.dir "schemas" none collidingEntries)) = .ok files ∧
        selectSchema unicodeToLower files { domain := "a", version := "1_v2" } "https://bpp.example.com/x" =
          .ok ["a_v1", "v2", "x.json"] :=
  ⟨by decide, _, rfl, rfl⟩

end Select

end BecknOnix.SchemaValidator
