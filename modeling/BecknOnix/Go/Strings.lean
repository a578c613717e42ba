/-
  BecknOnix.Go.Strings

  The parts of Go's `strings`, `unicode`, `strconv`, `path` and `path/filepath` packages
  that the auth-header codec, the response encoder and the schema validator call. Go strings are modelled
  as their sequence of Unicode scalar values (`String` / `List Char`); positions are
  character positions, which the code only ever feeds back into slicing of the same
  string, so the byte/rune distinction never shows.

  `strings.Split` with a one-character separator is Batteries' `List.splitOn`.
-/
import Mathlib.Data.List.Basic

namespace BecknOnix.Go

/-! ## `unicode.IsSpace` and `strings.TrimSpace` -/

/-- `unicode.IsSpace`: the Latin-1 spaces plus the `White_Space` code points above
    U+00FF. -/
def isSpace (c : Char) : Bool :=
  let n := c.toNat
  n = 0x09 || n = 0x0A || n = 0x0B || n = 0x0C || n = 0x0D || n = 0x20 || n = 0x85 ||
  n = 0xA0 || n = 0x1680 || (0x2000 ≤ n && n ≤ 0x200A) || n = 0x2028 || n = 0x2029 ||
  n = 0x202F || n = 0x205F || n = 0x3000

/-- `strings.TrimSpace` on the character list: `TrimRightFunc (TrimLeftFunc s IsSpace)`. -/
def trimSpace (s : List Char) : List Char :=
  ((s.dropWhile isSpace).reverse.dropWhile isSpace).reverse

/-- The string neither starts nor ends with white space. -/
def NoEdgeSpace (s : List Char) : Prop :=
  s.head?.all (fun c => !isSpace c) ∧ s.getLast?.all (fun c => !isSpace c)

instance (s : List Char) : Decidable (NoEdgeSpace s) := inferInstanceAs (Decidable (_ ∧ _))

theorem dropWhile_isSpace_of_head {s : List Char} (h : s.head?.all (fun c => !isSpace c)) :
    s.dropWhile isSpace = s := by
  cases s with
  | nil => rfl
  | cons c t => exact List.dropWhile_cons_of_neg (by simpa using h)

/-- `TrimSpace` leaves a string with no white space at either end unchanged. -/
theorem trimSpace_eq_self {s : List Char} (h : NoEdgeSpace s) : trimSpace s = s := by
  have hl : (s.reverse).head? = s.getLast? := List.head?_reverse s
  rw [trimSpace, dropWhile_isSpace_of_head h.1,
    dropWhile_isSpace_of_head (by rw [hl]; exact h.2), List.reverse_reverse]

/-- Concatenation keeps both edges clean. -/
theorem NoEdgeSpace.append {a b : List Char} (ha : NoEdgeSpace a) (hb : NoEdgeSpace b) :
    NoEdgeSpace (a ++ b) := by
  constructor
  · cases a with
    | nil => exact hb.1
    | cons c t => exact ha.1
  · cases b using List.reverseRecOn with
    | nil => simpa using ha.2
    | append_singleton b c _ => simpa [← List.append_assoc] using hb.2

/-! ## `strings.Index` -/

/-- `strings.Index s sep`: the position of the first occurrence of `sep` in `s`;
    `none` stands for Go's `-1`. -/
def index : List Char → List Char → Option Nat
  | [], sep => if sep = [] then some 0 else none
  | c :: s, sep => if sep.isPrefixOf (c :: s) then some 0 else (index s sep).map (· + 1)

@[simp] theorem index_nil_right (s : List Char) : index s [] = some 0 := by
  cases s <;> rfl

/-- An occurrence inside a prefix that fits in the prefix is found in the longer
    string at the same place. -/
theorem index_append_left {p q sep : List Char} {i : Nat} (h : index p sep = some i)
    (hfit : i + sep.length ≤ p.length) : index (p ++ q) sep = some i := by
  induction p generalizing i with
  | nil =>
    rw [List.length_nil, Nat.le_zero, Nat.add_eq_zero] at hfit
    obtain ⟨rfl, hs⟩ := hfit
    simp [List.length_eq_zero.mp hs]
  | cons c p ih =>
    rw [List.cons_append]
    simp only [index] at h ⊢
    by_cases hp : sep.isPrefixOf (c :: p) = true
    · rw [if_pos hp] at h
      have hq : sep.isPrefixOf (c :: (p ++ q)) = true := List.isPrefixOf_iff_prefix.mpr
        ((List.isPrefixOf_iff_prefix.mp hp).trans (List.prefix_append _ q))
      rw [if_pos hq]
      exact h
    · rw [if_neg hp] at h
      have hq : ¬ sep.isPrefixOf (c :: (p ++ q)) = true := fun hq =>
        hp (List.isPrefixOf_iff_prefix.mpr (List.prefix_of_prefix_length_le
          (List.isPrefixOf_iff_prefix.mp hq) (List.prefix_append (c :: p) q)
          (by simp at hfit ⊢; omega)))
      rw [if_neg hq]
      obtain ⟨j, hj, rfl⟩ := Option.map_eq_some'.mp h
      rw [ih hj (by simp at hfit; omega)]
      rfl

/-- The first occurrence of a single character `c` is the first position holding it. -/
theorem index_singleton {a b : List Char} {c : Char} (h : c ∉ a) :
    index (a ++ c :: b) [c] = some a.length := by
  induction a with
  | nil => simp [index]
  | cons d a ih =>
    have hd : d ≠ c := fun e => h (e ▸ List.mem_cons_self d a)
    simp [index, hd.symm, ih (fun hc => h (List.mem_cons_of_mem d hc))]

/-! ## `strings.Split` with a one-character separator -/

/-- Splitting `a ++ sep :: b` at `sep`, when `a` holds no `sep`, yields `a` first. -/
theorem splitOn_append_cons {a b : List Char} {sep : Char} (h : sep ∉ a) :
    (a ++ sep :: b).splitOn sep = a :: b.splitOn sep :=
  List.splitOnP_first _ _ (fun x hx e => h (by simpa using (beq_iff_eq.mp e) ▸ hx)) sep
    (by simp) b

/-! ## `strconv.Atoi` -/

/-- The value of a nonempty run of decimal digits, `none` for anything else. -/
def decimalValue : List Char → Option Nat
  | [] => none
  | c :: cs => cs.foldl (fun acc d => acc.bind fun v =>
      if d.isDigit then some (10 * v + (d.toNat - 48)) else none)
      (if c.isDigit then some (c.toNat - 48) else none)

/-- `strconv.Atoi` with its error dropped (`code, _ := strconv.Atoi(s)`): an optional sign
    and decimal digits give their value, clamped to 64 bits as `ParseInt` clamps on a
    range error; any other string gives `0`. -/
def atoi (s : String) : Int :=
  let (neg, digits) : Bool × List Char := match s.data with
    | '-' :: ds => (true, ds)
    | '+' :: ds => (false, ds)
    | ds => (false, ds)
  match decimalValue digits with
  | none => 0
  | some v => max (-9223372036854775808) (min 9223372036854775807 (if neg then -(v : Int) else v))

/-! ## The schema validator's string and path helpers -/

/-- `strings.TrimSpace` on a `String`. -/
def trim (s : String) : String := ⟨trimSpace s.data⟩

/-- `strings.ToLower`: a string of ASCII characters (every byte below `utf8.RuneSelf`) has
    its letters `A`–`Z` lowered; any other string is `strings.Map(unicode.ToLower, s)`.
    `unicode.ToLower` reads the case tables of Go's `unicode` package, which are not part of
    the repository, so the rune mapping is the parameter `unicodeToLower`. -/
def toLower (unicodeToLower : Char → Char) (s : String) : String :=
  if s.data.all (·.toNat < 0x80) then ⟨s.data.map Char.toLower⟩ else ⟨s.data.map unicodeToLower⟩

/-- `strings.ReplaceAll(s, old, new)` for a one-character `old` and `new`. -/
def replaceAll (s : String) (old new : Char) : String :=
  ⟨s.data.map fun c => if c = old then new else c⟩

/-- `strings.TrimSuffix`. -/
def trimSuffix (s suffix : String) : String :=
  if suffix.data.isSuffixOf s.data then ⟨s.data.take (s.length - suffix.length)⟩ else s

/-- `path.Base`: the last element after stripping trailing slashes; `"."` for the empty
    path and `"/"` for a path of slashes only. -/
def pathBase (p : String) : String :=
  if p.data = [] then "."
  else
    let stripped := p.data.reverse.dropWhile (· = '/')
    let last := (stripped.takeWhile (· ≠ '/')).reverse
    if last = [] then "/" else ⟨last⟩

/-- `filepath.Ext`: the suffix from the last dot of the last path element, or `""`. -/
def ext (path : String) : String :=
  let r := path.data.reverse
  let tail := r.takeWhile fun c => c ≠ '/' ∧ c ≠ '.'
  if (r.drop tail.length).head? = some '.' then ⟨(r.take (tail.length + 1)).reverse⟩ else ""

example : pathBase "https://bpp.example.com/search" = "search" := by decide
example : pathBase "https://bpp.example.com/search?x=1" = "search?x=1" := by decide
example : ext "search.json" = ".json" ∧ ext "README" = "" := by decide

end BecknOnix.Go
