/-
  BecknOnix.Handler.AuthHeader

  The auth-header codec of `step.go`: `signStep.generateAuthHeader` builds the
  `Signature` header from its template, `parseHeader` finds the first `keyId="`, cuts
  at the next quote, trims, and splits on `|` into exactly three components.

  The round trip: every header the builder produces for a subscriber id and a key id
  that contain no `|` and no `"` and no white space at either end parses back to that
  pair and `ed25519`, whatever the timestamps and the signature hold, quotes and
  `keyId="` included (the parser only ever looks at the first `keyId="`).
-/
import BecknOnix.Go.Errors

namespace BecknOnix.Handler

open BecknOnix.Go

/-- `signStep.generateAuthHeader`: the `Sprintf` template of the `Signature` header. -/
def generateAuthHeader (subID keyID : String) (createdAt validTill : Int) (signature : String) :
    String :=
  "Signature keyId=\"" ++ subID ++ "|" ++ keyID ++ "|ed25519\",algorithm=\"ed25519\",created=\"" ++
    toString createdAt ++ "\",expires=\"" ++ toString validTill ++
    "\",headers=\"(created) (expires) digest\",signature=\"" ++ signature ++ "\""

/-- `authHeader`: the components of the `keyId` parameter. -/
structure AuthHeader where
  subscriberID : String
  uniqueID : String
  algorithm : String
  deriving DecidableEq, Repr

/-- `const keyIdPrefix`. -/
def keyIdPrefix : List Char := "keyId=\"".data

/-- The first half of `parseHeader`: the trimmed text between the first `keyId="` and
    the next quote, or `""` when either is missing. -/
def keyIDPart (header : List Char) : List Char :=
  match index header keyIdPrefix with
  | none => []
  | some start =>
    let rest := header.drop (start + keyIdPrefix.length)
    match index rest ['"'] with
    | none => []
    | some stop => trimSpace (rest.take stop)

/-- `parseHeader`. -/
def parseHeader (header : String) : Except GoError AuthHeader :=
  let part := keyIDPart header.data
  if part = [] then .error (.plain "keyId parameter not found in Authorization header")
  else
    match part.splitOn '|' with
    | [sub, uid, alg] => .ok ⟨⟨trimSpace sub⟩, ⟨trimSpace uid⟩, ⟨trimSpace alg⟩⟩
    | comps => .error (.plain ("keyId parameter has incorrect format, expected 3 components " ++
        "separated by \x27|\x27, got " ++ toString comps.length ++ " for \x27" ++ ⟨part⟩ ++ "\x27"))

/-! ## The template, seen from the parser -/

/-- The text of the template before the subscriber id. -/
def headerLead : List Char := "Signature keyId=\"".data

/-- The built header is the lead, the quoted key id, a quote and the rest. -/
theorem generateAuthHeader_data (sub kid sig : String) (c e : Int) :
    (generateAuthHeader sub kid c e sig).data =
      headerLead ++ (sub.data ++ '|' :: (kid.data ++ "|ed25519".data)) ++ '"' ::
        (",algorithm=\"ed25519\",created=\"" ++ toString c ++ "\",expires=\"" ++ toString e ++
          "\",headers=\"(created) (expires) digest\",signature=\"" ++ sig ++ "\"").data := by
  simp [generateAuthHeader, headerLead]

/-- Behind the lead, the parser reads up to the first quote and trims. -/
theorem keyIDPart_lead {part tail : List Char} (h : '"' ∉ part) :
    keyIDPart (headerLead ++ part ++ '"' :: tail) = trimSpace part := by
  have hlead : index headerLead keyIdPrefix = some 10 := by decide
  rw [keyIDPart, List.append_assoc, index_append_left hlead (by decide)]
  have hdrop : (headerLead ++ (part ++ '"' :: tail)).drop (10 + keyIdPrefix.length) =
      part ++ '"' :: tail := List.drop_left' (by decide)
  simp only [hdrop, index_singleton h, List.take_left']

/-- A key-id component the parser gives back unchanged: no `|`, no `"`, no white space at
    either end. -/
def KeyIdSafe (s : String) : Prop := '|' ∉ s.data ∧ '"' ∉ s.data ∧ NoEdgeSpace s.data

instance (s : String) : Decidable (KeyIdSafe s) := inferInstanceAs (Decidable (_ ∧ _ ∧ _))

/-- The auth-header round trip: `parseHeader` recovers the subscriber id, the key id
    and the algorithm from every header `generateAuthHeader` builds. -/
theorem parseHeader_generateAuthHeader {sub kid : String} (c e : Int) (sig : String)
    (hsub : KeyIdSafe sub) (hkid : KeyIdSafe kid) :
    parseHeader (generateAuthHeader sub kid c e sig) = .ok ⟨sub, kid, "ed25519"⟩ := by
  obtain ⟨hs1, hs2, hs3⟩ := hsub
  obtain ⟨hk1, hk2, hk3⟩ := hkid
  have hquote : '"' ∉ sub.data ++ '|' :: (kid.data ++ "|ed25519".data) := by simp [*]
  have hedge : NoEdgeSpace (sub.data ++ '|' :: (kid.data ++ "|ed25519".data)) :=
    hs3.append ((show NoEdgeSpace ['|'] by decide).append (hk3.append (by decide)))
  have hsplit : (sub.data ++ '|' :: (kid.data ++ "|ed25519".data)).splitOn '|' =
      [sub.data, kid.data, "ed25519".data] := by
    rw [splitOn_append_cons hs1, splitOn_append_cons hk1]
    rfl
  have hpart : keyIDPart (generateAuthHeader sub kid c e sig).data =
      sub.data ++ '|' :: (kid.data ++ "|ed25519".data) := by
    rw [generateAuthHeader_data, keyIDPart_lead hquote, trimSpace_eq_self hedge]
  have halg : trimSpace "ed25519".data = "ed25519".data := by decide
  simp only [parseHeader, hpart, hsplit, trimSpace_eq_self hs3, trimSpace_eq_self hk3, halg]
  rw [if_neg (by simp)]

end BecknOnix.Handler
