import Nourgomla.Library.Dictionary
import Nourgomla.Library.Integers

set_option autoImplicit false

/-! # URIs

What a program reads of a URI: the segments of its path and the parameters of its query, percent-decoded.
Decoding fails on a broken escape, and on bytes that are no UTF-8. A parameter that is given twice has its
last value. Texts that need no decoding are read as they stand (`uriDecode_of_plain`). -/

namespace Nourgomla

/-! ## Percent-decoding -/

/-- The bytes that are written, where all of them are. -/
def percentBytes (plusToSpace : Bool) : List Char → Option (List UInt8)
  | [] => some []
  | '%' :: high :: low :: cs => do
    let byte := 16 * (← hexDigit high) + (← hexDigit low)
    return byte.toUInt8 :: (← percentBytes plusToSpace cs)
  | '%' :: _ => none
  | c :: cs => do
    if c.toNat > 127 then none
    else
      let byte := if plusToSpace ∧ c = '+' then ' ' else c
      return byte.toNat.toUInt8 :: (← percentBytes plusToSpace cs)

/-- A byte order mark at the beginning is dropped. -/
def utf8Decode (bytes : List UInt8) : Option String :=
  (String.fromUTF8? ⟨bytes.toArray⟩).map fun text =>
    if text.toList.head? = some (Char.ofNat 0xFEFF) then (text.drop 1).toString else text

/-- A character that stands for itself. -/
def IsPlain (plusToSpace : Bool) (c : Char) : Prop :=
  c.toNat ≤ 127 ∧ c ≠ '%' ∧ ¬ (plusToSpace = true ∧ c = '+')

instance (plusToSpace : Bool) (c : Char) : Decidable (IsPlain plusToSpace c) :=
  inferInstanceAs (Decidable (_ ∧ _))

/-- `Uri.decodeComponent`, and `Uri.decodeQueryComponent` for which a plus is a space. -/
def uriDecode (plusToSpace : Bool) (cs : List Char) : Option String :=
  if cs.all (IsPlain plusToSpace ·) then some (String.ofList cs)
  else (percentBytes plusToSpace cs).bind utf8Decode

theorem uriDecode_of_plain {plusToSpace : Bool} {cs : List Char}
    (h : ∀ c ∈ cs, IsPlain plusToSpace c) :
    uriDecode plusToSpace cs = some (String.ofList cs) :=
  if_pos (by simpa using h)

/-! ## Path and query -/

/-- The path and the query of a URI as they are written; the query is empty if there is none. -/
structure Uri where
  path : List Char
  query : List Char
deriving DecidableEq

namespace Uri

/-- What comes after `scheme:` -/
def withoutScheme (cs : List Char) : List Char :=
  match cs.dropWhile (fun c => c ≠ ':' ∧ c ≠ '/') with
  | ':' :: rest => rest
  | _ => cs

/-- What comes after `//authority` -/
def withoutAuthority : List Char → List Char
  | '/' :: '/' :: rest => rest.dropWhile (· ≠ '/')
  | cs => cs

/-- Where `Uri.parse` finds the path and the query, in a text that it does not have to normalise. -/
def parse (text : String) : Uri :=
  let withQuery := text.toList.takeWhile (· ≠ '#')
  { path := withoutAuthority (withoutScheme (withQuery.takeWhile (· ≠ '?')))
    query := (withQuery.dropWhile (· ≠ '?')).drop 1 }

/-- Throws if a segment cannot be decoded. -/
def pathSegments (uri : Uri) : Option (List String) :=
  let path := if uri.path.head? = some '/' then uri.path.drop 1 else uri.path
  if path = [] then some [] else (path.splitOn '/').mapM (uriDecode false)

/-- One part of a query between ampersands; a part without a name is no parameter. -/
def parameter (part : List Char) : Option (Option (String × String)) :=
  let name := part.takeWhile (· ≠ '=')
  let value := (part.dropWhile (· ≠ '=')).drop 1
  if name = [] then some none else do
    return some (← uriDecode true name, ← uriDecode true value)

/-- Throws if a name or a value cannot be decoded. -/
def queryParameters (uri : Uri) : Option (Dictionary String String) := do
  let parts ← (uri.query.splitOn '&').mapM parameter
  return Dictionary.ofEntries (parts.filterMap id)

/-- A query of one parameter that needs no decoding. -/
theorem queryParameters_single {path name value : List Char} (hname : name ≠ [])
    (hnamePlain : ∀ c ∈ name, IsPlain true c ∧ c ≠ '&' ∧ c ≠ '=')
    (hvaluePlain : ∀ c ∈ value, IsPlain true c ∧ c ≠ '&') :
    (Uri.mk path (name ++ '=' :: value)).queryParameters
      = some (Dictionary.empty.assign (String.ofList name) (String.ofList value)) := by
  have hsplit : (name ++ '=' :: value).splitOn '&' = [name ++ '=' :: value] := by
    rw [List.splitOn_eq_splitOnP]
    refine List.splitOnP_eq_singleton fun c hc => ?_
    rcases List.mem_append.1 hc with hc | hc
    · simpa using (hnamePlain c hc).2.1
    · rcases List.mem_cons.1 hc with rfl | hc
      · rfl
      · simpa using (hvaluePlain c hc).2
  have htake : (name ++ '=' :: value).takeWhile (· ≠ '=') = name := by
    rw [List.takeWhile_append_of_pos fun c hc => by simpa using (hnamePlain c hc).2.2]
    simp
  have hdrop : (name ++ '=' :: value).dropWhile (· ≠ '=') = '=' :: value := by
    rw [List.dropWhile_append_of_pos fun c hc => by simpa using (hnamePlain c hc).2.2]
    simp
  have hpart : parameter (name ++ '=' :: value)
      = some (some (String.ofList name, String.ofList value)) := by
    rw [parameter, htake, hdrop, if_neg hname, uriDecode_of_plain fun c hc => (hnamePlain c hc).1]
    simp only [List.drop_one, List.tail_cons]
    rw [uriDecode_of_plain fun c hc => (hvaluePlain c hc).1]
    rfl
  simp [queryParameters, hsplit, hpart, Dictionary.ofEntries]

end Uri
end Nourgomla
