import Mathlib.Data.List.Induction
import Nourgomla.Library.Dart

set_option autoImplicit false

/-! # JSON as text

`jsonEncode` and `jsonDecode`. How a number is written and read is left to the platform: a `NumberText`. What is
written is read back (`jsonDecode_jsonEncode`), for every value whose objects have distinct keys and whose numbers
are written in a way that is read back. -/

namespace Nourgomla

namespace JsonText

def quote : Char := Char.ofNat 34
def backslash : Char := Char.ofNat 92
def openBrace : Char := Char.ofNat 123
def closeBrace : Char := Char.ofNat 125

/-! ## Strings -/

/-- The letter after the backslash, of a character that has a short escape. -/
def shortEscapes : List (Char × Char) :=
  [(quote, quote), (backslash, backslash), (Char.ofNat 8, 'b'), (Char.ofNat 9, 't'), (Char.ofNat 10, 'n'),
    (Char.ofNat 12, 'f'), (Char.ofNat 13, 'r')]

def escape (c : Char) : List Char :=
  match shortEscapes.lookup c with
  | some letter => [backslash, letter]
  | none =>
    if c.toNat < 32 then [backslash, 'u', '0', '0', Nat.digitChar (c.toNat / 16), Nat.digitChar (c.toNat % 16)]
    else [c]

def printString (s : String) : List Char := quote :: (s.toList.flatMap escape ++ [quote])

def hexDigit (c : Char) : Option Nat :=
  if '0' ≤ c ∧ c ≤ '9' then some (c.toNat - 48)
  else if 'a' ≤ c ∧ c ≤ 'f' then some (c.toNat - 87)
  else if 'A' ≤ c ∧ c ≤ 'F' then some (c.toNat - 55)
  else none

/-- The character of four hexadecimal digits. Halves of surrogate pairs are not characters. -/
def hexChar (a b c d : Char) : Option Char := do
  let n := 4096 * (← hexDigit a) + 256 * (← hexDigit b) + 16 * (← hexDigit c) + (← hexDigit d)
  if n.isValidChar then some (Char.ofNat n) else none

/-- The character that a letter after a backslash stands for. -/
def unescape (letter : Char) : Option Char :=
  if letter = '/' then some '/' else (shortEscapes.find? (·.2 = letter)).map (·.1)

/-- A string up to its closing quote, and what follows. -/
def parseString : List Char → Option (List Char × List Char)
  | [] => none
  | c :: cs =>
    if c = quote then some ([], cs)
    else if c = backslash then
      match cs with
      | 'u' :: a :: b :: c :: d :: cs => do
        let char ← hexChar a b c d
        let (s, rest) ← parseString cs
        return (char :: s, rest)
      | letter :: cs => do
        let char ← unescape letter
        let (s, rest) ← parseString cs
        return (char :: s, rest)
      | [] => none
    else if c.toNat < 32 then none
    else do
      let (s, rest) ← parseString cs
      return (c :: s, rest)

theorem parseString_quote (rest : List Char) : parseString (quote :: rest) = some ([], rest) := by
  rw [parseString.eq_def]
  exact if_pos rfl

theorem parseString_letter {c letter : Char} (hletter : letter ≠ 'u') (hc : unescape letter = some c)
    (rest : List Char) :
    parseString (backslash :: letter :: rest) = (parseString rest).map fun r => (c :: r.1, r.2) := by
  rw [parseString.eq_def]
  simp only [show backslash ≠ quote by decide, if_false, if_true]
  split
  · rename_i heq
    cases heq
    exact absurd rfl hletter
  · rename_i heq
    cases heq
    rw [hc]
    cases parseString rest <;> rfl
  · rename_i heq
    cases heq

theorem parseString_hex {a b c d char : Char} (hchar : hexChar a b c d = some char) (rest : List Char) :
    parseString (backslash :: 'u' :: a :: b :: c :: d :: rest) =
      (parseString rest).map fun r => (char :: r.1, r.2) := by
  rw [parseString.eq_def]
  simp only [show backslash ≠ quote by decide, if_false, if_true, hchar]
  cases parseString rest <;> rfl

theorem parseString_plain {c : Char} (hquote : c ≠ quote) (hbackslash : c ≠ backslash) (hplain : ¬c.toNat < 32)
    (rest : List Char) : parseString (c :: rest) = (parseString rest).map fun r => (c :: r.1, r.2) := by
  rw [parseString.eq_def]
  simp only [if_neg hquote, if_neg hbackslash, if_neg hplain]
  cases parseString rest <;> rfl

/-- The letters of the short escapes stand for their characters. -/
theorem unescape_of_lookup {c letter : Char} (h : shortEscapes.lookup c = some letter) :
    letter ≠ 'u' ∧ unescape letter = some c := by
  have hmem : (c, letter) ∈ shortEscapes := by
    obtain ⟨l₁, l₂, hsplit, -⟩ := List.lookup_eq_some_iff.1 h
    rw [hsplit]
    simp
  simp only [shortEscapes, List.mem_cons, Prod.mk.injEq, List.not_mem_nil, or_false] at hmem
  obtain ⟨rfl, rfl⟩ | ⟨rfl, rfl⟩ | ⟨rfl, rfl⟩ | ⟨rfl, rfl⟩ | ⟨rfl, rfl⟩ | ⟨rfl, rfl⟩ | ⟨rfl, rfl⟩ := hmem <;>
    decide

theorem hexDigit_digitChar : ∀ n < 16, hexDigit (Nat.digitChar n) = some n := by decide

theorem hexChar_control {c : Char} (h : c.toNat < 32) :
    hexChar '0' '0' (Nat.digitChar (c.toNat / 16)) (Nat.digitChar (c.toNat % 16)) = some c := by
  have hzero : hexDigit '0' = some 0 := by decide
  have hvalue : 4096 * 0 + 256 * 0 + 16 * (c.toNat / 16) + c.toNat % 16 = c.toNat := by omega
  have hvalid : c.toNat.isValidChar := c.valid
  simp only [hexChar, hzero, hexDigit_digitChar (c.toNat / 16) (by omega), hexDigit_digitChar (c.toNat % 16) (by omega),
    Option.bind_eq_bind, Option.bind_some, hvalue, if_pos hvalid, Char.ofNat_toNat]

/-- A character is read back from the way it is written. -/
theorem parseString_escape (c : Char) (rest : List Char) :
    parseString (escape c ++ rest) = (parseString rest).map fun r => (c :: r.1, r.2) := by
  unfold escape
  cases hlookup : shortEscapes.lookup c with
  | some letter =>
      obtain ⟨hletter, hc⟩ := unescape_of_lookup hlookup
      exact parseString_letter hletter hc rest
  | none =>
      simp only
      split
      · rename_i hcontrol
        exact parseString_hex (hexChar_control hcontrol) rest
      · rename_i hplain
        refine parseString_plain ?_ ?_ hplain rest
        · rintro rfl
          exact absurd hlookup (by decide)
        · rintro rfl
          exact absurd hlookup (by decide)

theorem parseString_printString (s : List Char) (rest : List Char) :
    parseString (s.flatMap escape ++ quote :: rest) = some (s, rest) := by
  induction s with
  | nil => exact parseString_quote rest
  | cons c s ih => rw [List.flatMap_cons, List.append_assoc, parseString_escape, ih, Option.map_some]

/-! ## Values -/

def isNumberChar (c : Char) : Bool := c.isDigit || c = '-' || c = '+' || c = '.' || c = 'e' || c = 'E'

def isSpace (c : Char) : Bool := c = ' ' || c = Char.ofNat 9 || c = Char.ofNat 10 || c = Char.ofNat 13

def skipSpace (cs : List Char) : List Char := cs.dropWhile isSpace

/-- How the platform writes and reads a number. -/
structure NumberText where
  print : Num → List Char
  read : List Char → Option Num

/-- The text of the number is made of the characters of numbers, and is read back. -/
structure NumberText.ReadsBack (T : NumberText) (n : Num) : Prop where
  nonempty : T.print n ≠ []
  chars : ∀ c ∈ T.print n, isNumberChar c = true
  read : T.read (T.print n) = some n

/-- `map[key] = value` -/
def assignField (fields : List (String × Json)) (field : String × Json) : List (String × Json) :=
  if fields.any (·.1 = field.1) then fields.map fun f => if f.1 = field.1 then field else f
  else fields ++ [field]

/-- The map that the fields of an object make, one after the other. -/
def ofFields (fields : List (String × Json)) : List (String × Json) := fields.foldl assignField []

section

variable (T : NumberText)

mutual

def print : Json → List Char
  | .null => "null".toList
  | .bool b => if b then "true".toList else "false".toList
  | .num n => T.print n
  | .str s => printString s
  | .arr [] => ['[', ']']
  | .arr (v :: vs) => '[' :: (print v ++ printElements vs)
  | .obj [] => [openBrace, closeBrace]
  | .obj ((key, v) :: fs) => openBrace :: (printString key ++ ':' :: (print v ++ printFields fs))

/-- The elements after the first, and the end of the list. -/
def printElements : List Json → List Char
  | [] => [']']
  | v :: vs => ',' :: (print v ++ printElements vs)

/-- The fields after the first, and the end of the object. -/
def printFields : List (String × Json) → List Char
  | [] => [closeBrace]
  | (key, v) :: fs => ',' :: (printString key ++ ':' :: (print v ++ printFields fs))

end

/-- `literal` at the beginning of the text stands for `value`. -/
def parseLiteral (literal : String) (value : Json) (cs : List Char) : Option (Json × List Char) :=
  if literal.toList.isPrefixOf cs then some (value, cs.drop literal.length) else none

def parseNumber (cs : List Char) : Option (Json × List Char) := do
  let n ← T.read (cs.takeWhile isNumberChar)
  return (.num n, cs.dropWhile isNumberChar)

/-- A key and its colon. -/
def parseKey (cs : List Char) : Option (String × List Char) :=
  match skipSpace cs with
  | [] => none
  | c :: cs =>
    if c = quote then do
      let (key, cs) ← parseString cs
      match skipSpace cs with
      | ':' :: cs => some (String.ofList key, cs)
      | _ => none
    else none

mutual

/-- The value at the beginning of the text and what follows it; `fuel` bounds the nesting. -/
def parseValue : Nat → List Char → Option (Json × List Char)
  | 0, _ => none
  | fuel + 1, cs =>
    match skipSpace cs with
    | [] => none
    | c :: cs =>
      if c = '[' then
        match skipSpace cs with
        | ']' :: cs => some (.arr [], cs)
        | _ => do
          let (v, cs) ← parseValue fuel cs
          let (vs, cs) ← parseElements fuel cs
          return (.arr (v :: vs), cs)
      else if c = openBrace then
        if (skipSpace cs).head? = some closeBrace then some (.obj [], (skipSpace cs).tail)
        else do
          let (key, cs) ← parseKey cs
          let (v, cs) ← parseValue fuel cs
          let (fs, cs) ← parseFields fuel cs
          return (.obj (ofFields ((key, v) :: fs)), cs)
      else if c = quote then do
        let (s, cs) ← parseString cs
        return (.str (String.ofList s), cs)
      else if c = 'n' then parseLiteral "null" .null (c :: cs)
      else if c = 't' then parseLiteral "true" (.bool true) (c :: cs)
      else if c = 'f' then parseLiteral "false" (.bool false) (c :: cs)
      else parseNumber T (c :: cs)

def parseElements : Nat → List Char → Option (List Json × List Char)
  | 0, _ => none
  | fuel + 1, cs =>
    match skipSpace cs with
    | ']' :: cs => some ([], cs)
    | ',' :: cs => do
      let (v, cs) ← parseValue fuel cs
      let (vs, cs) ← parseElements fuel cs
      return (v :: vs, cs)
    | _ => none

def parseFields : Nat → List Char → Option (List (String × Json) × List Char)
  | 0, _ => none
  | fuel + 1, cs =>
    match skipSpace cs with
    | [] => none
    | c :: cs =>
      if c = closeBrace then some ([], cs)
      else if c = ',' then do
        let (key, cs) ← parseKey cs
        let (v, cs) ← parseValue fuel cs
        let (fs, cs) ← parseFields fuel cs
        return ((key, v) :: fs, cs)
      else none

end

def jsonEncode (j : Json) : String := String.ofList (print T j)

/-- `jsonDecode`: one value, with nothing but white space around it. -/
def jsonDecode (s : String) : Option Json :=
  match parseValue T (s.length + 1) s.toList with
  | some (j, rest) => if skipSpace rest = [] then some j else none
  | none => none

end

/-! ## What is written is read back -/

section

variable {T : NumberText}

mutual

/-- The keys of every object are distinct and every number is read back. -/
def Printable (T : NumberText) : Json → Prop
  | .num n => T.ReadsBack n
  | .arr vs => PrintableElements T vs
  | .obj fs => (fs.map Prod.fst).Nodup ∧ PrintableFields T fs
  | _ => True

def PrintableElements (T : NumberText) : List Json → Prop
  | [] => True
  | v :: vs => Printable T v ∧ PrintableElements T vs

def PrintableFields (T : NumberText) : List (String × Json) → Prop
  | [] => True
  | (_, v) :: fs => Printable T v ∧ PrintableFields T fs

end

/-- What follows a value does not go on with a number. -/
def Ends (rest : List Char) : Prop := ∀ c ∈ rest.head?, isNumberChar c = false

theorem ends_cons {c : Char} (rest : List Char) (hc : isNumberChar c = false) : Ends (c :: rest) := by
  intro d hd
  obtain rfl : c = d := by simpa using hd
  exact hc

theorem skipSpace_cons {c : Char} (hc : isSpace c = false) (cs : List Char) : skipSpace (c :: cs) = c :: cs :=
  List.dropWhile_cons_of_neg (by simp [hc])

theorem isSpace_of_isNumberChar {c : Char} (h : isNumberChar c = true) :
    isSpace c = false ∧ c ≠ '[' ∧ c ≠ ']' ∧ c ≠ openBrace ∧ c ≠ closeBrace ∧ c ≠ quote ∧ c ≠ 'n' ∧ c ≠ 't' ∧ c ≠ 'f' := by
  have hne {d : Char} (hd : isNumberChar d = false) : c ≠ d := by
    rintro rfl
    rw [h] at hd
    cases hd
  refine ⟨?_, hne rfl, hne rfl, hne rfl, hne rfl, hne rfl, hne rfl, hne rfl, hne rfl⟩
  simp only [isSpace, hne (d := ' ') rfl, hne (d := Char.ofNat 9) rfl, hne (d := Char.ofNat 10) rfl,
    hne (d := Char.ofNat 13) rfl, decide_false, Bool.or_self]

/-- A value begins with a character that is neither white space nor the end of a list. -/
theorem print_cons {j : Json} (hj : Printable T j) :
    ∃ c cs, print T j = c :: cs ∧ isSpace c = false ∧ c ≠ ']' := by
  cases j with
  | null => exact ⟨'n', "ull".toList, rfl, rfl, by decide⟩
  | bool b =>
      cases b
      · exact ⟨'f', "alse".toList, rfl, rfl, by decide⟩
      · exact ⟨'t', "rue".toList, rfl, rfl, by decide⟩
  | num n =>
      have hn : T.ReadsBack n := hj
      obtain ⟨c, cs, hprint⟩ := List.exists_cons_of_ne_nil hn.nonempty
      obtain ⟨hspace, -, hbracket, -⟩ := isSpace_of_isNumberChar (hn.chars c (by simp [hprint]))
      exact ⟨c, cs, hprint, hspace, hbracket⟩
  | str s => exact ⟨quote, _, rfl, rfl, by decide⟩
  | arr vs => cases vs <;> exact ⟨'[', _, rfl, rfl, by decide⟩
  | obj fs => cases fs <;> exact ⟨openBrace, _, rfl, rfl, by decide⟩

theorem parseNumber_print {n : Num} (hn : T.ReadsBack n) {rest : List Char} (hrest : Ends rest) :
    parseNumber T (T.print n ++ rest) = some (.num n, rest) := by
  have hspan : (T.print n ++ rest).takeWhile isNumberChar = T.print n ∧
      (T.print n ++ rest).dropWhile isNumberChar = rest := by
    rw [List.takeWhile_append_of_pos hn.chars, List.dropWhile_append_of_pos hn.chars]
    cases rest with
    | nil => simp
    | cons c rest =>
        have hc : isNumberChar c = false := hrest c rfl
        simp [hc]
  rw [parseNumber, hspan.1, hspan.2, hn.read]
  rfl

theorem parseLiteral_append (literal : String) (value : Json) (rest : List Char) :
    parseLiteral literal value (literal.toList ++ rest) = some (value, rest) := by
  rw [parseLiteral, if_pos (by simp)]
  simp [← String.length_toList]

theorem parseKey_print (key : String) (rest : List Char) :
    parseKey (printString key ++ ':' :: rest) = some (key, rest) := by
  have hstring : parseString (key.toList.flatMap escape ++ ([quote] ++ ':' :: rest)) = some (key.toList, ':' :: rest) :=
    parseString_printString key.toList (':' :: rest)
  rw [parseKey, printString, List.cons_append, skipSpace_cons rfl, List.append_assoc]
  simp only [if_true, hstring, Option.bind_eq_bind, Option.bind_some, skipSpace_cons (c := ':') rfl,
    String.ofList_toList]

/-- Where the keys are distinct, every field stays. -/
theorem ofFields_of_nodup {fields : List (String × Json)} (h : (fields.map Prod.fst).Nodup) :
    ofFields fields = fields := by
  induction fields using List.reverseRecOn with
  | nil => rfl
  | append_singleton fields field ih =>
      rw [List.map_append, List.nodup_append] at h
      have hnew : fields.any (·.1 = field.1) = false := by
        rw [List.any_eq_false]
        intro f hf
        simpa using h.2.2 f.1 (List.mem_map_of_mem hf) field.1 (by simp)
      rw [ofFields, List.foldl_append, ← ofFields, ih h.1]
      simp only [List.foldl_cons, List.foldl_nil, assignField, hnew, Bool.false_eq_true, if_false]

theorem ends_printElements (vs : List Json) (rest : List Char) : Ends (printElements T vs ++ rest) := by
  cases vs <;> exact ends_cons _ rfl

theorem ends_printFields (fs : List (String × Json)) (rest : List Char) : Ends (printFields T fs ++ rest) := by
  cases fs <;> exact ends_cons _ rfl

/-- An array that is not empty goes on with its first element. -/
theorem parseValue_arr {fuel : ℕ} {c : Char} {cs : List Char} (hspace : isSpace c = false) (hc : c ≠ ']') :
    parseValue T (fuel + 1) ('[' :: c :: cs) = (do
      let (v, cs) ← parseValue T fuel (c :: cs)
      let (vs, cs) ← parseElements T fuel cs
      return (.arr (v :: vs), cs)) := by
  simp only [parseValue, skipSpace_cons (c := '[') rfl, skipSpace_cons hspace, if_true]
  split
  · rename_i heq
    cases heq
    exact absurd rfl hc
  · rfl

theorem parseValue_obj {fuel : ℕ} (cs : List Char) :
    parseValue T (fuel + 1) (openBrace :: quote :: cs) = (do
      let (key, cs) ← parseKey (quote :: cs)
      let (v, cs) ← parseValue T fuel cs
      let (fs, cs) ← parseFields T fuel cs
      return (.obj (ofFields ((key, v) :: fs)), cs)) := by
  rw [parseValue, skipSpace_cons rfl]
  simp only [if_neg (show openBrace ≠ '[' by decide), if_true, skipSpace_cons (c := quote) rfl]
  have hend : ¬(quote :: cs).head? = some closeBrace := by
    rw [List.head?_cons, Option.some.injEq]
    decide
  exact if_neg hend

theorem parseValue_num {fuel : ℕ} {c : Char} (hc : isNumberChar c = true) (cs : List Char) :
    parseValue T (fuel + 1) (c :: cs) = parseNumber T (c :: cs) := by
  obtain ⟨hspace, harr, -, hobj, -, hquote, hn, ht, hf⟩ := isSpace_of_isNumberChar hc
  rw [parseValue, skipSpace_cons hspace]
  simp only [if_neg harr, if_neg hobj, if_neg hquote, if_neg hn, if_neg ht, if_neg hf]

theorem parseValue_str {fuel : ℕ} (s : String) (rest : List Char) :
    parseValue T (fuel + 1) (printString s ++ rest) = some (.str s, rest) := by
  have hstring : parseString (s.toList.flatMap escape ++ ([quote] ++ rest)) = some (s.toList, rest) :=
    parseString_printString s.toList rest
  rw [printString, List.cons_append, List.append_assoc, parseValue, skipSpace_cons rfl]
  simp only [if_neg (show quote ≠ '[' by decide), if_neg (show quote ≠ openBrace by decide), if_true, hstring]
  simp

theorem parseValue_bool {fuel : ℕ} (b : Bool) (rest : List Char) :
    parseValue T (fuel + 1) (print T (.bool b) ++ rest) = some (.bool b, rest) := by
  cases b with
  | false => exact parseLiteral_append "false" (.bool false) rest
  | true => exact parseLiteral_append "true" (.bool true) rest

mutual

/-- A value is read back from the way it is written, whatever follows it. -/
theorem parseValue_print {j : Json} (hj : Printable T j) {fuel : ℕ} (hfuel : (print T j).length ≤ fuel)
    {rest : List Char} (hrest : Ends rest) : parseValue T fuel (print T j ++ rest) = some (j, rest) := by
  obtain ⟨c, cs, hprint, hspace, hbracket⟩ := print_cons hj
  obtain ⟨fuel, rfl⟩ : ∃ f, fuel = f + 1 := by
    refine ⟨fuel - 1, ?_⟩
    rw [hprint, List.length_cons] at hfuel
    omega
  match j with
  | .null => exact parseLiteral_append "null" .null rest
  | .bool b => exact parseValue_bool b rest
  | .num n =>
      have hn : T.ReadsBack n := hj
      have hc : isNumberChar c = true := hn.chars c (by simp [show T.print n = c :: cs from hprint])
      rw [hprint, List.cons_append, parseValue_num hc, ← List.cons_append, ← hprint]
      exact parseNumber_print hn hrest
  | .str s => exact parseValue_str s rest
  | .arr [] => rfl
  | .arr (v :: vs) =>
      obtain ⟨hv, hvs⟩ : Printable T v ∧ PrintableElements T vs := hj
      obtain ⟨c, cs, hprint, hspace, hbracket⟩ := print_cons hv
      have hlength : (print T v).length + (printElements T vs).length ≤ fuel := by
        simpa [print] using hfuel
      have hvalue := parseValue_print hv (show (print T v).length ≤ fuel by omega) (ends_printElements (T := T) vs rest)
      have helements := parseElements_print hvs (show (printElements T vs).length ≤ fuel by omega) rest
      rw [hprint, List.cons_append] at hvalue
      rw [print, hprint, List.cons_append, List.append_assoc, List.cons_append,
        parseValue_arr hspace hbracket, hvalue]
      simp only [Option.bind_eq_bind, Option.bind_some, helements]
      rfl
  | .obj [] => rfl
  | .obj ((key, v) :: fs) =>
      obtain ⟨hnodup, hv, hfs⟩ : _ ∧ Printable T v ∧ PrintableFields T fs := hj
      have hlength : (print T v).length + (printFields T fs).length ≤ fuel := by
        simp [print] at hfuel
        omega
      have hvalue := parseValue_print hv (show (print T v).length ≤ fuel by omega) (ends_printFields (T := T) fs rest)
      have hfields := parseFields_print hfs (show (printFields T fs).length ≤ fuel by omega) rest
      have hkey := parseKey_print key (print T v ++ (printFields T fs ++ rest))
      have htext : print T (.obj ((key, v) :: fs)) ++ rest =
          openBrace :: (printString key ++ ':' :: (print T v ++ (printFields T fs ++ rest))) := by
        simp [print]
      rw [htext]
      rw [printString, List.cons_append] at hkey ⊢
      rw [parseValue_obj, hkey]
      simp only [Option.bind_eq_bind, Option.bind_some, hvalue, hfields]
      exact congrArg (fun fields => some (Json.obj fields, rest)) (ofFields_of_nodup hnodup)

theorem parseElements_print {vs : List Json} (hvs : PrintableElements T vs) {fuel : ℕ}
    (hfuel : (printElements T vs).length ≤ fuel) (rest : List Char) :
    parseElements T fuel (printElements T vs ++ rest) = some (vs, rest) := by
  match vs with
  | [] =>
      obtain ⟨fuel, rfl⟩ : ∃ f, fuel = f + 1 := ⟨fuel - 1, by simp [printElements] at hfuel; omega⟩
      rfl
  | v :: vs =>
      obtain ⟨hv, hvs⟩ : Printable T v ∧ PrintableElements T vs := hvs
      obtain ⟨fuel, rfl⟩ : ∃ f, fuel = f + 1 := ⟨fuel - 1, by simp [printElements] at hfuel; omega⟩
      have hlength : (print T v).length + (printElements T vs).length ≤ fuel := by
        simpa [printElements] using hfuel
      have hvalue := parseValue_print hv (show (print T v).length ≤ fuel by omega) (ends_printElements (T := T) vs rest)
      have helements := parseElements_print hvs (show (printElements T vs).length ≤ fuel by omega) rest
      rw [printElements, List.cons_append, List.append_assoc]
      simp only [parseElements, skipSpace_cons (c := ',') rfl, hvalue, helements, Option.bind_eq_bind,
        Option.bind_some]
      rfl

theorem parseFields_print {fs : List (String × Json)} (hfs : PrintableFields T fs) {fuel : ℕ}
    (hfuel : (printFields T fs).length ≤ fuel) (rest : List Char) :
    parseFields T fuel (printFields T fs ++ rest) = some (fs, rest) := by
  match fs with
  | [] =>
      obtain ⟨fuel, rfl⟩ : ∃ f, fuel = f + 1 := ⟨fuel - 1, by simp [printFields] at hfuel; omega⟩
      rfl
  | (key, v) :: fs =>
      obtain ⟨hv, hfs⟩ : Printable T v ∧ PrintableFields T fs := hfs
      obtain ⟨fuel, rfl⟩ : ∃ f, fuel = f + 1 := ⟨fuel - 1, by simp [printFields] at hfuel; omega⟩
      have hlength : (print T v).length + (printFields T fs).length ≤ fuel := by
        simp [printFields] at hfuel
        omega
      have hvalue := parseValue_print hv (show (print T v).length ≤ fuel by omega) (ends_printFields (T := T) fs rest)
      have hfields := parseFields_print hfs (show (printFields T fs).length ≤ fuel by omega) rest
      have hkey := parseKey_print key (print T v ++ (printFields T fs ++ rest))
      have htext : printFields T ((key, v) :: fs) ++ rest =
          ',' :: (printString key ++ ':' :: (print T v ++ (printFields T fs ++ rest))) := by
        simp [printFields]
      rw [htext]
      simp only [parseFields, skipSpace_cons (c := ',') rfl, if_neg (show ',' ≠ closeBrace by decide), if_true, hkey,
        hvalue, hfields, Option.bind_eq_bind, Option.bind_some]
      rfl

end

/-- **What is written is read back.** -/
theorem jsonDecode_jsonEncode {j : Json} (hj : Printable T j) : jsonDecode T (jsonEncode T j) = some j := by
  have hends : Ends [] := by simp [Ends]
  have hvalue := parseValue_print hj (Nat.le_succ _) hends
  rw [List.append_nil] at hvalue
  rw [jsonDecode, jsonEncode, String.toList_ofList, String.length_ofList, hvalue]
  rfl

end
end JsonText
end Nourgomla
