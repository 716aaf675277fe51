import Nourgomla.Library.RegExp

set_option autoImplicit false

/-! # The validators of the text fields (`helpers/validators.dart`)

A validator returns the key of its complaint, or nothing. -/

namespace Nourgomla

/-- How many UTF-16 code units a character takes. -/
def codeUnits (c : Char) : Nat := if c.toNat < 65536 then 1 else 2

/-- `val.length` -/
def textLength (val : String) : Nat := val.toList.foldl (fun n c => n + codeUnits c) 0

def fnLnValidator (val : Option String) : Option String :=
  match val with
  | none => some "required_field"
  | some val =>
    if val = "" then some "required_field"
    else if textLength val > 50 then some "must_be_less_than_50_letters"
    else none

def multiLineTextValidator (val : Option String) : Option String :=
  match val with
  | none => some "required_field"
  | some val =>
    if val = "" then some "required_field"
    else if textLength val > 200 then some "must_be_less_than_200_letters"
    else none

def passwordValidator (val : Option String) : Option String :=
  match val with
  | none => some "required_field"
  | some val =>
    if val = "" then some "required_field"
    else if textLength val < 6 then some "password_must_be_more_than_5_letters"
    else if textLength val > 50 then some "must_be_less_than_50_letters"
    else none

def confirmPasswordValidator (val password : Option String) : Option String :=
  if val = none ∨ val = some "" then some "required_field"
  else if val ≠ password then some "password_doesnt_match"
  else none

/-! ## Addresses -/

def quoteChar : Char := Char.ofNat 34

/-- `\s` -/
def isWhiteSpace (c : Char) : Bool :=
  let n := c.toNat
  (9 ≤ n && n ≤ 13) || n = 32 || n = 160 || n = 0x1680 || (0x2000 ≤ n && n ≤ 0x200A) || n = 0x2028 || n = 0x2029 ||
    n = 0x202F || n = 0x205F || n = 0x3000 || n = 0xFEFF

/-- `[^<>()[\]\\.,;:\s@\"]`. A character that takes two code units is in the class with both or with none. -/
def isAtomChar (c : Char) : Bool :=
  !(['<', '>', '(', ')', '[', ']', Char.ofNat 92, '.', ',', ';', ':', '@', quoteChar].contains c || isWhiteSpace c)

/-- `.`: everything but the ends of a line. -/
def isLineChar (c : Char) : Bool := !([10, 13, 0x2028, 0x2029].contains c.toNat)

/-- `[0-9]` -/
def isDigitChar (c : Char) : Bool := '0' ≤ c && c ≤ '9'

/-- `[a-zA-Z]` -/
def isLetterChar (c : Char) : Bool := ('a' ≤ c && c ≤ 'z') || ('A' ≤ c && c ≤ 'Z')

/-- `[a-zA-Z\-0-9]` -/
def isLabelChar (c : Char) : Bool := isLetterChar c || c = '-' || isDigitChar c

open RegExp in
/-- The part before the at sign: atoms with points between them, or anything in quotes. -/
def localPart : RegExp Char :=
  alt (sepBy '.' (plus (cls isAtomChar)))
    (seq (letter quoteChar) (seq (plus (cls isLineChar)) (letter quoteChar)))

open RegExp in
/-- `[0-9]{1,3}` -/
def addressByte : RegExp Char := between (cls isDigitChar) 1 2

open RegExp in
/-- The part after it: four numbers in brackets, or labels and a name of at least two letters. -/
def domainPart : RegExp Char :=
  alt
    (seq (letter '[') (seq addressByte (seq (letter '.') (seq addressByte (seq (letter '.') (seq addressByte
      (seq (letter '.') (seq addressByte (letter ']')))))))))
    (endedBy '.' (plus (cls isLabelChar)) (atLeast (cls isLetterChar) 2))

open RegExp in
/-- The expression is anchored on both sides. -/
def validCharactersEmail : RegExp Char := seq localPart (seq (letter '@') domainPart)

def emailValidator (val : Option String) : Option String :=
  match val with
  | none => some "required_field"
  | some val =>
    if val = "" then some "required_field"
    else if !validCharactersEmail.accepts val.toList then some "Email not valid"
    else if textLength val > 100 then some "must_be_less_than_100_letters"
    else none

end Nourgomla
