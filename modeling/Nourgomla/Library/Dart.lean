import Mathlib.Data.List.Forall2
import Mathlib.Data.Rat.Floor
import Nourgomla.Library.Doubles

set_option autoImplicit false

/-! # Values of the source language

What a program sees of numbers, decoded JSON and failures. `num` is an `int` or a `double`. A
variable that may be null is an `Option`. A value decoded from JSON is
dynamic: indexing it and storing it in a typed variable are checked at run time, and the checks are
the ones below. -/

namespace Nourgomla

/-- How a statement can fail. -/
inductive DartError
  | noSuchMethod
  | typeError
  | rangeError
  | databaseException
  | httpFailure
deriving DecidableEq, Repr

/-- A sequence of checks succeeds when each of them does. -/
theorem bind_eq_ok {ε α β : Type} {x : Except ε α} {f : α → Except ε β} {b : β} :
    (x >>= f) = .ok b ↔ ∃ a, x = .ok a ∧ f a = .ok b := by
  cases x <;> simp [bind, Except.bind]

/-- A list decodes element by element, in order. -/
theorem mapM_eq_ok {ε α β : Type} {f : α → Except ε β} {l : List α} {l' : List β}
    (h : l.mapM f = .ok l') : List.Forall₂ (fun a b => f a = .ok b) l l' := by
  induction l generalizing l' with
  | nil =>
      simp only [List.mapM_nil, pure, Except.pure, Except.ok.injEq] at h
      exact h ▸ List.Forall₂.nil
  | cons a l ih =>
      rw [List.mapM_cons] at h
      obtain ⟨b, hb, h⟩ := bind_eq_ok.1 h
      obtain ⟨bs, hbs, h⟩ := bind_eq_ok.1 h
      simp only [pure, Except.pure, Except.ok.injEq] at h
      exact h ▸ List.Forall₂.cons hb (ih hbs)

/-- What is only renamed afterwards can be renamed at the end. -/
theorem mapM_bind_pure {ε α β γ : Type} (f : α → Except ε β) (g : β → γ) (l : List α) :
    (l.mapM fun a => f a >>= fun b => pure (g b)) = l.mapM f >>= fun bs => pure (bs.map g) := by
  induction l with
  | nil => rfl
  | cons a l ih =>
      rw [List.mapM_cons, List.mapM_cons, ih]
      cases f a with
      | error e => rfl
      | ok b => cases l.mapM f <;> rfl

/-- A loop that reads each element and adds what it read. -/
theorem foldlM_bind_pure {ε α β σ : Type} (f : α → Except ε β) (put : σ → β → σ) (l : List α) (s : σ) :
    l.foldlM (fun s a => f a >>= fun b => pure (put s b)) s = l.mapM f >>= fun bs => pure (bs.foldl put s) := by
  induction l generalizing s with
  | nil => rfl
  | cons a l ih =>
      rw [List.foldlM_cons, List.mapM_cons]
      cases f a with
      | error e => rfl
      | ok b =>
          refine (ih (put s b)).trans ?_
          cases l.mapM f <;> rfl

/-- Going through the positions of a list is going through the list. -/
theorem map_range {α β : Type} {l : List α} {f : Nat → β} {g : α → β}
    (h : ∀ index a, l[index]? = some a → f index = g a) : (List.range l.length).map f = l.map g := by
  refine List.ext_getElem (by simp) fun index hindex hindex' => ?_
  have hlt : index < l.length := by simpa using hindex'
  rw [List.getElem_map, List.getElem_map, List.getElem_range]
  exact h index _ (List.getElem?_eq_getElem hlt)

theorem mapM_range {ε α β : Type} {l : List α} {f : Nat → Except ε β} {g : α → Except ε β}
    (h : ∀ index a, l[index]? = some a → f index = g a) : (List.range l.length).mapM f = l.mapM g := by
  have hmap := congrArg (List.mapM (m := Except ε) id) (map_range h)
  rwa [List.mapM_map, List.mapM_map] at hmap

theorem toOption_eq_some {ε α : Type} {r : Except ε α} {a : α} :
    r.toOption = some a ↔ r = .ok a := by
  cases r <;> simp [Except.toOption]

theorem exists_of_isOk {ε α : Type} {r : Except ε α} (h : r.isOk = true) : ∃ a, r = .ok a := by
  cases r with
  | ok a => exact ⟨a, rfl⟩
  | error e => cases h

theorem toOption_join_eq_some {ε α : Type} {r : Except ε (Option α)} {a : α} :
    r.toOption.join = some a ↔ r = .ok (some a) := by
  cases r <;> simp [Except.toOption]

/-- `try { … } catch (e) { return null; }` -/
def caught {α : Type} (r : Except DartError (Option α)) : Option α := r.toOption.getD none

/-- Two bodies that begin alike are compared after what they share. -/
theorem caught_bind {α β : Type} {x : Except DartError α} {k k' : α → Except DartError (Option β)}
    {f : Option β → Option β} (hf : f none = none) (h : ∀ a, caught (k a) = f (caught (k' a))) :
    caught (x >>= k) = f (caught (x >>= k')) := by
  cases x with
  | error e => exact hf.symm
  | ok a => exact h a

/-! ## Numbers -/

/-- `num`: an integer or a double. Of a double this is the decimal it is written as; the program
    holds the double nearest to it. -/
inductive Num
  | int (n : Int)
  | double (q : Rat)
deriving DecidableEq, Repr

/-- The number a `num` stands for. -/
def Num.toRat : Num → Rat
  | .int n => n
  | .double q => q

/-- `num.toDouble()`, which every operand of an amount is. Two integers are multiplied or added
    without rounding; below `2 ^ 53` that gives the same double. -/
def Num.toDouble [Doubles] (n : Num) : Rat := nearest n.toRat

/-- `a * b`, as a double. -/
def Num.mul [Doubles] (a b : Num) : Rat := nearest (a.toDouble * b.toDouble)

/-- The digits after the decimal point of `r`, `0 ≤ r < 1`: at least one, at most `fuel`. -/
def fractionDigits : Nat → Rat → List Char
  | 0, _ => []
  | fuel + 1, r =>
    let d := ⌊r * 10⌋
    let rest := r * 10 - d
    Nat.digitChar d.toNat :: if rest = 0 then [] else fractionDigits fuel rest

/-- `num.toString()`: a double keeps its decimal point. -/
def Num.text : Num → String
  | .int n => toString n
  | .double q =>
    (if q < 0 then "-" else "") ++ toString ⌊|q|⌋ ++ "."
      ++ String.ofList (fractionDigits 17 (|q| - ⌊|q|⌋))

/-- `num?.toString()`: null prints as a word. -/
def nullableText : Option Num → String
  | some n => n.text
  | none => "null"

/-- A dynamic value that is an `int` in one place, which may be null, and a text in another. -/
inductive IntOrText
  | int (n : Option Int)
  | text (s : String)
deriving DecidableEq

/-- The value as a text; null is none. -/
def IntOrText.asText : IntOrText → Option String
  | .int n => n.map toString
  | .text s => some s

/-- The value of a non-empty string of digits. -/
def digitsValue (cs : List Char) : Option Nat :=
  if cs ≠ [] ∧ cs.all Char.isDigit then some (Nat.ofDigitChars 10 cs 0) else none

/-- Read an unsigned decimal: digits, with or without a point and further digits. -/
def readUnsigned (cs : List Char) : Option Rat :=
  match cs.span (· ≠ '.') with
  | (whole, []) => (digitsValue whole).map (·)
  | (whole, _ :: fraction) => do
    let w ← digitsValue whole
    let f ← digitsValue fraction
    return w + f / 10 ^ fraction.length

/-- Read a decimal number off a text; a text that is none is read as nothing. -/
def readNumber (s : String) : Option Rat :=
  match s.toList with
  | '-' :: cs => (readUnsigned cs).map (-·)
  | cs => readUnsigned cs

example : readNumber "12.50" = some (25 / 2) := by decide +kernel
example : readNumber (Num.double (49 / 4)).text = some (49 / 4) := by decide +kernel

/-- A number never prints as the empty text. -/
theorem Num.text_ne_empty (n : Num) : n.text ≠ "" := by
  intro h
  have hlen := congrArg String.length h
  cases n with
  | int n => cases n <;> simp [Num.text, Int.toString_eq_repr, Int.repr] at h
  | double q => simp [Num.text] at hlen

/-- Only the integer zero prints as a zero. -/
theorem Num.text_eq_zero_iff (n : Num) : n.text = "0" ↔ n = .int 0 := by
  constructor
  · intro h
    cases n with
    | int n =>
        rw [Num.text, Int.toString_eq_repr, Int.repr_eq_if] at h
        split at h
        · rename_i hn
          rw [Nat.repr_eq_ofList_toDigits] at h
          have hdigits : Nat.toDigits 10 n.toNat = ['0'] := by
            simpa using congrArg String.toList h
          have hzero := Nat.ofDigitChars_ten_toDigits (n := n.toNat)
          rw [hdigits] at hzero
          have hn' : n.toNat = 0 := hzero.symm.trans (by decide)
          rw [show n = 0 by omega]
        · -- a minus sign
          have hlist := congrArg String.toList h
          simp at hlist
    | double q =>
        -- a double has a decimal point
        have hlist := congrArg String.toList h
        have hpoint : '.' ∈ (Num.double q).text.toList := by simp [Num.text]
        rw [hlist] at hpoint
        exact absurd hpoint (by decide)
  · rintro rfl
    rfl

/-! ## Decoded JSON -/

/-- A value `json.decode` can return. -/
inductive Json
  | null
  | bool (b : Bool)
  | num (n : Num)
  | str (s : String)
  | arr (values : List Json)
  | obj (fields : List (String × Json))

namespace Json

/-- `json[key]` on a dynamic value. -/
def field (key : String) : Json → Except DartError Json
  | .obj fields => .ok ((fields.find? (·.1 == key)).elim .null (·.2))
  | .null => .error .noSuchMethod
  | .bool _ => .error .noSuchMethod
  | .num _ => .error .noSuchMethod
  | .str _ => .error .typeError
  | .arr _ => .error .typeError

/-- Store a dynamic value in an `int` variable. -/
def asInt : Json → Except DartError (Option Int)
  | .null => .ok none
  | .num (.int n) => .ok (some n)
  | _ => .error .typeError

/-- Store a dynamic value in a `num` variable. -/
def asNum : Json → Except DartError (Option Num)
  | .null => .ok none
  | .num n => .ok (some n)
  | _ => .error .typeError

/-- Store a dynamic value in a `String` variable. -/
def asString : Json → Except DartError (Option String)
  | .null => .ok none
  | .str s => .ok (some s)
  | _ => .error .typeError

/-- Store a dynamic value in a `bool` variable. -/
def asBool : Json → Except DartError (Option Bool)
  | .null => .ok none
  | .bool b => .ok (some b)
  | _ => .error .typeError

/-- Store a dynamic value in a `List` variable. -/
def asList : Json → Except DartError (Option (List Json))
  | .null => .ok none
  | .arr values => .ok (some values)
  | _ => .error .typeError

/-- `json == n` for an integer `n`: numbers compare by value. -/
def equalsInt (n : Int) : Json → Bool
  | .num m => m.toRat = n
  | _ => false

def intField (key : String) (j : Json) : Except DartError (Option Int) := j.field key >>= asInt

def numField (key : String) (j : Json) : Except DartError (Option Num) := j.field key >>= asNum

def stringField (key : String) (j : Json) : Except DartError (Option String) :=
  j.field key >>= asString

def boolField (key : String) (j : Json) : Except DartError (Option Bool) := j.field key >>= asBool

def listField (key : String) (j : Json) : Except DartError (Option (List Json)) :=
  j.field key >>= asList

/-- A field that is stored as 0 is one that compares equal to 0. -/
theorem equalsInt_of_asInt {j : Json} {n : Option Int} (h : j.asInt = .ok n) :
    j.equalsInt 0 = true ↔ n = some 0 := by
  unfold asInt at h
  split at h
  · simp only [Except.ok.injEq] at h
    subst h
    simp [equalsInt]
  · simp only [Except.ok.injEq] at h
    subst h
    simp [equalsInt, Num.toRat]
  · simp at h

end Json

/-- Use a variable as a receiver or an operand: null has no methods. -/
def notNull {α : Type} : Option α → Except DartError α
  | some a => .ok a
  | none => .error .noSuchMethod

end Nourgomla
