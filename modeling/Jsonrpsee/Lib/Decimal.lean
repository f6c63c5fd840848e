import Mathlib.Data.Nat.Basic

/-! # Unsigned decimal numerals

Reading a numeral the way machine-integer parsers do: an optional `+`, at least
one digit and nothing else, with the value below the type's limit. Printing and
reading back is the identity below the limit. A parser that goes through the
digits one by one refuses a numeral at the first digit that it cannot use.
-/

namespace Decimal

/-- The digits of a numeral after an optional leading `+`. -/
def unsigned : List Char → List Char
  | '+' :: digits => digits
  | digits => digits

/-- Read a numeral whose value is below `limit`. -/
def parse (limit : Nat) (text : List Char) : Option Nat :=
  let digits := unsigned text
  if digits ≠ [] ∧ digits.all Char.isDigit then
    let value := Nat.ofDigitChars 10 digits 0
    if value < limit then some value else none
  else none

/-- Why a numeral is refused. -/
inductive ParseError where
  | empty
  | invalidDigit
  | posOverflow
  deriving Repr, DecidableEq

def ParseError.text : ParseError → String
  | .empty => "cannot parse integer from empty string"
  | .invalidDigit => "invalid digit found in string"
  | .posOverflow => "number too large to fit in target type"

theorem ParseError.text_inj {e e' : ParseError} (same : e.text = e'.text) : e = e' := by
  revert same
  cases e <;> cases e' <;> decide

/-- The first digit that is none, or that makes the value too large. -/
def digitError (limit : Nat) : List Char → Nat → ParseError
  | [], _ => .posOverflow
  | c :: rest, value =>
      if c.isDigit then
        let value := value * 10 + (c.toNat - 48)
        if value < limit then digitError limit rest value else .posOverflow
      else .invalidDigit

/-- The error for a numeral that is not read. -/
def parseError (limit : Nat) (text : List Char) : ParseError :=
  if text = [] then .empty
  else if unsigned text = [] then .invalidDigit
  else digitError limit (unsigned text) 0

/-- A numeral has digits only, but for its sign. -/
theorem parse_eq_none_of_mem {limit : Nat} {text : List Char} {c : Char} (member : c ∈ text) (sign : c ≠ '+')
    (digit : c.isDigit = false) : parse limit text = none := by
  have kept : c ∈ unsigned text := by
    unfold unsigned
    split
    · exact (List.mem_cons.mp member).resolve_left sign
    · exact member
  have foreign : ¬ (unsigned text).all Char.isDigit = true := by
    intro all
    rw [List.all_eq_true] at all
    exact absurd (all c kept) (by rw [digit]; exact Bool.false_ne_true)
  rw [parse]
  exact if_neg fun good => foreign good.2

private theorem unsigned_toDigits (n : Nat) : unsigned (Nat.toDigits 10 n) = Nat.toDigits 10 n := by
  cases shape : Nat.toDigits 10 n with
  | nil => rfl
  | cons first rest =>
      have digit : first.isDigit :=
        Nat.isDigit_of_mem_toDigits (by decide) (by decide) (shape ▸ List.mem_cons_self)
      unfold unsigned
      split
      · rename_i same
        obtain ⟨rfl, rfl⟩ := List.cons.inj same
        simp [Char.isDigit] at digit
      · rfl

/-- Reading a printed number gives the number back. -/
theorem parse_repr {limit n : Nat} (small : n < limit) : parse limit (Nat.repr n).toList = some n := by
  have digits : (Nat.toDigits 10 n).all Char.isDigit = true := by
    rw [List.all_eq_true]
    intro c member
    exact Nat.isDigit_of_mem_toDigits (by decide) (by decide) member
  simp only [Nat.toList_repr, parse, unsigned_toDigits, digits, ne_eq, Nat.toDigits_ne_nil,
    not_false_eq_true, and_self, if_true, Nat.ofDigitChars_ten_toDigits, small]

end Decimal
