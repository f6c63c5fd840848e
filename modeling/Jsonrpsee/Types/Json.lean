import Mathlib.Algebra.Group.Nat.Defs
import Mathlib.Algebra.Ring.Int.Defs
import Mathlib.Data.List.Basic

/-! # JSON values and derived deserializers

The wire format as a tree. Texts are represented by the value they denote:
object members keep their order and may repeat, integers keep their value and
other numbers their literal. A `RawValue` of the source is such a tree.

`Json.fields` is the reading a derived struct deserializer makes of a value:
an object that gives every field at most once, in any order, among ignored
members, or an array of exactly the fields in declaration order.
-/

namespace Jsonrpsee

inductive Json where
  | null
  | bool (b : Bool)
  /-- A number written without fraction and exponent. -/
  | int (n : Int)
  /-- Any other number, by its literal. -/
  | float (literal : String)
  | str (s : String)
  | arr (elems : List Json)
  | obj (members : List (String × Json))
  deriving Repr, Inhabited

/-- A `Box<RawValue>` or `&RawValue` of the source. -/
abbrev RawValue := Json

namespace Json

/-- Read a `u64`: an integer literal in range. -/
def asU64 : Json → Option UInt64
  | .int n => if 0 ≤ n ∧ n < 2 ^ 64 then some (UInt64.ofNat n.toNat) else none
  | _ => none

/-- Read an `i32`: an integer literal in range. -/
def asI32 : Json → Option Int
  | .int n => if -2 ^ 31 ≤ n ∧ n < 2 ^ 31 then some n else none
  | _ => none

def asStr : Json → Option String
  | .str s => some s
  | _ => none

/-- Read an `Option`: `null` is absence. -/
def asOption (read : Json → Option α) : Json → Option (Option α)
  | .null => some none
  | value => (read value).map some

/-- An `Option` field that the text leaves out is absent as well. -/
def optionField (read : Json → Option α) : Option Json → Option (Option α)
  | none => some none
  | some value => value.asOption read

/-- The values a derived struct deserializer assigns to its fields. -/
def fields (names : List String) : Json → Option (List (Option Json))
  | .obj members =>
      if names.all fun name => (members.filter (·.1 = name)).length ≤ 1 then
        some (names.map fun name => members.lookup name)
      else none
  | .arr elems => if elems.length = names.length then some (elems.map some) else none
  | _ => none

/-- As `fields`, for a struct that denies unknown fields. -/
def fieldsStrict (names : List String) : Json → Option (List (Option Json))
  | .obj members =>
      if members.all fun member => names.contains member.1 then fields names (.obj members) else none
  | value => fields names value

theorem lookup_eq_filter (name : String) (members : List (String × Json)) :
    members.lookup name = ((members.filter (·.1 = name)).head?).map Prod.snd := by
  induction members with
  | nil => rfl
  | cons member rest ih =>
      obtain ⟨key, value⟩ := member
      rw [List.lookup_cons, List.filter_cons]
      by_cases same : key = name
      · simp [same]
      · simp [same, beq_false_of_ne (Ne.symm same), ih]

/-- A member that is given once is found in any order of the members. -/
theorem lookup_perm {name : String} {members members' : List (String × Json)}
    (filtered : (members.filter (·.1 = name)).Perm (members'.filter (·.1 = name)))
    (single : (members'.filter (·.1 = name)).length ≤ 1) : members.lookup name = members'.lookup name := by
  rw [lookup_eq_filter, lookup_eq_filter]
  generalize members'.filter (·.1 = name) = kept at filtered single
  match kept with
  | [] => rw [filtered.eq_nil]
  | [entry] => rw [filtered.eq_singleton]

end Json

/-- The reader and printer of JSON texts. -/
structure SerdeJson where
  fromSlice : List UInt8 → Except String Json
  toString : Json → String

end Jsonrpsee
