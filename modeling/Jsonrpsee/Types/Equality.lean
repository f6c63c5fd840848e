import Jsonrpsee.Types.Json

/-! # Comparing JSON values -/

namespace Jsonrpsee

namespace Json

mutual

/-- Two values are the same, member by member in the same order. -/
def same : Json → Json → Bool
  | .null, .null => true
  | .bool b, .bool b' => b = b'
  | .int n, .int n' => n = n'
  | .float literal, .float literal' => literal = literal'
  | .str s, .str s' => s = s'
  | .arr elems, .arr elems' => sameElems elems elems'
  | .obj members, .obj members' => sameMembers members members'
  | _, _ => false

def sameElems : List Json → List Json → Bool
  | [], [] => true
  | value :: rest, value' :: rest' => same value value' && sameElems rest rest'
  | _, _ => false

def sameMembers : List (String × Json) → List (String × Json) → Bool
  | [], [] => true
  | member :: rest, member' :: rest' => sameMember member member' && sameMembers rest rest'
  | _, _ => false

def sameMember : String × Json → String × Json → Bool
  | (name, value), (name', value') => decide (name = name') && same value value'

end

mutual

theorem same_iff : ∀ a b, same a b = true ↔ a = b
  | .null, b => by cases b <;> simp [same]
  | .bool _, b => by cases b <;> simp [same]
  | .int _, b => by cases b <;> simp [same]
  | .float _, b => by cases b <;> simp [same]
  | .str _, b => by cases b <;> simp [same]
  | .arr elems, b => by cases b <;> simp [same, sameElems_iff elems]
  | .obj members, b => by cases b <;> simp [same, sameMembers_iff members]

theorem sameElems_iff : ∀ xs ys, sameElems xs ys = true ↔ xs = ys
  | [], ys => by cases ys <;> simp [sameElems]
  | value :: rest, ys => by cases ys <;> simp [sameElems, same_iff value, sameElems_iff rest]

theorem sameMembers_iff : ∀ xs ys, sameMembers xs ys = true ↔ xs = ys
  | [], ys => by cases ys <;> simp [sameMembers]
  | member :: rest, ys => by cases ys <;> simp [sameMembers, sameMember_iff member, sameMembers_iff rest]

theorem sameMember_iff : ∀ x y, sameMember x y = true ↔ x = y
  | (name, value), (name', value') => by simp [sameMember, same_iff value]

end

instance : DecidableEq Json := fun a b => decidable_of_iff _ (same_iff a b)

end Json

end Jsonrpsee
