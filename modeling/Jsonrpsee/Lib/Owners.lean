import Mathlib.Algebra.Order.Ring.Nat
import Mathlib.Data.List.Nodup
import Mathlib.Data.List.Perm.Subperm

/-! # Sharing a list out among owners

Every element of a list belongs to exactly one owner. The parts that the owners
have then make up the list, so what bounds every part bounds the whole, and what
is known of every part is known of the whole.
-/

variable {α β ι : Type*}

/-- Each of some elements has exactly one of the owners. -/
structure SharedOut (owns : ι → α → Bool) (owners : List ι) (xs : List α) : Prop where
  nodup : owners.Nodup
  owned : ∀ x ∈ xs, ∃ t ∈ owners, owns t x = true
  sole : ∀ x ∈ xs, ∀ t ∈ owners, ∀ u ∈ owners, owns t x = true → owns u x = true → t = u

theorem List.Subperm.flatMap_left {owners : List ι} {f g : ι → List β} (parts : ∀ t ∈ owners, List.Subperm (f t) (g t)) :
    List.Subperm (owners.flatMap f) (owners.flatMap g) := by
  induction owners with
  | nil => exact List.Subperm.refl _
  | cons t rest ih =>
      have first := parts t List.mem_cons_self
      have later := ih fun u member => parts u (List.mem_cons_of_mem _ member)
      exact first.append later

namespace SharedOut

variable {owns : ι → α → Bool} {owners : List ι} {xs : List α}

open Classical in
/-- How often an element is among the parts. -/
theorem count_parts (owns : ι → α → Bool) (owners : List ι) (xs : List α) (x : α) :
    (owners.flatMap fun t => xs.filter (owns t)).count x = (owners.countP fun t => owns t x) * xs.count x := by
  induction owners with
  | nil => simp
  | cons t rest ih =>
      rw [List.flatMap_cons, List.count_append, ih, List.countP_cons]
      cases own : owns t x with
      | true => rw [List.count_filter own, if_pos rfl, Nat.add_mul, Nat.one_mul, Nat.add_comm]
      | false =>
          have none : x ∉ xs.filter (owns t) := by
            intro member
            rw [List.mem_filter, own] at member
            cases member.2
          rw [List.count_eq_zero_of_not_mem none, if_neg Bool.false_ne_true, Nat.zero_add, Nat.add_zero]

theorem countP_owners (shared : SharedOut owns owners xs) {x : α} (member : x ∈ xs) :
    (owners.countP fun t => owns t x) = 1 := by
  obtain ⟨t, there, own⟩ := shared.owned x member
  have only : (owners.filter fun u => owns u x).Perm [t] := by
    rw [List.perm_ext_iff_of_nodup (shared.nodup.filter _) (List.nodup_singleton t)]
    intro u
    rw [List.mem_filter, List.mem_singleton]
    constructor
    · rintro ⟨here, owns_⟩
      exact shared.sole x member u here t there owns_ own
    · rintro rfl
      exact ⟨there, own⟩
  rw [List.countP_eq_length_filter]
  exact only.length_eq

/-- The parts make up the list. -/
theorem parts (shared : SharedOut owns owners xs) : xs.Perm (owners.flatMap fun t => xs.filter (owns t)) := by
  classical
  rw [List.perm_iff_count]
  intro x
  rw [count_parts]
  by_cases member : x ∈ xs
  · rw [shared.countP_owners member, Nat.one_mul]
  · rw [List.count_eq_zero_of_not_mem member, Nat.mul_zero]

variable {f : α → Option β} {due : ι → List β}

theorem filterMap_parts (shared : SharedOut owns owners xs) :
    (xs.filterMap f).Perm (owners.flatMap fun t => (xs.filter (owns t)).filterMap f) := by
  rw [← List.filterMap_flatMap]
  exact shared.parts.filterMap f

/-- When nobody has more than is due to him, the whole is no more than all dues. -/
theorem bounded (shared : SharedOut owns owners xs)
    (within : ∀ t ∈ owners, List.Subperm ((xs.filter (owns t)).filterMap f) (due t)) :
    List.Subperm (xs.filterMap f) (owners.flatMap due) :=
  shared.filterMap_parts.subperm.trans (List.Subperm.flatMap_left within)

/-- When everybody has what is due to him, the whole is all dues. -/
theorem exact (shared : SharedOut owns owners xs)
    (paid : ∀ t ∈ owners, ((xs.filter (owns t)).filterMap f).Perm (due t)) :
    (xs.filterMap f).Perm (owners.flatMap due) :=
  shared.filterMap_parts.trans (List.Perm.flatMap_left _ paid)

end SharedOut
