import Jsonrpsee.Lib.Table

/-! # Weighing a map

What the holders in a table hold together. A counter that is kept beside the
table, such as the number of permits or of references given out, is an
invariant of this form: every insert, update and erase changes both by the
weight of one binding.
-/

namespace Table

variable {κ υ : Type*}

/-- The sum of the weights of all values. -/
def weigh (t : Table κ υ) (w : υ → Nat) : Nat := (t.entries.map fun entry => w entry.2).sum

variable {k : κ} {v : υ}

@[simp] theorem weigh_empty (w : υ → Nat) : weigh (∅ : Table κ υ) w = 0 := rfl

variable [DecidableEq κ]

theorem weigh_insert_of_free (t : Table κ υ) (w : υ → Nat) (v : υ) (free : t.lookup k = none) :
    weigh (t.insert k v) w = weigh t w + w v := by
  have new : k ∉ t := Finmap.lookup_eq_none.mp free
  rw [weigh, Finmap.entries_insert_of_notMem new, Multiset.map_cons, Multiset.sum_cons, Nat.add_comm]
  rfl

theorem weigh_erase (t : Table κ υ) (w : υ → Nat) (found : t.lookup k = some v) :
    weigh t w = weigh (t.erase k) w + w v := by
  have gone : (t.erase k).lookup k = none := Finmap.lookup_erase k t
  rw [← weigh_insert_of_free _ w v gone, insert_of_lookup t found]

theorem weigh_update (t : Table κ υ) (w : υ → Nat) (v' : υ) (found : t.lookup k = some v) :
    weigh (t.insert k v') w + w v = weigh t w + w v' := by
  have gone : (t.erase k).lookup k = none := Finmap.lookup_erase k t
  rw [← insert_erase, weigh_insert_of_free _ w v' gone, weigh_erase t w found]
  omega

theorem weight_le (t : Table κ υ) (w : υ → Nat) (found : t.lookup k = some v) : w v ≤ weigh t w := by
  rw [weigh_erase t w found]
  exact Nat.le_add_left _ _

/-- When every value weighs something, only the empty map weighs nothing. -/
theorem weigh_eq_zero_iff (t : Table κ υ) (w : υ → Nat) (heavy : ∀ v, 0 < w v) : weigh t w = 0 ↔ t = ∅ := by
  constructor
  · intro none
    refine (eq_empty_iff t).mpr fun k => ?_
    cases found : t.lookup k with
    | none => rfl
    | some v =>
        have holds := weight_le t w found
        exact absurd (heavy v) (by omega)
  · rintro rfl
    rfl

end Table
