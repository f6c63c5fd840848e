import Mathlib.Data.Finmap

/-! # Finite maps addressed by key

Mathlib's `Finmap` at a constant value type, with the lookup equations written
as one conditional each. A proof about a sequence of inserts and erases then
reads every lookup off by rewriting and case analysis on key equality.
-/

/-- A finite map from keys to values. -/
abbrev Table (κ υ : Type*) := Finmap fun _ : κ => υ

namespace Table

variable {κ υ : Type*} [DecidableEq κ]

@[grind =]
theorem lookup_insert_ite (t : Table κ υ) (k k' : κ) (v : υ) :
    (t.insert k v).lookup k' = if k' = k then some v else t.lookup k' := by
  by_cases same : k' = k
  · subst same
    simp only [Finmap.lookup_insert, if_true]
  · rw [Finmap.lookup_insert_of_ne _ same, if_neg same]

@[grind =]
theorem lookup_erase_ite (t : Table κ υ) (k k' : κ) :
    (t.erase k).lookup k' = if k' = k then none else t.lookup k' := by
  by_cases same : k' = k
  · subst same
    simp only [Finmap.lookup_erase, if_true]
  · rw [Finmap.lookup_erase_ne same, if_neg same]

/-- A map is empty exactly when no key is bound. -/
theorem eq_empty_iff (t : Table κ υ) : t = ∅ ↔ ∀ k, t.lookup k = none := by
  constructor
  · intro empty k
    rw [empty, Finmap.lookup_empty]
  · intro unbound
    exact Finmap.ext_lookup fun k => by rw [unbound k, Finmap.lookup_empty]

/-- Erasing a binding that was just added to a free key undoes the insertion. -/
theorem erase_insert (t : Table κ υ) (k : κ) (v : υ) (free : t.lookup k = none) :
    (t.insert k v).erase k = t := by
  apply Finmap.ext_lookup
  intro k'
  rw [lookup_erase_ite, lookup_insert_ite]
  split
  · rename_i same
    rw [same, free]
  · rfl

/-- Removing a binding and adding one under the same key overwrites it. -/
theorem insert_erase (t : Table κ υ) (k : κ) (v : υ) :
    (t.erase k).insert k v = t.insert k v := by
  apply Finmap.ext_lookup
  intro k'
  rw [lookup_insert_ite, lookup_insert_ite, lookup_erase_ite]
  split <;> rfl

/-- A map is the rest of it with one of its bindings. -/
theorem insert_of_lookup (t : Table κ υ) {k : κ} {v : υ} (found : t.lookup k = some v) :
    (t.erase k).insert k v = t := by
  apply Finmap.ext_lookup
  intro k'
  rw [lookup_insert_ite, lookup_erase_ite]
  split
  · rename_i same
    rw [same, found]
  · rfl

/-! ## Counting bindings -/

/-- How many bindings have a value with the property. -/
def count (t : Table κ υ) (p : υ → Prop) [DecidablePred p] : Nat := t.entries.countP fun entry => p entry.2

variable {p : υ → Prop} [DecidablePred p]

theorem count_eq_zero_iff (t : Table κ υ) : count t p = 0 ↔ ∀ {k v}, t.lookup k = some v → ¬ p v := by
  rw [count, Multiset.countP_eq_zero]
  constructor
  · intro none k v found
    exact none ⟨k, v⟩ (Finmap.mem_lookup_iff.mp found)
  · rintro none ⟨k, v⟩ member
    exact none (Finmap.mem_lookup_iff.mpr member)

theorem count_insert_of_free (t : Table κ υ) {k : κ} {v : υ} (free : t.lookup k = none) :
    count (t.insert k v) p = count t p + if p v then 1 else 0 := by
  have new : k ∉ t := Finmap.lookup_eq_none.mp free
  rw [count, Finmap.entries_insert_of_notMem new, Multiset.countP_cons]
  rfl

theorem count_erase (t : Table κ υ) {k : κ} {v : υ} (found : t.lookup k = some v) :
    count t p = count (t.erase k) p + if p v then 1 else 0 := by
  have gone : (t.erase k).lookup k = none := Finmap.lookup_erase k t
  rw [← count_insert_of_free _ gone, insert_of_lookup t found]

/-- A new value with the same property leaves the count alone. -/
theorem count_update (t : Table κ υ) {k : κ} {v v' : υ} (found : t.lookup k = some v) (same : p v' ↔ p v) :
    count (t.insert k v') p = count t p := by
  have gone : (t.erase k).lookup k = none := Finmap.lookup_erase k t
  rw [← insert_erase, count_insert_of_free _ gone, count_erase t found]
  simp only [same]

end Table
