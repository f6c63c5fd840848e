import Mathlib.Data.List.Nodup
import Mathlib.Data.List.Range
import Mathlib.Data.List.Perm.Subperm

/-! # Writing values into keyed slots

A loop that stores every element of a list in the slot its key names. A slot
holds the value of the last element with its key, or what it held before. When
the keys are the slot numbers in some order, the result is the input in key
order.
-/

namespace Slots

variable {α β : Type*}

/-- Store `val a` at position `key a`, for every `a` in turn. -/
def writeAll (key : α → Nat) (val : α → β) (elems : List α) (slots : List β) : List β :=
  elems.foldl (fun slots a => slots.set (key a) (val a)) slots

variable (key : α → Nat) (val : α → β)

@[simp] theorem length_writeAll (elems : List α) (slots : List β) :
    (writeAll key val elems slots).length = slots.length := by
  induction elems generalizing slots with
  | nil => rfl
  | cons a rest ih => exact (ih (slots.set (key a) (val a))).trans List.length_set

/-- A slot no element names keeps its content. -/
theorem getElem?_writeAll_of_unnamed {elems : List α} {i : Nat}
    (unnamed : ∀ a ∈ elems, key a ≠ i) (slots : List β) :
    (writeAll key val elems slots)[i]? = slots[i]? := by
  induction elems generalizing slots with
  | nil => rfl
  | cons a rest ih =>
      have later := ih (fun b member => unnamed b (List.mem_cons_of_mem _ member))
        (slots.set (key a) (val a))
      rw [List.getElem?_set_ne (unnamed a List.mem_cons_self)] at later
      exact later

omit val in
/-- Among the elements with a key one is the last. -/
theorem exists_last {elems : List α} {i : Nat} (named : ∃ a ∈ elems, key a = i) :
    ∃ before a after, elems = before ++ a :: after ∧ key a = i ∧ ∀ b ∈ after, key b ≠ i := by
  induction elems with
  | nil =>
      obtain ⟨a, member, -⟩ := named
      cases member
  | cons a rest ih =>
      by_cases again : ∃ b ∈ rest, key b = i
      · obtain ⟨before, b, after, shape, keyed, last⟩ := ih again
        exact ⟨a :: before, b, after, by rw [shape, List.cons_append], keyed, last⟩
      · have final : ∀ b ∈ rest, key b ≠ i := fun b member keyed => again ⟨b, member, keyed⟩
        obtain ⟨b, member, keyed⟩ := named
        rcases List.mem_cons.mp member with rfl | later
        · exact ⟨[], b, rest, rfl, keyed, final⟩
        · exact absurd keyed (final b later)

/-- The last element with its key is in its slot. -/
theorem getElem?_writeAll_of_last {before after : List α} {a : α} (last : ∀ b ∈ after, key b ≠ key a)
    {slots : List β} (inside : key a < slots.length) :
    (writeAll key val (before ++ a :: after) slots)[key a]? = some (val a) := by
  have split : writeAll key val (before ++ a :: after) slots =
      writeAll key val after ((writeAll key val before slots).set (key a) (val a)) := by
    simp only [writeAll, List.foldl_append, List.foldl_cons]
  rw [split, getElem?_writeAll_of_unnamed key val last, List.getElem?_set_self]
  rwa [length_writeAll]

/-- A slot some element names holds the value of the last one that does. -/
theorem getElem?_writeAll_of_named {elems : List α} {i : Nat}
    (named : ∃ a ∈ elems, key a = i) {slots : List β} (inside : i < slots.length) :
    ∃ before a after, elems = before ++ a :: after ∧ key a = i ∧ (∀ b ∈ after, key b ≠ i) ∧
      (writeAll key val elems slots)[i]? = some (val a) := by
  obtain ⟨before, a, after, rfl, keyed, last⟩ := exists_last key named
  subst keyed
  exact ⟨before, a, after, rfl, rfl, last, getElem?_writeAll_of_last key val last inside⟩

/-- Values may be computed before or after they are stored. -/
theorem map_writeAll {γ : Type*} (f : β → γ) (elems : List α) (slots : List β) :
    (writeAll key val elems slots).map f = writeAll key (f ∘ val) elems (slots.map f) := by
  induction elems generalizing slots with
  | nil => rfl
  | cons a rest ih =>
      have step := ih (slots.set (key a) (val a))
      rw [List.map_set] at step
      exact step

section Counting

variable (p : β → Bool)

theorem countP_writeAll_le {elems : List α} {slots : List β} (inside : ∀ a ∈ elems, key a < slots.length) :
    (writeAll key val elems slots).countP p ≤ slots.countP p + elems.countP (p ∘ val) := by
  induction elems generalizing slots with
  | nil => exact Nat.le_refl _
  | cons a rest ih =>
      have within : key a < slots.length := inside a List.mem_cons_self
      have later := @ih (slots.set (key a) (val a)) (by
        intro b member
        rw [List.length_set]
        exact inside b (List.mem_cons_of_mem _ member))
      rw [List.countP_set within] at later
      rw [List.countP_cons]
      calc (writeAll key val (a :: rest) slots).countP p
          ≤ _ := later
        _ ≤ _ := by simp only [Function.comp_apply]; omega

/-- What the property says of the slots after one more value was written. -/
theorem unspoilt_set {a : α} {rest : List α} {slots : List β} (within : key a < slots.length)
    (lacks : p slots[key a] = false) :
    (∀ b ∈ rest, ∀ v, (slots.set (key a) (val a))[key b]? = some v → p v = false) ↔
      (∀ b ∈ rest, p (val a) = true → key a ≠ key b) ∧ ∀ b ∈ rest, ∀ v, slots[key b]? = some v → p v = false := by
  have written : (slots.set (key a) (val a))[key a]? = some (val a) := List.getElem?_set_self within
  have old : slots[key a]? = some slots[key a] := List.getElem?_eq_getElem within
  constructor
  · intro all
    refine ⟨fun b member has same => ?_, fun b member v here => ?_⟩
    · have lost := all b member (val a) (same ▸ written)
      cases has.symm.trans lost
    · by_cases same : key a = key b
      · rw [← same, old] at here
        cases here
        exact lacks
      · exact all b member v (by rw [List.getElem?_set_ne same, here])
  · rintro ⟨apart, all⟩ b member v here
    by_cases same : key a = key b
    · rw [← same, written] at here
      cases here
      rw [← Bool.not_eq_true]
      exact fun has => apart b member has same
    · rw [List.getElem?_set_ne same] at here
      exact all b member v here

/-- As many slots have the property as values were written that have it, exactly when
    no slot that has it was written again. -/
theorem countP_writeAll_eq_iff {elems : List α} {slots : List β} (inside : ∀ a ∈ elems, key a < slots.length) :
    (writeAll key val elems slots).countP p = slots.countP p + elems.countP (p ∘ val) ↔
      elems.Pairwise (fun a b => p (val a) = true → key a ≠ key b) ∧
        ∀ a ∈ elems, ∀ v, slots[key a]? = some v → p v = false := by
  induction elems generalizing slots with
  | nil => simp [writeAll]
  | cons a rest ih =>
      have within : key a < slots.length := inside a List.mem_cons_self
      have others : ∀ b ∈ rest, key b < (slots.set (key a) (val a)).length := by
        intro b member
        rw [List.length_set]
        exact inside b (List.mem_cons_of_mem _ member)
      have bound := countP_writeAll_le key val p others
      have later := ih others
      have step : writeAll key val (a :: rest) slots = writeAll key val rest (slots.set (key a) (val a)) := rfl
      have old : slots[key a]? = some slots[key a] := List.getElem?_eq_getElem within
      have spoilt : p slots[key a] = true → 0 < slots.countP p := fun has =>
        List.countP_pos_iff.mpr ⟨_, List.getElem_mem within, has⟩
      rw [List.countP_set within] at bound later
      rw [step, List.countP_cons, List.pairwise_cons, List.forall_mem_cons]
      cases has : p slots[key a] with
      | true =>
          have fewer : 0 < slots.countP p := spoilt has
          simp only [has, if_true] at bound
          refine iff_of_false ?_ ?_
          · simp only [Function.comp_apply]
            omega
          · rintro ⟨-, none, -⟩
            cases has.symm.trans (none _ old)
      | false =>
          have here : ∀ v, slots[key a]? = some v → p v = false := by
            intro v found
            cases old.symm.trans found
            exact has
          simp only [has, Bool.false_eq_true, if_false, Nat.sub_zero, unspoilt_set key val p within has] at later
          rw [← Nat.add_assoc, Nat.add_right_comm, Function.comp_apply, later]
          tauto

end Counting

section Sorted

variable {elems slots : List α} {n : Nat}

/-- Elements whose keys are `0, …, n - 1` in some order end up in key order. -/
theorem keys_writeAll (keys : (elems.map key).Perm (List.range n)) (size : slots.length = n) :
    (writeAll key id elems slots).map key = List.range n := by
  apply List.ext_getElem?
  intro i
  rw [List.getElem?_map]
  by_cases inside : i < n
  · have named : ∃ a ∈ elems, key a = i := by
      have member : i ∈ elems.map key := keys.mem_iff.mpr (List.mem_range.mpr inside)
      exact List.mem_map.mp member
    obtain ⟨before, a, after, -, keyed, -, stored⟩ :=
      getElem?_writeAll_of_named key id named (size.symm ▸ inside)
    rw [stored, List.getElem?_range inside]
    simp only [id_eq, Option.map_some, keyed]
  · have outside : n ≤ i := Nat.le_of_not_lt inside
    rw [List.getElem?_eq_none (by simpa only [length_writeAll, size] using outside),
      List.getElem?_eq_none (by simpa only [List.length_range] using outside)]
    rfl

/-- Nothing is lost or duplicated by sorting into slots. -/
theorem writeAll_perm (keys : (elems.map key).Perm (List.range n)) (size : slots.length = n) :
    (writeAll key id elems slots).Perm elems := by
  have sorted := keys_writeAll key keys size
  have distinct : (writeAll key id elems slots).Nodup := by
    apply List.Nodup.of_map key
    rw [sorted]
    exact List.nodup_range
  have kept : writeAll key id elems slots ⊆ elems := by
    intro a member
    obtain ⟨i, inside, rfl⟩ := List.mem_iff_getElem.mp member
    have below : i < n := by simpa only [length_writeAll, size] using inside
    have named : ∃ a ∈ elems, key a = i :=
      List.mem_map.mp (keys.mem_iff.mpr (List.mem_range.mpr below))
    obtain ⟨before, a, after, shape, -, -, stored⟩ :=
      getElem?_writeAll_of_named key id named (size.symm ▸ below)
    rw [List.getElem?_eq_getElem inside] at stored
    rw [Option.some.inj stored, shape]
    simp only [id_eq, List.mem_append, List.mem_cons, true_or, or_true]
  apply (List.subperm_of_subset distinct kept).perm_of_length_le
  have count := keys.length_eq
  simp only [List.length_map, List.length_range] at count
  simp only [length_writeAll, size, count, Nat.le_refl]

/-- What is in key order already stays as it is. -/
theorem writeAll_in_order {slots : List β} (keys : elems.map key = List.range slots.length) :
    writeAll key val elems slots = elems.map val := by
  have size : elems.length = slots.length := by
    simpa only [List.length_map, List.length_range] using congrArg List.length keys
  apply List.ext_getElem?
  intro i
  rw [List.getElem?_map]
  by_cases inside : i < slots.length
  · have named : ∃ a ∈ elems, key a = i := by
      have member : i ∈ elems.map key := keys ▸ List.mem_range.mpr inside
      exact List.mem_map.mp member
    obtain ⟨before, a, after, shape, keyed, -, stored⟩ := getElem?_writeAll_of_named key val named inside
    have place : elems[before.length]? = some a := by
      rw [shape, List.getElem?_append_right (Nat.le_refl _), Nat.sub_self]
      rfl
    have within : before.length < slots.length := by
      rw [← size]
      exact (List.getElem?_eq_some_iff.mp place).1
    -- The key of an element is its place.
    have own := congrArg (·[before.length]?) keys
    simp only [List.getElem?_map, place, List.getElem?_range within, Option.map_some, Option.some.injEq] at own
    rw [stored, ← keyed, own, place]
    rfl
  · have outside : slots.length ≤ i := Nat.le_of_not_lt inside
    rw [List.getElem?_eq_none (by simpa only [length_writeAll] using outside),
      List.getElem?_eq_none (by simpa only [size] using outside)]
    rfl

end Sorted

end Slots
