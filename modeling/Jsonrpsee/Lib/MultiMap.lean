import Mathlib.Data.List.Nodup

/-! # Maps with several values for a key

Keys are kept in the order in which they came, each with a first value and those that were
appended to it. The iterator that consumes such a map yields the key with the first value
only. A loop that inserts what it is given with a key therefore keeps the first values.
-/

/-- A map in which every key has at least one value. -/
structure MultiMap (κ υ : Type*) where
  entries : List (κ × υ × List υ)
  /-- A key has one entry. -/
  distinct : (entries.map Prod.fst).Nodup

namespace MultiMap

variable {κ υ : Type*} [DecidableEq κ]

def empty : MultiMap κ υ := { entries := [], distinct := List.nodup_nil }

/-- All values of a key, in order. -/
def getAll (m : MultiMap κ υ) (k : κ) : List υ := (m.entries.lookup k).elim [] fun (first, more) => first :: more

def containsKey (m : MultiMap κ υ) (k : κ) : Bool := (m.entries.lookup k).isSome

/-- The entry of the key, if there is one, with another list of values. -/
def overwrite (k : κ) (values : υ × List υ) (entries : List (κ × υ × List υ)) : List (κ × υ × List υ) :=
  entries.map fun entry => if entry.1 = k then (k, values) else entry

theorem keys_overwrite (k : κ) (values : υ × List υ) (entries : List (κ × υ × List υ)) :
    (overwrite k values entries).map Prod.fst = entries.map Prod.fst := by
  rw [overwrite, List.map_map]
  apply List.map_congr_left
  intro entry _
  rw [Function.comp_apply]
  split
  · rename_i same
    exact same.symm
  · rfl

theorem lookup_eq_none_iff_forall {k : κ} {entries : List (κ × υ × List υ)} :
    entries.lookup k = none ↔ k ∉ entries.map Prod.fst := by
  rw [List.lookup_eq_none_iff, List.mem_map]
  simp only [not_exists, not_and, bne_iff_ne]
  exact ⟨fun absent entry member same => absent entry member same.symm,
    fun absent entry member same => absent entry member same.symm⟩

theorem nodup_keys_append {entries : List (κ × υ × List υ)} (distinct : (entries.map Prod.fst).Nodup) {k : κ}
    (free : entries.lookup k = none) (values : υ × List υ) : ((entries ++ [(k, values)]).map Prod.fst).Nodup := by
  rw [List.map_append, List.map_singleton]
  refine List.nodup_append.mpr ⟨distinct, List.nodup_singleton k, ?_⟩
  rintro a here b last rfl
  obtain rfl := List.mem_singleton.mp last
  exact lookup_eq_none_iff_forall.mp free here

/-- Replace all values of a key by one. -/
def insert (m : MultiMap κ υ) (k : κ) (v : υ) : MultiMap κ υ :=
  if free : m.entries.lookup k = none then
    { entries := m.entries ++ [(k, v, [])]
      distinct := nodup_keys_append m.distinct free (v, []) }
  else
    { entries := overwrite k (v, []) m.entries
      distinct := by
        rw [keys_overwrite]
        exact m.distinct }

/-- Add a value to those of a key. -/
def append (m : MultiMap κ υ) (k : κ) (v : υ) : MultiMap κ υ :=
  match m.entries.lookup k with
  | none => m.insert k v
  | some (first, more) =>
      { entries := overwrite k (first, more ++ [v]) m.entries
        distinct := by
          rw [keys_overwrite]
          exact m.distinct }

/-- What the consuming iterator yields. -/
def intoIter (m : MultiMap κ υ) : List (Option κ × υ) :=
  m.entries.flatMap fun (k, first, more) => (some k, first) :: more.map fun v => (none, v)

/-- Insert what comes with a key. -/
def insertKeyed (m : MultiMap κ υ) (items : List (Option κ × υ)) : MultiMap κ υ :=
  items.foldl (fun m (k, v) => k.elim m fun k => m.insert k v) m

/-! ## Values -/

theorem lookup_overwrite (k k' : κ) (values : υ × List υ) (entries : List (κ × υ × List υ)) :
    (overwrite k values entries).lookup k' =
      if k' = k ∧ (entries.lookup k).isSome then some values else entries.lookup k' := by
  induction entries with
  | nil => simp [overwrite]
  | cons entry rest ih =>
      obtain ⟨key, old⟩ := entry
      rw [overwrite] at ih
      rw [overwrite, List.map_cons]
      by_cases same : key = k
      · subst same
        by_cases asked : k' = key
        · subst asked
          simp
        · have other : (k' == key) = false := beq_false_of_ne asked
          simp only [if_true, List.lookup_cons, other, ih, asked, false_and, if_false]
      · have before : (k == key) = false := beq_false_of_ne fun eq => same eq.symm
        simp only [same, if_false, List.lookup_cons, ih, before]
        by_cases asked : k' = key
        · subst asked
          simp [same]
        · have other : (k' == key) = false := beq_false_of_ne asked
          simp only [other]

theorem containsKey_iff (m : MultiMap κ υ) (k : κ) : m.containsKey k = true ↔ m.getAll k ≠ [] := by
  rw [containsKey, getAll]
  cases m.entries.lookup k <;> simp

theorem getAll_insert (m : MultiMap κ υ) (k k' : κ) (v : υ) :
    (m.insert k v).getAll k' = if k' = k then [v] else m.getAll k' := by
  rw [insert]
  split
  · rename_i free
    simp only [getAll, List.lookup_append]
    by_cases asked : k' = k
    · subst asked
      simp [free]
    · have other : (k' == k) = false := beq_false_of_ne asked
      simp [List.lookup_cons, other, asked]
  · rename_i taken
    have known : (m.entries.lookup k).isSome = true := Option.isSome_iff_ne_none.mpr taken
    simp only [getAll, lookup_overwrite, known, and_true]
    split <;> rfl

theorem getAll_append (m : MultiMap κ υ) (k k' : κ) (v : υ) :
    (m.append k v).getAll k' = if k' = k then m.getAll k ++ [v] else m.getAll k' := by
  rw [append]
  split
  · rename_i free
    rw [getAll_insert]
    split
    · simp [getAll, free]
    · rfl
  · rename_i first more known
    simp only [getAll, lookup_overwrite, known, Option.isSome_some, and_true]
    split <;> rfl

@[simp] theorem getAll_empty (k : κ) : (empty : MultiMap κ υ).getAll k = [] := rfl

/-- Values without a key are passed over. -/
theorem insertKeyed_nameless (m : MultiMap κ υ) (values : List υ) :
    m.insertKeyed (values.map fun v => (none, v)) = m := by
  induction values with
  | nil => rfl
  | cons v rest ih => exact ih

/-- The loop over all entries leaves each of their keys with its first value. -/
theorem getAll_insertKeyed_entries (m : MultiMap κ υ) {entries : List (κ × υ × List υ)}
    (distinct : (entries.map Prod.fst).Nodup) (k : κ) :
    (m.insertKeyed (entries.flatMap fun (k, first, more) => (some k, first) :: more.map fun v => (none, v))).getAll k =
      (entries.lookup k).elim (m.getAll k) fun (first, _) => [first] := by
  induction entries generalizing m with
  | nil => rfl
  | cons entry rest ih =>
      obtain ⟨key, first, more⟩ := entry
      obtain ⟨fresh, later⟩ := List.nodup_cons.mp distinct
      have cut : m.insertKeyed (((key, first, more) :: rest).flatMap
          fun (k, first, more) => (some k, first) :: more.map fun v => (none, v)) =
          (m.insert key first).insertKeyed (rest.flatMap
            fun (k, first, more) => (some k, first) :: more.map fun v => (none, v)) := by
        rw [List.flatMap_cons, insertKeyed, List.foldl_append, List.foldl_cons]
        exact congrArg (fun m => List.foldl _ m _) (insertKeyed_nameless (m.insert key first) more)
      rw [cut, ih _ later, getAll_insert, List.lookup_cons]
      by_cases asked : k = key
      · subst asked
        have gone : rest.lookup k = none := lookup_eq_none_iff_forall.mpr fresh
        simp [gone]
      · have other : (k == key) = false := beq_false_of_ne asked
        simp only [asked, if_false, other]

theorem getAll_insertKeyed (m other : MultiMap κ υ) (k : κ) :
    (m.insertKeyed other.intoIter).getAll k = if other.containsKey k then (other.getAll k).take 1 else m.getAll k := by
  rw [intoIter, getAll_insertKeyed_entries m other.distinct k, containsKey]
  cases found : other.entries.lookup k with
  | none => rfl
  | some values => simp [getAll, found]

end MultiMap
