import Mathlib.Data.List.Perm.Basic

/-! # Names drawn from a supply

A name is drawn once, waits somewhere, and is later put to use. Nothing is
known about the order in which the waiting names are used. As long as every
drawn name is new, a waiting name never meets itself: it waits once, and it is
not yet in use.
-/

variable {ι : Type*}

/-- The names that wait are drawn and pairwise different, and none of them is
    in use. -/
structure Allocated (drawn : ι → Prop) (waiting : List ι) (used : ι → Prop) : Prop where
  nodup : waiting.Nodup
  waiting_drawn : ∀ {x}, x ∈ waiting → drawn x
  used_drawn : ∀ {x}, used x → drawn x
  disjoint : ∀ {x}, x ∈ waiting → ¬ used x

namespace Allocated

variable {drawn drawn' used used' : ι → Prop} {waiting waiting' : List ι}

theorem empty (nobody : ∀ x, ¬ used x) : Allocated drawn [] used where
  nodup := List.nodup_nil
  waiting_drawn member := by cases member
  used_drawn here := absurd here (nobody _)
  disjoint member := by cases member

/-- The supply may move on, names may be given back, and the order of the
    waiting names does not matter. -/
theorem mono (allocated : Allocated drawn waiting used) (grows : ∀ {x}, drawn x → drawn' x)
    (same : waiting.Perm waiting') (shrinks : ∀ {x}, used' x → used x) : Allocated drawn' waiting' used' where
  nodup := same.nodup_iff.mp allocated.nodup
  waiting_drawn member := grows (allocated.waiting_drawn (same.mem_iff.mpr member))
  used_drawn here := grows (allocated.used_drawn (shrinks here))
  disjoint member here := allocated.disjoint (same.mem_iff.mpr member) (shrinks here)

/-- A new name is drawn and waits. -/
theorem draw (allocated : Allocated drawn waiting used) {x : ι} (new : ¬ drawn x)
    (grows : ∀ {y}, drawn y → drawn' y) (now : drawn' x) : Allocated drawn' (x :: waiting) used where
  nodup := List.nodup_cons.mpr ⟨fun member => new (allocated.waiting_drawn member), allocated.nodup⟩
  waiting_drawn member := (List.mem_cons.mp member).elim (fun same => same ▸ now)
    fun earlier => grows (allocated.waiting_drawn earlier)
  used_drawn here := grows (allocated.used_drawn here)
  disjoint member here := (List.mem_cons.mp member).elim
    (fun same => new (same ▸ allocated.used_drawn here)) fun earlier => allocated.disjoint earlier here

/-- Waiting names are put to use. -/
theorem use (allocated : Allocated drawn waiting used) {new : List ι} (taken : waiting.Perm (new ++ waiting'))
    (uses : ∀ {x}, used' x → used x ∨ x ∈ new) : Allocated drawn waiting' used' := by
  have split := List.nodup_append.mp (taken.nodup_iff.mp allocated.nodup)
  have old : ∀ {x}, x ∈ waiting' → x ∈ waiting :=
    fun member => taken.mem_iff.mpr (List.mem_append_right _ member)
  refine ⟨split.2.1, fun member => allocated.waiting_drawn (old member), fun here => ?_, fun member here => ?_⟩
  · rcases uses here with before | now
    · exact allocated.used_drawn before
    · exact allocated.waiting_drawn (taken.mem_iff.mpr (List.mem_append_left _ now))
  · rcases uses here with before | now
    · exact allocated.disjoint (old member) before
    · exact split.2.2 _ now _ member rfl

/-- Names may be lost. -/
theorem forget (allocated : Allocated drawn waiting used) (fewer : waiting'.Sublist waiting) :
    Allocated drawn waiting' used where
  nodup := allocated.nodup.sublist fewer
  waiting_drawn member := allocated.waiting_drawn (fewer.subset member)
  used_drawn := allocated.used_drawn
  disjoint member := allocated.disjoint (fewer.subset member)

/-- A name that is in use is given up and waits again. -/
theorem release (allocated : Allocated drawn waiting used) {x : ι} (now : used x)
    (shrinks : ∀ {y}, used' y → used y ∧ y ≠ x) : Allocated drawn (x :: waiting) used' where
  nodup := List.nodup_cons.mpr ⟨fun member => allocated.disjoint member now, allocated.nodup⟩
  waiting_drawn member := (List.mem_cons.mp member).elim (fun same => same ▸ allocated.used_drawn now)
    allocated.waiting_drawn
  used_drawn here := allocated.used_drawn (shrinks here).1
  disjoint member here := (List.mem_cons.mp member).elim (shrinks here).2
    fun earlier => allocated.disjoint earlier (shrinks here).1

end Allocated
