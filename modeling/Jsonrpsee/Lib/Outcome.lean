import Mathlib.Logic.Basic

/-! # Taking results apart

When a computation that may fail gives a value, so has each of its parts.
-/

namespace Except

section Bind

universe u

variable {ε : Type*} {α β : Type u} {x : Except ε α}

theorem bind_eq_ok_iff {f : α → Except ε β} {b : β} : (x >>= f) = .ok b ↔ ∃ a, x = .ok a ∧ f a = .ok b := by
  cases x with
  | error e => simp [bind, Except.bind]
  | ok a => simp [bind, Except.bind]

end Bind

variable {ε ε' α β : Type*} {x : Except ε α}

theorem map_eq_ok_iff {f : α → β} {b : β} : x.map f = .ok b ↔ ∃ a, x = .ok a ∧ f a = b := by
  cases x with
  | error e => simp [Except.map]
  | ok a => simp [Except.map]

theorem ite_error_eq_ok_iff {p : Prop} [Decidable p] {e : ε} {a : α} :
    (if p then x else .error e) = .ok a ↔ p ∧ x = .ok a := by
  by_cases holds : p
  · simp [holds]
  · simp [holds]

theorem mapError_eq_ok_iff {f : ε → ε'} {a : α} : x.mapError f = .ok a ↔ x = .ok a := by
  cases x with
  | error e => exact iff_of_false nofun nofun
  | ok a' =>
      constructor
      · intro same
        cases same
        rfl
      · intro same
        cases same
        rfl

end Except
