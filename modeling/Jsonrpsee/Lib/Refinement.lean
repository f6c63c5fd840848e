import Jsonrpsee.Lib.Run

/-! # Refinement of runs

One system refines another when each of its steps, seen through a function on the
states, is a step of the other or changes nothing. An invariant of the finer system
may be used for that. Then whole runs are runs of the other system.
-/

variable {σ α τ β : Type*}

/-- A step is seen as the labelled one, or as none. -/
def SeenAs (other : τ → β → Option τ) (before after : τ) : Option β → Prop
  | some b => other before b = some after
  | none => after = before

/-- How the runs of `step` from `start` are seen as runs of `other`. -/
structure Refinement (step : σ → α → Option σ) (start : σ) (other : τ → β → Option τ) where
  view : σ → τ
  label : Transition σ α → Option β
  inv : σ → Prop
  initial : inv start
  keeps : ∀ {s a s'}, inv s → step s a = some s' → inv s'
  seen : ∀ {s a s'}, inv s → step s a = some s' → SeenAs other (view s) (view s') (label ⟨s, a, s'⟩)

namespace Refinement

variable {step : σ → α → Option σ} {start : σ} {other : τ → β → Option τ} (refinement : Refinement step start other)

/-- What is seen of a transition. -/
def transition (t : Transition σ α) : Option (Transition τ β) :=
  (refinement.label t).map fun b => ⟨refinement.view t.before, b, refinement.view t.after⟩

variable {ts : List (Transition σ α)} {s : σ}

theorem inv_run (run : Run step start ts s) : refinement.inv s :=
  run.invariant refinement.inv (fun _ => True) (fun _ _ => trivial) refinement.initial
    fun _ _ before taken => refinement.keeps before taken

/-- What is seen of a run is a run. -/
theorem run (run : Run step start ts s) :
    Run other (refinement.view start) (ts.filterMap refinement.transition) (refinement.view s) := by
  induction run with
  | nil => exact .nil
  | @snoc ts s a s' earlier taken ih =>
      have seen := refinement.seen (refinement.inv_run earlier) taken
      rw [List.filterMap_append]
      cases labelled : refinement.label ⟨s, a, s'⟩ with
      | none =>
          rw [labelled] at seen
          have same : refinement.view s' = refinement.view s := seen
          simp only [List.filterMap_cons, transition, labelled, Option.map_none, List.filterMap_nil, List.append_nil, same]
          exact ih
      | some b =>
          rw [labelled] at seen
          simp only [List.filterMap_cons, transition, labelled, Option.map_some, List.filterMap_nil]
          exact ih.snoc seen

end Refinement
