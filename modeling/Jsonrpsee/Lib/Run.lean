import Mathlib.Data.List.Basic

/-! # Recorded runs of a guarded step function

A step function returns `none` on an action its guard refuses. A run keeps
every transition it took, so that a statement can speak about the state before
and after each of them, and conditions on a run are conditions on its
transitions.
-/

/-- One step of a run, with the states around it. -/
structure Transition (σ α : Type*) where
  before : σ
  action : α
  after : σ

variable {σ α : Type*}

/-- `Run step start ts s`: the transitions `ts` lead from `start` to `s`. -/
inductive Run (step : σ → α → Option σ) (start : σ) : List (Transition σ α) → σ → Prop where
  | nil : Run step start [] start
  | snoc : Run step start ts s → step s a = some s' →
      Run step start (ts ++ [⟨s, a, s'⟩]) s'

/-- The state after a list of actions, when no guard refuses one. -/
def exec (step : σ → α → Option σ) : σ → List α → Option σ
  | s, [] => some s
  | s, a :: rest => (step s a).bind fun next => exec step next rest

/-- The transitions of a list of actions, and the state after them. -/
def record (step : σ → α → Option σ) : σ → List α → Option (List (Transition σ α) × σ)
  | s, [] => some ([], s)
  | s, a :: rest =>
      (step s a).bind fun next => (record step next rest).map fun later => (⟨s, a, next⟩ :: later.1, later.2)

/-- The step function on the actions that a test admits. -/
def restrict (step : σ → α → Option σ) (admits : σ → α → Bool) (s : σ) (a : α) : Option σ :=
  if admits s a then step s a else none

theorem exec_append (step : σ → α → Option σ) (start : σ) (before after : List α) :
    exec step start (before ++ after) = (exec step start before).bind fun s => exec step s after := by
  induction before generalizing start with
  | nil => rfl
  | cons a rest ih => simp only [List.cons_append, exec, ih, Option.bind_assoc]

namespace Run

variable {step : σ → α → Option σ} {start : σ}

/-- Runs compose. -/
theorem trans {ts us middle last} (first : Run step start ts middle)
    (second : Run step middle us last) : Run step start (ts ++ us) last := by
  induction second with
  | nil => simpa only [List.append_nil] using first
  | snoc _ taken ih => simpa only [List.append_assoc] using ih.snoc taken

/-- Executing actions is taking a run. -/
theorem of_exec {actions s} (done : exec step start actions = some s) :
    ∃ ts, Run step start ts s ∧ ts.map Transition.action = actions := by
  induction actions generalizing start with
  | nil =>
      obtain rfl := Option.some.inj done
      exact ⟨[], .nil, rfl⟩
  | cons a rest ih =>
      obtain ⟨next, taken, later⟩ := Option.bind_eq_some_iff.mp done
      obtain ⟨ts, run, labels⟩ := ih later
      refine ⟨_, (snoc .nil taken).trans run, ?_⟩
      simp only [List.nil_append, List.singleton_append, List.map_cons, labels]

variable (step start) in
/-- A concrete list of actions reaches a state with a given property. -/
theorem reaches (actions : List α) (property : σ → Bool)
    (holds : (exec step start actions).any property = true) :
    ∃ ts s, Run step start ts s ∧ ts.map Transition.action = actions ∧ property s = true := by
  obtain ⟨s, done, true_⟩ := (Option.any_eq_true _ _).mp holds
  obtain ⟨ts, run, labels⟩ := of_exec done
  exact ⟨ts, s, run, labels, true_⟩

/-- Recording actions is taking a run. -/
theorem of_record {actions ts s} (done : record step start actions = some (ts, s)) :
    Run step start ts s ∧ ts.map Transition.action = actions := by
  induction actions generalizing start ts with
  | nil =>
      cases done
      exact ⟨.nil, rfl⟩
  | cons a rest ih =>
      obtain ⟨next, taken, later⟩ := Option.bind_eq_some_iff.mp done
      obtain ⟨⟨us, last⟩, recorded, same⟩ := Option.map_eq_some_iff.mp later
      cases same
      obtain ⟨run, labels⟩ := ih recorded
      exact ⟨(snoc .nil taken).trans run, by rw [List.map_cons, labels]⟩

variable (step start) in
/-- A concrete list of actions makes a run with a given property. -/
theorem records (actions : List α) (property : List (Transition σ α) → σ → Bool)
    (holds : (record step start actions).any (fun recorded => property recorded.1 recorded.2) = true) :
    ∃ ts s, Run step start ts s ∧ ts.map Transition.action = actions ∧ property ts s = true := by
  obtain ⟨⟨ts, s⟩, done, true_⟩ := (Option.any_eq_true _ _).mp holds
  obtain ⟨run, labels⟩ := of_record done
  exact ⟨ts, s, run, labels, true_⟩

/-- The runs of the restricted step function are the runs whose transitions
    are all admitted. -/
theorem of_restrict {admits : σ → α → Bool} {ts s} (run : Run (restrict step admits) start ts s) :
    Run step start ts s ∧ ∀ t ∈ ts, admits t.before t.action = true := by
  induction run with
  | nil => exact ⟨.nil, by simp⟩
  | snoc _ taken ih =>
      obtain ⟨admitted, taken⟩ := Option.ite_none_right_eq_some.mp taken
      refine ⟨ih.1.snoc taken, ?_⟩
      intro t member
      rcases List.mem_append.mp member with earlier | last
      · exact ih.2 t earlier
      · obtain rfl := List.mem_singleton.mp last
        exact admitted

/-- Every recorded transition is a step taken at the end of a shorter run. -/
theorem split {ts s} (run : Run step start ts s) {t} (member : t ∈ ts) :
    ∃ pre post, ts = pre ++ t :: post ∧ Run step start pre t.before ∧
      step t.before t.action = some t.after ∧ Run step t.after post s := by
  induction run with
  | nil => simp only [List.not_mem_nil] at member
  | snoc earlier taken ih =>
      rcases List.mem_append.mp member with old | new
      · obtain ⟨pre, post, shape, before, fired, after⟩ := ih old
        refine ⟨pre, _, ?_, before, fired, after.snoc taken⟩
        rw [shape, List.append_assoc, List.cons_append]
      · obtain rfl := List.mem_singleton.mp new
        exact ⟨_, [], rfl, earlier, taken, .nil⟩

/-- An invariant of the start that every admissible transition keeps holds at
    the end of a run made of admissible transitions. -/
theorem invariant (inv : σ → Prop) (good : Transition σ α → Prop) {ts s}
    (run : Run step start ts s) (admissible : ∀ t ∈ ts, good t) (initial : inv start)
    (keep : ∀ t, good t → inv t.before → step t.before t.action = some t.after → inv t.after) :
    inv s := by
  induction run with
  | nil => exact initial
  | snoc _ taken ih =>
      have before := ih (fun t member => admissible t (List.mem_append_left _ member))
      exact keep _ (admissible _ (List.mem_append_right _ List.mem_cons_self)) before taken

/-- What only `wide` actions gather, and only `harmful` actions spoil, is not
    spoilt in a run where nothing harmful comes after a wide action. -/
theorem unspoilt {ι : Type*} (gathered : List (Transition σ α) → σ → List ι) (sound : σ → ι → Prop)
    {wide harmful : α → Prop} {ts s}
    (empty : gathered [] start = [])
    (gathers : ∀ {ts t}, Run step start ts t.before → step t.before t.action = some t.after →
      ∀ x ∈ gathered (ts ++ [t]) t.after, x ∈ gathered ts t.before ∨ wide t.action ∧ sound t.after x)
    (keeps : ∀ {t : Transition σ α} {x}, step t.before t.action = some t.after → ¬ harmful t.action →
      sound t.before x → sound t.after x)
    (run : Run step start ts s) (last : ts.Pairwise fun t u => wide t.action → ¬ harmful u.action) :
    ∀ x ∈ gathered ts s, (∃ t ∈ ts, wide t.action) ∧ sound s x := by
  induction run with
  | nil =>
      intro x member
      rw [empty] at member
      cases member
  | @snoc ts s a s' earlier taken ih =>
      intro x member
      obtain ⟨before, -, behind⟩ := List.pairwise_append.mp last
      rcases @gathers ts ⟨s, a, s'⟩ earlier taken x member with old | ⟨isWide, new⟩
      · obtain ⟨⟨t, here, isWide⟩, was⟩ := ih before x old
        have harmless : ¬ harmful a := behind t here _ List.mem_cons_self isWide
        exact ⟨⟨t, List.mem_append_left _ here, isWide⟩, @keeps ⟨s, a, s'⟩ x taken harmless was⟩
      · exact ⟨⟨_, List.mem_append_right _ List.mem_cons_self, isWide⟩, new⟩

end Run
