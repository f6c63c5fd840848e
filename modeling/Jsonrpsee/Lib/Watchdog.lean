import Jsonrpsee.Lib.Run

/-! # Watchdogs

A watchdog looks at regular times for how long it has heard nothing, and gives up once
that has been too long for a number of times. It never gives up on what it hears often
enough, and in bounded time on what stays silent.
-/

structure Watchdog where
  period : Nat
  /-- The silence that is too long. -/
  tooLong : Nat → Bool
  limit : Nat
  within : ∀ {silence}, tooLong silence = false → silence ≤ limit
  /-- How often it may have been too long before the watchdog gives up. -/
  patience : Nat

namespace Watchdog

structure State where
  now : Nat
  lastHeard : Nat
  nextCheck : Nat
  failures : Nat
  gaveUp : Bool
  deriving Repr, DecidableEq

inductive Action where
  /-- Something is heard; the timer may start anew with it. -/
  | heard (time : Nat) (restart : Bool)
  /-- The timer has fired. -/
  | check (time : Nat)
  /-- Time passes. -/
  | pass (time : Nat)
  deriving Repr, DecidableEq

def Action.time : Action → Nat
  | .heard time _ | .check time | .pass time => time

def Action.heardAt : Action → Option Nat
  | .heard time _ => some time
  | .check _ | .pass _ => none

variable (w : Watchdog)

def start (time : Nat) : State :=
  { now := time, lastHeard := time, nextCheck := time + w.period, failures := 0, gaveUp := false }

def step (s : State) (a : Action) : Option State :=
  if s.gaveUp || a.time < s.now then none
  else
    match a with
    | .heard time restart =>
        some { s with
          now := time
          lastHeard := time
          nextCheck := if restart then time + w.period else s.nextCheck }
    | .check time =>
        if time < s.nextCheck then none
        else
          let failures := if w.tooLong (time - s.lastHeard) then s.failures + 1 else s.failures
          some { s with
            now := time
            nextCheck := s.nextCheck + w.period
            failures
            gaveUp := w.patience ≤ failures }
    | .pass time => some { s with now := time }

/-! ## What a history says -/

/-- When something was heard last, or the watchdog was started. -/
def lastHeard (begin_ : Nat) (actions : List Action) : Nat := (actions.filterMap Action.heardAt).getLast?.getD begin_

/-- A check finds that the silence before it is too long. -/
def fails (begin_ : Nat) (before : List Action) : Action → Bool
  | .check time => w.tooLong (time - lastHeard begin_ before)
  | .heard _ _ | .pass _ => false

/-- The number of checks that find so. -/
def failed (begin_ : Nat) (actions : List Action) : Nat :=
  (List.range actions.length).countP fun i => actions[i]?.any (w.fails begin_ (actions.take i))

@[simp] theorem lastHeard_nil (begin_ : Nat) : lastHeard begin_ [] = begin_ := rfl

theorem lastHeard_concat (begin_ : Nat) (before : List Action) (a : Action) :
    lastHeard begin_ (before ++ [a]) = a.heardAt.getD (lastHeard begin_ before) := by
  unfold lastHeard
  cases heard : a.heardAt with
  | none => simp [List.filterMap_append, heard]
  | some time => simp [List.filterMap_append, heard]

@[simp] theorem failed_nil (begin_ : Nat) : w.failed begin_ [] = 0 := rfl

theorem failed_concat (begin_ : Nat) (before : List Action) (a : Action) :
    w.failed begin_ (before ++ [a]) = w.failed begin_ before + if w.fails begin_ before a then 1 else 0 := by
  have earlier : ∀ i ∈ List.range before.length,
      (before ++ [a])[i]?.any (w.fails begin_ ((before ++ [a]).take i)) =
        before[i]?.any (w.fails begin_ (before.take i)) := by
    intro i inside
    rw [List.mem_range] at inside
    rw [List.getElem?_append_left inside, List.take_append_of_le_length (Nat.le_of_lt inside)]
  have last : (before ++ [a])[before.length]?.any (w.fails begin_ ((before ++ [a]).take before.length)) =
      w.fails begin_ before a := by
    rw [List.getElem?_concat_length, List.take_left, Option.any_some]
  unfold failed
  rw [List.length_append, List.length_singleton, List.range_succ, List.countP_append, List.countP_singleton, last]
  congr 1
  exact List.countP_congr fun i inside => by rw [earlier i inside]

/-! ## Every run -/

variable {w} {begin_ : Nat} {s s' : State} {ts : List (Transition State Action)}

/-- The state agrees with the history, and the next check is near. -/
structure Sound (w : Watchdog) (begin_ : Nat) (actions : List Action) (s : State) : Prop where
  lastHeard : s.lastHeard = lastHeard begin_ actions
  failures : s.failures = w.failed begin_ actions
  gaveUp : s.gaveUp = true ↔ w.patience ≤ s.failures
  heard : s.lastHeard ≤ s.now
  soon : s.nextCheck ≤ s.now + w.period
  due : s.nextCheck ≤ s.lastHeard + w.limit + w.period * (s.failures + 1)

theorem Sound.start (patient : 0 < w.patience) (begin_ : Nat) : Sound w begin_ [] (w.start begin_) where
  lastHeard := rfl
  failures := rfl
  gaveUp := iff_of_false nofun (Nat.not_le.mpr patient)
  heard := Nat.le_refl _
  soon := Nat.le_refl _
  due := by
    simp only [Watchdog.start, Nat.zero_add, Nat.mul_one]
    omega

theorem Sound.of_step {actions : List Action} (sound : Sound w begin_ actions s) {a : Action}
    (taken : w.step s a = some s') : Sound w begin_ (actions ++ [a]) s' := by
  obtain ⟨lastHeard, failures, gaveUp, heard, soon, due⟩ := sound
  unfold step at taken
  split at taken
  · cases taken
  rename_i guard
  have open_ : ¬ w.patience ≤ s.failures := by
    rw [← gaveUp]
    exact fun down => guard (by simp [down])
  have later : s.now ≤ a.time := by
    by_contra earlier
    exact guard (by simp [Nat.lt_of_not_le earlier])
  cases a with
  | heard time restart =>
      obtain rfl := Option.some.inj taken
      have later : s.now ≤ time := later
      constructor
      · rw [lastHeard_concat]
        rfl
      · rw [failed_concat]
        exact failures
      · exact gaveUp
      · exact Nat.le_refl _
      · cases restart with
        | true => exact Nat.le_refl _
        | false => exact Nat.le_trans soon (Nat.add_le_add_right later _)
      · have more : w.period ≤ w.period * (s.failures + 1) := Nat.le_mul_of_pos_right _ (by omega)
        cases restart <;> simp <;> omega
  | check time =>
      dsimp only at taken
      split at taken
      · cases taken
      rename_i fired
      obtain rfl := Option.some.inj taken
      have later : s.now ≤ time := later
      have next : w.period * (s.failures + 1 + 1) = w.period * (s.failures + 1) + w.period := Nat.mul_succ ..
      constructor
      · rw [lastHeard_concat]
        exact lastHeard
      · rw [failed_concat, ← failures, fails, ← lastHeard]
        split <;> rfl
      · exact decide_eq_true_iff
      · exact Nat.le_trans heard later
      · dsimp only
        omega
      · dsimp only
        cases long : w.tooLong (time - s.lastHeard) with
        | true =>
            simp only [if_true]
            omega
        | false =>
            -- The check was not late, so the next one is not either.
            have within := w.within long
            have more : w.period ≤ w.period * (s.failures + 1) := Nat.le_mul_of_pos_right _ (by omega)
            simp only [Bool.false_eq_true, if_false]
            omega
  | pass time =>
      obtain rfl := Option.some.inj taken
      have later : s.now ≤ time := later
      constructor
      · rw [lastHeard_concat]
        exact lastHeard
      · rw [failed_concat]
        exact failures
      · exact gaveUp
      · exact Nat.le_trans heard later
      · dsimp only
        omega
      · exact due

theorem sound (patient : 0 < w.patience) (run : Run w.step (w.start begin_) ts s) :
    Sound w begin_ (ts.map Transition.action) s := by
  induction run with
  | nil => exact .start patient begin_
  | snoc _ taken ih =>
      rw [List.map_append]
      exact ih.of_step taken

/-- The watchdog gives up exactly when enough checks have found too long a silence. -/
theorem gaveUp_iff (patient : 0 < w.patience) (run : Run w.step (w.start begin_) ts s) :
    s.gaveUp = true ↔ w.patience ≤ w.failed begin_ (ts.map Transition.action) := by
  have sound := sound patient run
  rw [sound.gaveUp, sound.failures]

/-- Nothing happens long after a check is due. -/
def Punctual (delay : Nat) (ts : List (Transition State Action)) : Prop :=
  ∀ t ∈ ts, t.action.time ≤ t.before.nextCheck + delay

theorem now_le_of_punctual {delay : Nat} (run : Run w.step (w.start begin_) ts s) (punctual : Punctual delay ts) :
    s.now ≤ s.nextCheck + delay := by
  induction run with
  | nil =>
      simp only [start]
      omega
  | @snoc ts s a s' _ taken _ =>
      have prompt : a.time ≤ s.nextCheck + delay := punctual _ (List.mem_append_right _ (List.mem_singleton_self _))
      unfold step at taken
      split at taken
      · cases taken
      cases a with
      | heard time restart =>
          obtain rfl := Option.some.inj taken
          have prompt : time ≤ s.nextCheck + delay := prompt
          cases restart <;> simp <;> omega
      | check time =>
          dsimp only at taken
          split at taken
          · cases taken
          obtain rfl := Option.some.inj taken
          have prompt : time ≤ s.nextCheck + delay := prompt
          dsimp only
          omega
      | pass time =>
          obtain rfl := Option.some.inj taken
          exact prompt

/-- A watchdog that has not given up has heard something lately. -/
theorem heard_lately (patient : 0 < w.patience) {delay : Nat} (run : Run w.step (w.start begin_) ts s)
    (punctual : Punctual delay ts) (open_ : s.gaveUp = false) :
    s.now ≤ lastHeard begin_ (ts.map Transition.action) + w.limit + w.period * w.patience + delay := by
  have sound := sound patient run
  have prompt := now_le_of_punctual run punctual
  have left : s.failures + 1 ≤ w.patience := by
    by_contra spent
    have down := sound.gaveUp.mpr (by omega)
    rw [open_] at down
    cases down
  have most : w.period * (s.failures + 1) ≤ w.period * w.patience := Nat.mul_le_mul_left _ left
  have due := sound.due
  rw [← sound.lastHeard]
  omega

end Watchdog
