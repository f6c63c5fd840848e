import Jsonrpsee.Lib.Watchdog

/-! # Servers that do not answer

`read_task` marks every event of the transport and looks at regular times whether the
last one is too long ago. Its timer keeps its own pace, whatever arrives.
-/

namespace Jsonrpsee

/-- Configuration of WebSocket pings, as far as the reading side uses it. -/
structure ClientPingConfig where
  /-- Max allowed time for a connection to stay idle, which is the period of the checks too. -/
  inactiveLimit : Nat
  /-- Max failures; the builder refuses zero. -/
  maxFailures : Nat
  deriving Repr

inductive InactivityCheck where
  | disabled
  | enabled (inactiveDur lastActive count maxCount : Nat)
  deriving Repr, DecidableEq

namespace InactivityCheck

def new (inactiveDur maxCount now : Nat) : InactivityCheck := .enabled inactiveDur now 0 maxCount

def isInactive (check : InactivityCheck) (now : Nat) : Bool × InactivityCheck :=
  match check with
  | .disabled => (false, .disabled)
  | .enabled inactiveDur lastActive count maxCount =>
      let count := if now - lastActive ≥ inactiveDur then count + 1 else count
      (count ≥ maxCount, .enabled inactiveDur lastActive count maxCount)

def markAsActive (check : InactivityCheck) (now : Nat) : InactivityCheck :=
  match check with
  | .disabled => .disabled
  | .enabled inactiveDur _ count maxCount => .enabled inactiveDur now count maxCount

end InactivityCheck

/-- The loop of `read_task`, as far as time matters to it. -/
structure ReadLoop where
  now : Nat
  inactivityCheck : InactivityCheck
  /-- When `inactivity_stream` fires next; it never does while pings are disabled. -/
  nextTick : Option Nat
  /-- The loop has ended with `WebSocket ping/pong inactive`. -/
  inactive : Bool
  deriving Repr, DecidableEq

inductive ReadEvent where
  /-- A message or a pong. -/
  | backend (time : Nat)
  | tick (time : Nat)
  /-- Time passes. -/
  | pass (time : Nat)
  deriving Repr, DecidableEq

def ReadEvent.time : ReadEvent → Nat
  | .backend time | .tick time | .pass time => time

namespace ReadLoop

/-- The client is built. -/
def start (pingConfig : Option ClientPingConfig) (time : Nat) : ReadLoop :=
  match pingConfig with
  | none => { now := time, inactivityCheck := .disabled, nextTick := none, inactive := false }
  | some p =>
      { now := time
        inactivityCheck := .new p.inactiveLimit p.maxFailures time
        nextTick := some (time + p.inactiveLimit)
        inactive := false }

def step (pingConfig : Option ClientPingConfig) (s : ReadLoop) (e : ReadEvent) : Option ReadLoop :=
  if s.inactive || e.time < s.now then none
  else
    match e with
    | .backend time => some { s with now := time, inactivityCheck := s.inactivityCheck.markAsActive time }
    | .tick time =>
        match s.nextTick, pingConfig with
        | some due, some p =>
            if time < due then none
            else
              let (inactive, inactivityCheck) := s.inactivityCheck.isInactive time
              some { now := time, inactivityCheck, nextTick := some (due + p.inactiveLimit), inactive }
        | _, _ => none
    | .pass time => some { s with now := time }

end ReadLoop

/-! ## The loop is a watchdog -/

def ClientPingConfig.watchdog (cfg : ClientPingConfig) : Watchdog where
  period := cfg.inactiveLimit
  tooLong silence := silence ≥ cfg.inactiveLimit
  limit := cfg.inactiveLimit
  within short := Nat.le_of_not_le (of_decide_eq_false short)
  patience := cfg.maxFailures

def ReadEvent.toAction : ReadEvent → Watchdog.Action
  | .backend time => .heard time false
  | .tick time => .check time
  | .pass time => .pass time

namespace ReadLoop

variable {cfg : ClientPingConfig} {s s' : ReadLoop} {w : Watchdog.State} {begin_ : Nat}
  {ts : List (Transition ReadLoop ReadEvent)}

/-- The loop is in the state of the watchdog. -/
structure Follows (cfg : ClientPingConfig) (s : ReadLoop) (w : Watchdog.State) : Prop where
  now : s.now = w.now
  check : s.inactivityCheck = .enabled cfg.inactiveLimit w.lastHeard w.failures cfg.maxFailures
  nextTick : s.nextTick = some w.nextCheck
  inactive : s.inactive = w.gaveUp

def history (ts : List (Transition ReadLoop ReadEvent)) : List Watchdog.Action := ts.map fun t => t.action.toAction

theorem step_watchdog (follows : Follows cfg s w) {e : ReadEvent} (taken : step (some cfg) s e = some s') :
    ∃ w', cfg.watchdog.step w e.toAction = some w' ∧ Follows cfg s' w' := by
  obtain ⟨now, check, nextTick, inactive⟩ := follows
  unfold step at taken
  rw [now, check, nextTick, inactive] at taken
  split at taken
  · cases taken
  rename_i guard
  have clock : e.toAction.time = e.time := by cases e <;> rfl
  unfold Watchdog.step
  rw [clock, if_neg guard]
  cases e with
  | backend time =>
      obtain rfl := Option.some.inj taken
      exact ⟨_, rfl, rfl, rfl, rfl, rfl⟩
  | pass time =>
      obtain rfl := Option.some.inj taken
      exact ⟨_, rfl, rfl, rfl, rfl, rfl⟩
  | tick time =>
      dsimp only [ReadEvent.toAction] at taken ⊢
      split at taken
      · cases taken
      rename_i fired
      obtain rfl := Option.some.inj taken
      rw [if_neg fired]
      have same : (cfg.watchdog.tooLong (time - w.lastHeard) = true) =
          (time - w.lastHeard ≥ cfg.inactiveLimit) :=
        decide_eq_true_eq
      refine ⟨_, rfl, rfl, ?_, rfl, ?_⟩
      · simp only [InactivityCheck.isInactive, same]
      · simp only [InactivityCheck.isInactive, same]
        rfl

theorem watched (run : Run (step (some cfg)) (start (some cfg) begin_) ts s) :
    ∃ us w, Run cfg.watchdog.step (cfg.watchdog.start begin_) us w ∧ Follows cfg s w ∧
      us.map Transition.action = history ts ∧
      ∀ delay, (∀ t ∈ ts, ∀ due ∈ t.before.nextTick, t.action.time ≤ due + delay) → Watchdog.Punctual delay us := by
  induction run with
  | nil => exact ⟨[], _, .nil, ⟨rfl, rfl, rfl, rfl⟩, rfl, fun _ _ t member => by cases member⟩
  | @snoc ts s e s' _ taken ih =>
      obtain ⟨us, w, run, follows, labels, punctual⟩ := ih
      obtain ⟨w', moved, follows'⟩ := step_watchdog follows taken
      refine ⟨_, w', run.snoc moved, follows', ?_, ?_⟩
      · rw [List.map_append, labels, history, history, List.map_append]
        rfl
      · intro delay prompt t member
        rcases List.mem_append.mp member with earlier | last
        · exact punctual delay (fun t member => prompt t (List.mem_append_left _ member)) t earlier
        · obtain rfl := List.mem_singleton.mp last
          have here := prompt _ (List.mem_append_right _ (List.mem_singleton_self _)) w.nextCheck follows.nextTick
          have clock : e.toAction.time = e.time := by cases e <;> rfl
          rw [← clock] at here
          exact here

/-- The client gives a connection up exactly when as many checks as are allowed to fail
    have each come the limit or more after the last event before them. -/
theorem given_up_iff (patient : 0 < cfg.maxFailures) (run : Run (step (some cfg)) (start (some cfg) begin_) ts s) :
    s.inactive = true ↔ cfg.maxFailures ≤ cfg.watchdog.failed begin_ (history ts) := by
  obtain ⟨us, w, run, follows, labels, -⟩ := watched run
  have spent := Watchdog.gaveUp_iff patient run
  rw [labels, ← follows.inactive] at spent
  exact spent

/-- Pings that may be missed twice. -/
def twicePings : ClientPingConfig := { inactiveLimit := 40, maxFailures := 2 }

/-- Two silences that are too long, with an answer in between. -/
theorem given_up_iff_twice :
    ∃ ts s, Run (step (some twicePings)) (start (some twicePings) 0) ts s ∧
      ts.map Transition.action = [.tick 40, .backend 45, .tick 80, .tick 120] ∧ s.inactive = true ∧
      2 ≤ twicePings.watchdog.failed 0 (history ts) := by
  obtain ⟨ts, s, run, labels, inactive⟩ := Run.reaches (step (some twicePings)) (start (some twicePings) 0)
    [.tick 40, .backend 45, .tick 80, .tick 120] (fun s => s.inactive) (by decide +kernel)
  exact ⟨ts, s, run, labels, inactive, (given_up_iff (by decide) run).mp inactive⟩

/-- A connection that has not been given up has shown an event within as many periods as
    there may be failures, and one more, if the checks are handled promptly. -/
theorem active_heard_lately (patient : 0 < cfg.maxFailures) {delay : Nat}
    (run : Run (step (some cfg)) (start (some cfg) begin_) ts s)
    (prompt : ∀ t ∈ ts, ∀ due ∈ t.before.nextTick, t.action.time ≤ due + delay) (active : s.inactive = false) :
    s.now ≤ Watchdog.lastHeard begin_ (history ts) + cfg.inactiveLimit * (cfg.maxFailures + 1) + delay := by
  obtain ⟨us, w, run, follows, labels, punctual⟩ := watched run
  have heard := Watchdog.heard_lately patient run (punctual delay prompt) (follows.inactive ▸ active)
  rw [labels, ← follows.now] at heard
  have split : cfg.inactiveLimit * (cfg.maxFailures + 1) = cfg.inactiveLimit * cfg.maxFailures + cfg.inactiveLimit :=
    Nat.mul_succ ..
  have heard : s.now ≤ Watchdog.lastHeard begin_ (history ts) + cfg.inactiveLimit +
      cfg.inactiveLimit * cfg.maxFailures + delay := heard
  omega

theorem active_heard_lately_twice :
    ∃ ts s, Run (step (some twicePings)) (start (some twicePings) 0) ts s ∧
      ts.map Transition.action = [.tick 40, .backend 45, .tick 81] ∧ s.inactive = false ∧
      s.now ≤ Watchdog.lastHeard 0 (history ts) + 40 * (2 + 1) + 2 := by
  obtain ⟨ts, s, run, labels, state⟩ := Run.records (step (some twicePings)) (start (some twicePings) 0)
    [.tick 40, .backend 45, .tick 81]
    (fun ts s => (ts.all fun t => t.before.nextTick.all fun due => t.action.time ≤ due + 2) && !s.inactive)
    (by decide +kernel)
  obtain ⟨prompt, active⟩ := (Bool.and_eq_true _ _).mp state
  have active : s.inactive = false := by simpa using active
  have heard := @active_heard_lately twicePings s 0 ts (by decide) 2 run (fun t member due next => by
    have here := List.all_eq_true.mp prompt t member
    rw [Option.mem_def.mp next] at here
    exact of_decide_eq_true here) active
  exact ⟨ts, s, run, labels, active, heard⟩

end ReadLoop

end Jsonrpsee
