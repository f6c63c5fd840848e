import Jsonrpsee.Lib.Watchdog

/-! # Connections that do not answer pings

The receiving loop of a connection measures for how long nothing has come. Every call of
`try_recv` starts its timer anew; the missed pings are those of the whole connection.
-/

namespace Jsonrpsee

namespace Server

/-- Configuration of WebSocket pings. The durations are in one unit. -/
structure PingConfig where
  /-- Period which the server pings the connected client. -/
  pingInterval : Nat
  /-- Max allowed time for a connection to stay idle. -/
  inactiveLimit : Nat
  /-- Max failures; the builder refuses zero. -/
  maxFailures : Nat
  deriving Repr

/-- The loop of `background_task`, with what the running `try_recv` holds. -/
structure RecvLoop where
  now : Nat
  lastActive : Nat
  /-- When `inactivity_check` fires next. -/
  nextTick : Nat
  missedPings : Nat
  /-- `try_recv` has returned `ConnectionClosed` for the missed pings. -/
  closed : Bool
  deriving Repr, DecidableEq

inductive RecvEvent where
  /-- A message, which is handled in a task of its own. -/
  | data (time : Nat)
  /-- A message that is too large, which is answered here. -/
  | tooLarge (time : Nat)
  | pong (time : Nat)
  | tick (time : Nat)
  /-- Time passes. -/
  | pass (time : Nat)
  deriving Repr, DecidableEq

def RecvEvent.time : RecvEvent → Nat
  | .data time | .tooLarge time | .pong time | .tick time | .pass time => time

namespace RecvLoop

variable (cfg : PingConfig)

/-- `try_recv` is called. -/
def tryRecv (s : RecvLoop) (time : Nat) : RecvLoop :=
  { s with now := time, lastActive := time, nextTick := time + cfg.pingInterval }

/-- The connection is upgraded. -/
def start (time : Nat) : RecvLoop :=
  tryRecv cfg { now := time, lastActive := time, nextTick := time, missedPings := 0, closed := false } time

def step (s : RecvLoop) (e : RecvEvent) : Option RecvLoop :=
  if s.closed || e.time < s.now then none
  else
    match e with
    | .data time | .tooLarge time => some (s.tryRecv cfg time)
    | .pong time => some { s with now := time, lastActive := time }
    | .tick time =>
        if time < s.nextTick then none
        else
          -- The next deadline follows the last one, however late this tick is handled.
          let s := { s with now := time, nextTick := s.nextTick + cfg.pingInterval }
          if time - s.lastActive > cfg.inactiveLimit then
            let s := { s with missedPings := s.missedPings + 1 }
            if s.missedPings ≥ cfg.maxFailures then some { s with closed := true } else some s
          else some s
    | .pass time => some { s with now := time }

end RecvLoop

/-! ## The loop is a watchdog -/

def PingConfig.watchdog (cfg : PingConfig) : Watchdog where
  period := cfg.pingInterval
  tooLong silence := silence > cfg.inactiveLimit
  limit := cfg.inactiveLimit
  within short := Nat.not_lt.mp (of_decide_eq_false short)
  patience := cfg.maxFailures

def RecvEvent.toAction : RecvEvent → Watchdog.Action
  | .data time | .tooLarge time => .heard time true
  | .pong time => .heard time false
  | .tick time => .check time
  | .pass time => .pass time

namespace RecvLoop

variable {cfg : PingConfig} {s s' : RecvLoop} {begin_ : Nat} {ts : List (Transition RecvLoop RecvEvent)}

def toState (s : RecvLoop) : Watchdog.State :=
  { now := s.now
    lastHeard := s.lastActive
    nextCheck := s.nextTick
    failures := s.missedPings
    gaveUp := s.closed }

/-- The events of a run, as those of the watchdog. -/
def history (ts : List (Transition RecvLoop RecvEvent)) : List Watchdog.Action := ts.map fun t => t.action.toAction

/-- As long as pings may still be missed, the loop and the watchdog take the same steps. -/
theorem step_watchdog (patient : s.closed = false → s.missedPings < cfg.maxFailures) {e : RecvEvent}
    (taken : step cfg s e = some s') : cfg.watchdog.step s.toState e.toAction = some s'.toState := by
  unfold step at taken
  split at taken
  · cases taken
  rename_i guard
  have clock : e.toAction.time = e.time := by cases e <;> rfl
  have open_ : s.closed = false := by
    by_contra down
    exact guard (by simp [Bool.not_eq_false _ ▸ down])
  have left := patient open_
  unfold Watchdog.step
  rw [clock]
  refine (if_neg guard).trans ?_
  cases e with
  | data time | tooLarge time | pong time | pass time =>
      obtain rfl := Option.some.inj taken
      rfl
  | tick time =>
      dsimp only [RecvEvent.toAction, toState] at taken ⊢
      split at taken
      · cases taken
      rename_i fired
      refine (if_neg fired).trans ?_
      by_cases late : time - s.lastActive > cfg.inactiveLimit
      · have long : cfg.watchdog.tooLong (time - s.lastActive) = true := decide_eq_true late
        rw [if_pos late] at taken
        simp only [long, if_true]
        by_cases spent : s.missedPings + 1 ≥ cfg.maxFailures
        · rw [if_pos spent] at taken
          obtain rfl := Option.some.inj taken
          have gaveUp : decide (cfg.watchdog.patience ≤ s.missedPings + 1) = true := decide_eq_true spent
          rw [gaveUp]
          rfl
        · rw [if_neg spent] at taken
          obtain rfl := Option.some.inj taken
          have stays : decide (cfg.watchdog.patience ≤ s.missedPings + 1) = s.closed := by
            rw [open_]
            exact decide_eq_false spent
          rw [stays]
          rfl
      · have short : cfg.watchdog.tooLong (time - s.lastActive) = false := decide_eq_false late
        rw [if_neg late] at taken
        obtain rfl := Option.some.inj taken
        have stays : decide (cfg.watchdog.patience ≤ s.missedPings) = s.closed := by
          rw [open_]
          exact decide_eq_false (Nat.not_le.mpr left)
        simp only [short, Bool.false_eq_true, if_false, stays]
        rfl

theorem watched (patient : 0 < cfg.maxFailures) (run : Run (step cfg) (start cfg begin_) ts s) :
    ∃ us, Run cfg.watchdog.step (cfg.watchdog.start begin_) us s.toState ∧
      us.map Transition.action = history ts ∧
      ∀ delay, (∀ t ∈ ts, t.action.time ≤ t.before.nextTick + delay) → Watchdog.Punctual delay us := by
  induction run with
  | nil => exact ⟨[], .nil, rfl, fun _ _ t member => by cases member⟩
  | @snoc ts s e s' _ taken ih =>
      obtain ⟨us, run, labels, punctual⟩ := ih
      have gaveUp := (Watchdog.sound patient run).gaveUp
      have left : s.closed = false → s.missedPings < cfg.maxFailures := by
        intro open_
        refine Nat.lt_of_not_le fun spent => ?_
        have down : s.closed = true := gaveUp.mpr spent
        rw [open_] at down
        cases down
      refine ⟨_, run.snoc (step_watchdog left taken), ?_, ?_⟩
      · rw [List.map_append, labels, history, history, List.map_append]
        rfl
      · intro delay prompt t member
        rcases List.mem_append.mp member with earlier | last
        · exact punctual delay (fun t member => prompt t (List.mem_append_left _ member)) t earlier
        · obtain rfl := List.mem_singleton.mp last
          have here := prompt _ (List.mem_append_right _ (List.mem_singleton_self _))
          have clock : e.toAction.time = e.time := by cases e <;> rfl
          rw [← clock] at here
          exact here

end RecvLoop

end Server

end Jsonrpsee
