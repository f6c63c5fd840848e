import Jsonrpsee.Client.World

/-! # Runs of critical sections

The two background tasks release the lock between two sections, so a received
array can be interrupted by messages of the front-end and by the consumers. An
event is one section or one action of a caller; runs of events contain the runs
of the world and every finer interleaving.
-/

namespace Jsonrpsee

inductive Event where
  | critical (op : Op)
  | dropOneshot (oneshot : OneshotId)
  | dropReceiver (sink : SinkId)
  | read (sink : SinkId)

namespace Backend

def event (cfg : Config) (b : Backend) : Event → Option Backend
  | .critical op => some (b.apply cfg op).2
  | .dropOneshot oneshot => some (World.dropOneshot b oneshot)
  | .dropReceiver sink => some { b with channels := b.channels.dropReceiver sink }
  | .read sink => (b.channels.read sink).map fun channels => { b with channels }

/-- An event is a critical section, or it changes no table, answers nobody and
    creates no channel. -/
theorem event_cases {cfg : Config} {b after : Backend} {e : Event} (fired : b.event cfg e = some after) :
    (∃ op, e = .critical op ∧ after = (b.apply cfg op).2) ∨
      (∀ op, e ≠ .critical op) ∧ after.manager = b.manager ∧
        after.channels.answers = b.channels.answers ∧ after.channels.nextSink = b.channels.nextSink := by
  cases e with
  | critical op => exact .inl ⟨op, rfl, (Option.some.inj fired).symm⟩
  | dropOneshot oneshot =>
      obtain rfl := Option.some.inj fired
      exact .inr ⟨fun _ => nofun, rfl, rfl, rfl⟩
  | dropReceiver sink =>
      obtain rfl := Option.some.inj fired
      exact .inr ⟨fun _ => nofun, rfl, Channels.dropReceiver_answers _ _, Channels.updateSink_nextSink _ _ _⟩
  | read sink =>
      obtain ⟨channels, got, rfl⟩ := Option.map_eq_some_iff.mp fired
      exact .inr ⟨fun _ => nofun, rfl, Channels.read_answers _ _ got, Channels.read_nextSink _ _ got⟩

theorem event_applyAll (cfg : Config) (b : Backend) (ops : List Op) :
    ∃ us, Run (event cfg) b us (b.applyAll cfg ops) := by
  induction ops generalizing b with
  | nil => exact ⟨[], .nil⟩
  | cons op rest ih =>
      obtain ⟨us, later⟩ := ih (b.apply cfg op).2
      have first : b.event cfg (.critical op) = some (b.apply cfg op).2 := rfl
      exact ⟨_, (Run.snoc .nil first).trans later⟩

end Backend

/-- A step of the world is a run of events. -/
theorem World.step_events {serde : SerdeJson} {cfg : Config} {w w' : World} {a : Action}
    (taken : w.step serde cfg a = some w') :
    ∃ us, Run (Backend.event cfg) w.backend us w'.backend := by
  have single : ∀ (e : Event) {b'}, w.backend.event cfg e = some b' →
      ∃ us, Run (Backend.event cfg) w.backend us b' := fun e b' fired => ⟨_, .snoc .nil fired⟩
  cases a with
  | front msg =>
      obtain ⟨handed, -, rfl⟩ := Option.map_eq_some_iff.mp taken
      exact single (.critical (.front msg)) rfl
  | recv raw =>
      obtain rfl := Option.some.inj taken
      obtain ⟨quiet, last, ends, -⟩ := w.backend.recv_ops serde cfg raw
      dsimp only
      rw [ends]
      exact Backend.event_applyAll cfg w.backend _
  | dropOneshot oneshot =>
      obtain rfl := Option.some.inj taken
      exact single (.dropOneshot oneshot) rfl
  | dropReceiver sink =>
      obtain rfl := Option.some.inj taken
      exact single (.dropReceiver sink) rfl
  | read sink =>
      obtain ⟨channels, got, rfl⟩ := Option.map_eq_some_iff.mp taken
      exact single (.read sink) (by simp only [Backend.event, got, Option.map_some])

/-- So every run of the world is one. -/
theorem World.run_events {serde : SerdeJson} {cfg : Config} {ts w}
    (run : Run (World.step serde cfg) .new ts w) :
    ∃ us, Run (Backend.event cfg) .new us w.backend := by
  refine run.invariant (fun w => ∃ us, Run (Backend.event cfg) .new us w.backend) (fun _ => True)
    (fun _ _ => trivial) ⟨[], .nil⟩ ?_
  intro t _ before taken
  obtain ⟨us, earlier⟩ := before
  obtain ⟨more, later⟩ := step_events taken
  exact ⟨_, earlier.trans later⟩

end Jsonrpsee
