import Jsonrpsee.Lib.Run
import Jsonrpsee.Server.RpcService

/-! # The connection manager

A connection is registered before its upgrade and unregistered behind its background
task, in the future that drives it. Between the two there is an early return: when
the upgrade fails, the entry stays. Broadcasts unregister the connections that
cannot be reached, in tasks of their own.
-/

namespace Jsonrpsee

namespace Server

/-- The sink of a connection, by the number of its registration. -/
abbrev Sink := Nat

/-- Manages active WebSocket connections. -/
structure ConnectionManager where
  connections : Table ConnectionId Sink

namespace ConnectionManager

def new : ConnectionManager := { connections := ∅ }

/-- Register a new connection with its associated method sink. -/
def registerConnection (m : ConnectionManager) (connId : ConnectionId) (sink : Sink) : ConnectionManager :=
  { connections := m.connections.insert connId sink }

/-- Unregister a connection when it's closed. -/
def unregisterConnection (m : ConnectionManager) (connId : ConnectionId) : ConnectionManager :=
  { connections := m.connections.erase connId }

/-- Check if a specific connection is active. -/
def isConnectionActive (m : ConnectionManager) (connId : ConnectionId) : Bool := (m.connections.lookup connId).isSome

/-- The connections that a broadcast to those of the filter cannot reach. -/
def failedConnections (m : ConnectionManager) (filter : ConnectionId → Bool) (closed : Sink → Bool) :
    Finset ConnectionId :=
  m.connections.keys.filter fun connId => filter connId && (m.connections.lookup connId).any closed

end ConnectionManager

/-- The two copies of the set-up code. -/
inductive EntryPoint where
  /-- `ws::connect`. -/
  | connect
  /-- `TowerServiceNoHttp::call`. -/
  | call
  deriving Repr, DecidableEq

/-- How far the future of a connection has come. -/
inductive Phase where
  | created
  /-- Registered; waits for `hyper::upgrade::on`. -/
  | upgrading (sink : Sink)
  /-- Runs `background_task`. -/
  | running (sink : Sink)
  /-- The background task has returned. -/
  | returned (sink : Sink)
  | completed (sink : Sink)
  /-- The future was dropped before its end. -/
  | dropped
  deriving Repr, DecidableEq

def Phase.sink : Phase → Option Sink
  | .upgrading sink | .running sink | .returned sink | .completed sink => some sink
  | .created | .dropped => none

/-- A connection with a manager. -/
structure ManagedConn where
  via : EntryPoint
  connId : ConnectionId
  phase : Phase
  deriving Repr, DecidableEq

/-- Why a background task returns. -/
inductive Ending where
  | clientClose
  | transportError
  | stopped
  deriving Repr, DecidableEq

/-- A manager and all the futures and tasks that use it. -/
structure Managed where
  manager : ConnectionManager
  /-- The number of registrations so far. -/
  sinks : Nat
  conns : List ManagedConn
  /-- What the tasks of broadcasts still have to unregister. -/
  cleanUps : List ConnectionId

inductive ManagedAction where
  /-- The handshake has been accepted; the future waits to be driven. -/
  | accept (via : EntryPoint) (connId : ConnectionId)
  | register (conn : Nat)
  | upgrade (conn : Nat)
  | upgradeFails (conn : Nat)
  | finish (conn : Nat) (ending : Ending)
  | unregister (conn : Nat)
  | drop (conn : Nat)
  /-- A broadcast finds these sinks closed, in the order of the table. -/
  | broadcast (filter : ConnectionId → Bool) (closed : Sink → Bool) (failed : List ConnectionId)
  | cleanUp (connId : ConnectionId)
  /-- The user of the manager registers a sink of its own. -/
  | registerOther (connId : ConnectionId)
  | unregisterOther (connId : ConnectionId)

namespace Managed

def new : Managed := { manager := .new, sinks := 0, conns := [], cleanUps := [] }

def setPhase (s : Managed) (conn : Nat) (c : ManagedConn) (phase : Phase) : Managed :=
  { s with conns := s.conns.set conn { c with phase } }

/-- One step of a future, a task or the user of the manager. Both set-ups take the
    same steps. -/
def step (s : Managed) : ManagedAction → Option Managed
  | .accept via connId => some { s with conns := s.conns ++ [{ via, connId, phase := .created }] }
  | .register conn =>
      match s.conns[conn]? with
      | some c =>
          match c.phase with
          | .created =>
              some { s.setPhase conn c (.upgrading s.sinks) with
                manager := s.manager.registerConnection c.connId s.sinks
                sinks := s.sinks + 1 }
          | _ => none
      | none => none
  | .upgrade conn =>
      match s.conns[conn]? with
      | some c =>
          match c.phase with
          | .upgrading sink => some (s.setPhase conn c (.running sink))
          | _ => none
      | none => none
  | .upgradeFails conn =>
      match s.conns[conn]? with
      | some c =>
          match c.phase with
          -- The future returns here.
          | .upgrading sink => some (s.setPhase conn c (.completed sink))
          | _ => none
      | none => none
  | .finish conn _ =>
      match s.conns[conn]? with
      | some c =>
          match c.phase with
          | .running sink => some (s.setPhase conn c (.returned sink))
          | _ => none
      | none => none
  | .unregister conn =>
      match s.conns[conn]? with
      | some c =>
          match c.phase with
          | .returned sink =>
              some { s.setPhase conn c (.completed sink) with manager := s.manager.unregisterConnection c.connId }
          | _ => none
      | none => none
  | .drop conn =>
      match s.conns[conn]? with
      | some c =>
          match c.phase with
          | .completed _ => none
          | _ => some (s.setPhase conn c .dropped)
      | none => none
  | .broadcast filter closed failed =>
      if failed.Nodup ∧ failed.toFinset = s.manager.failedConnections filter closed then
        some { s with cleanUps := s.cleanUps ++ failed }
      else none
  | .cleanUp connId =>
      if connId ∈ s.cleanUps then
        some { s with cleanUps := s.cleanUps.erase connId, manager := s.manager.unregisterConnection connId }
      else none
  | .registerOther connId =>
      some { s with manager := s.manager.registerConnection connId s.sinks, sinks := s.sinks + 1 }
  | .unregisterOther connId => some { s with manager := s.manager.unregisterConnection connId }

/-- Of a future that has completed no entry is left: what is registered under its id
    was registered later. -/
def NoDead (s : Managed) : Prop :=
  ∀ c ∈ s.conns, ∀ sink, c.phase = .completed sink →
    ∀ other, s.manager.connections.lookup c.connId = some other → sink < other

/-- An upgrade fails while the connection is registered. -/
def Leaks (t : Transition Managed ManagedAction) : Prop :=
  ∃ conn c sink, t.action = .upgradeFails conn ∧ t.before.conns[conn]? = some c ∧ c.phase = .upgrading sink ∧
    t.before.manager.connections.lookup c.connId = some sink

/-! ## What a step can do -/

/-- How a step changes the state. -/
inductive Move (s : Managed) : ManagedAction → Managed → Prop
  | accept {via : EntryPoint} {connId : ConnectionId} :
      Move s (.accept via connId) { s with conns := s.conns ++ [{ via, connId, phase := .created }] }
  | register {conn : Nat} {c : ManagedConn} (found : s.conns[conn]? = some c) (phase : c.phase = .created) :
      Move s (.register conn)
        { s.setPhase conn c (.upgrading s.sinks) with
          manager := s.manager.registerConnection c.connId s.sinks
          sinks := s.sinks + 1 }
  | upgrade {conn : Nat} {c : ManagedConn} {sink : Sink} (found : s.conns[conn]? = some c)
      (phase : c.phase = .upgrading sink) : Move s (.upgrade conn) (s.setPhase conn c (.running sink))
  | upgradeFails {conn : Nat} {c : ManagedConn} {sink : Sink} (found : s.conns[conn]? = some c)
      (phase : c.phase = .upgrading sink) : Move s (.upgradeFails conn) (s.setPhase conn c (.completed sink))
  | finish {conn : Nat} {ending : Ending} {c : ManagedConn} {sink : Sink} (found : s.conns[conn]? = some c)
      (phase : c.phase = .running sink) : Move s (.finish conn ending) (s.setPhase conn c (.returned sink))
  | unregister {conn : Nat} {c : ManagedConn} {sink : Sink} (found : s.conns[conn]? = some c)
      (phase : c.phase = .returned sink) :
      Move s (.unregister conn)
        { s.setPhase conn c (.completed sink) with manager := s.manager.unregisterConnection c.connId }
  | drop {conn : Nat} {c : ManagedConn} (found : s.conns[conn]? = some c) :
      Move s (.drop conn) (s.setPhase conn c .dropped)
  | broadcast {filter : ConnectionId → Bool} {closed : Sink → Bool} {failed : List ConnectionId} :
      Move s (.broadcast filter closed failed) { s with cleanUps := s.cleanUps ++ failed }
  | cleanUp {connId : ConnectionId} :
      Move s (.cleanUp connId)
        { s with cleanUps := s.cleanUps.erase connId, manager := s.manager.unregisterConnection connId }
  | registerOther {connId : ConnectionId} :
      Move s (.registerOther connId)
        { s with manager := s.manager.registerConnection connId s.sinks, sinks := s.sinks + 1 }
  | unregisterOther {connId : ConnectionId} :
      Move s (.unregisterOther connId) { s with manager := s.manager.unregisterConnection connId }

theorem move_of_step {s s' : Managed} {a : ManagedAction} (taken : s.step a = some s') : Move s a s' := by
  cases a with
  | accept via connId =>
      cases taken
      exact .accept
  | broadcast filter closed failed =>
      obtain ⟨-, same⟩ := Option.ite_none_right_eq_some.mp taken
      cases same
      exact .broadcast
  | cleanUp connId =>
      obtain ⟨-, same⟩ := Option.ite_none_right_eq_some.mp taken
      cases same
      exact .cleanUp
  | registerOther connId =>
      cases taken
      exact .registerOther
  | unregisterOther connId =>
      cases taken
      exact .unregisterOther
  | register conn =>
      simp only [step] at taken
      split at taken
      · rename_i c found
        split at taken
        · rename_i phase
          cases taken
          exact .register found phase
        · cases taken
      · cases taken
  | upgrade conn =>
      simp only [step] at taken
      split at taken
      · rename_i c found
        split at taken
        · rename_i sink phase
          cases taken
          exact .upgrade found phase
        · cases taken
      · cases taken
  | upgradeFails conn =>
      simp only [step] at taken
      split at taken
      · rename_i c found
        split at taken
        · rename_i sink phase
          cases taken
          exact .upgradeFails found phase
        · cases taken
      · cases taken
  | finish conn ending =>
      simp only [step] at taken
      split at taken
      · rename_i c found
        split at taken
        · rename_i sink phase
          cases taken
          exact .finish found phase
        · cases taken
      · cases taken
  | unregister conn =>
      simp only [step] at taken
      split at taken
      · rename_i c found
        split at taken
        · rename_i sink phase
          cases taken
          exact .unregister found phase
        · cases taken
      · cases taken
  | drop conn =>
      simp only [step] at taken
      split at taken
      · rename_i c found
        split at taken
        · cases taken
        · cases taken
          exact .drop found
      · cases taken

/-! ## What all runs keep -/

/-- The numbers of a state: an entry belongs to the last registration under its id. -/
structure Ordered (s : Managed) : Prop where
  entries : ∀ connId sink, s.manager.connections.lookup connId = some sink → sink < s.sinks
  conns : ∀ c ∈ s.conns, ∀ sink, c.phase.sink = some sink →
    sink < s.sinks ∧ ∀ other, s.manager.connections.lookup c.connId = some other → sink ≤ other
  noDead : s.NoDead

namespace Ordered

variable {s s' : Managed}

theorem ordered_new : Ordered new := by
  refine ⟨?_, ?_, ?_⟩
  · intro connId sink found
    rw [new, ConnectionManager.new, Finmap.lookup_empty] at found
    cases found
  · intro c member
    cases member
  · intro c member
    cases member

theorem registerConnection (ordered : s.Ordered) (connId : ConnectionId) :
    Ordered { s with manager := s.manager.registerConnection connId s.sinks, sinks := s.sinks + 1 } := by
  refine ⟨?_, ?_, ?_⟩
  · intro connId' sink found
    rw [ConnectionManager.registerConnection, Table.lookup_insert_ite] at found
    split at found
    · cases found
      exact Nat.lt_succ_self _
    · exact Nat.lt_succ_of_lt (ordered.entries connId' sink found)
  · intro c member sink own
    obtain ⟨old, least⟩ := ordered.conns c member sink own
    refine ⟨Nat.lt_succ_of_lt old, ?_⟩
    intro other found
    rw [ConnectionManager.registerConnection, Table.lookup_insert_ite] at found
    split at found
    · cases found
      exact Nat.le_of_lt old
    · exact least other found
  · intro c member sink completed other found
    rw [ConnectionManager.registerConnection, Table.lookup_insert_ite] at found
    split at found
    · cases found
      refine (ordered.conns c member sink ?_).1
      rw [completed]
      rfl
    · exact ordered.noDead c member sink completed other found

theorem unregisterConnection (ordered : s.Ordered) (connId : ConnectionId) :
    Ordered { s with manager := s.manager.unregisterConnection connId } := by
  have still : ∀ {connId' other}, (s.manager.unregisterConnection connId).connections.lookup connId' = some other →
      s.manager.connections.lookup connId' = some other := by
    intro connId' other found
    rw [ConnectionManager.unregisterConnection, Table.lookup_erase_ite] at found
    exact (Option.ite_none_left_eq_some.mp found).2
  refine ⟨?_, ?_, ?_⟩
  · intro connId' sink found
    exact ordered.entries connId' sink (still found)
  · intro c member sink own
    obtain ⟨old, least⟩ := ordered.conns c member sink own
    exact ⟨old, fun other found => least other (still found)⟩
  · intro c member sink completed other found
    exact ordered.noDead c member sink completed other (still found)

theorem setPhase (ordered : s.Ordered) (conn : Nat) {c : ManagedConn} {phase : Phase}
    (own : ∀ sink, phase.sink = some sink →
      sink < s.sinks ∧ ∀ other, s.manager.connections.lookup c.connId = some other → sink ≤ other)
    (alive : ∀ sink, phase = .completed sink →
      ∀ other, s.manager.connections.lookup c.connId = some other → sink < other) :
    (s.setPhase conn c phase).Ordered := by
  refine ⟨ordered.entries, ?_, ?_⟩
  · intro c' member
    rcases List.mem_or_eq_of_mem_set member with old | rfl
    · exact ordered.conns c' old
    · exact own
  · intro c' member
    rcases List.mem_or_eq_of_mem_set member with old | rfl
    · exact ordered.noDead c' old
    · exact alive

/-- A connection may go on with its sink. -/
theorem advance (ordered : s.Ordered) {conn : Nat} {c : ManagedConn} (found : s.conns[conn]? = some c) {phase : Phase}
    (same : phase.sink = c.phase.sink)
    (alive : ∀ sink, phase = .completed sink →
      ∀ other, s.manager.connections.lookup c.connId = some other → sink < other) :
    (s.setPhase conn c phase).Ordered := by
  refine ordered.setPhase conn ?_ alive
  rw [same]
  exact ordered.conns c (List.mem_of_getElem? found)

theorem move {a : ManagedAction} (ordered : s.Ordered) (taken : Move s a s') (kept : ¬ Leaks ⟨s, a, s'⟩) :
    s'.Ordered := by
  cases taken with
  | accept =>
      refine ⟨ordered.entries, ?_, ?_⟩
      · intro c member sink own
        rcases List.mem_append.mp member with old | new
        · exact ordered.conns c old sink own
        · rw [List.mem_singleton.mp new] at own
          cases own
      · intro c member sink completed
        rcases List.mem_append.mp member with old | new
        · exact ordered.noDead c old sink completed
        · rw [List.mem_singleton.mp new] at completed
          cases completed
  | @register conn c found phase =>
      refine (ordered.registerConnection c.connId).setPhase conn ?_ (fun sink completed => nomatch completed)
      rintro sink ⟨⟩
      refine ⟨Nat.lt_succ_self _, ?_⟩
      intro other here
      rw [ConnectionManager.registerConnection, Finmap.lookup_insert] at here
      cases here
      exact Nat.le_refl _
  | upgrade found phase => exact ordered.advance found (by rw [phase]; rfl) (fun sink completed => nomatch completed)
  | @upgradeFails conn c sink found phase =>
      refine ordered.advance found (by rw [phase]; rfl) ?_
      rintro _ ⟨⟩ other here
      have least := (ordered.conns c (List.mem_of_getElem? found) sink (by rw [phase]; rfl)).2 other here
      refine Nat.lt_of_le_of_ne least ?_
      rintro rfl
      exact kept ⟨conn, c, sink, rfl, found, phase, here⟩
  | finish found phase => exact ordered.advance found (by rw [phase]; rfl) (fun sink completed => nomatch completed)
  | @unregister conn c sink found phase =>
      refine (ordered.unregisterConnection c.connId).advance found (by rw [phase]; rfl) ?_
      intro _ _ other here
      rw [ConnectionManager.unregisterConnection, Finmap.lookup_erase] at here
      cases here
  | @drop conn c found =>
      exact ordered.setPhase conn (fun sink own => nomatch own) (fun sink completed => nomatch completed)
  | broadcast => exact ⟨ordered.entries, ordered.conns, ordered.noDead⟩
  | @cleanUp connId =>
      have gone := ordered.unregisterConnection connId
      exact ⟨gone.entries, gone.conns, gone.noDead⟩
  | registerOther => exact ordered.registerConnection _
  | unregisterOther => exact ordered.unregisterConnection _

end Ordered

/-- A leak is a dead connection. -/
theorem dead_of_leaks {s s' : Managed} {a : ManagedAction} (taken : s.step a = some s') (leaks : Leaks ⟨s, a, s'⟩) :
    ¬ s'.NoDead := by
  obtain ⟨conn, c, sink, rfl, found, phase, here⟩ := leaks
  have after : s' = s.setPhase conn c (.completed sink) := by
    have taken : s.step (.upgradeFails conn) = some s' := taken
    simp only [step, found, phase, Option.some.injEq] at taken
    exact taken.symm
  intro noDead
  rw [after] at noDead
  have inside : conn < s.conns.length := (List.getElem?_eq_some_iff.mp found).1
  exact Nat.lt_irrefl sink (noDead { c with phase := .completed sink } (List.mem_set inside _) sink rfl sink here)

/-- The manager holds no dead connections in any state of a run exactly when no upgrade
    fails while the connection's own registration is there. -/
theorem no_dead_connections_iff {ts : List (Transition Managed ManagedAction)} {s : Managed} (run : Run step new ts s) :
    (∀ t ∈ ts, t.after.NoDead) ↔ ∀ t ∈ ts, ¬ Leaks t := by
  constructor
  · intro noDead t member leaks
    obtain ⟨_, _, _, _, taken, _⟩ := run.split member
    exact dead_of_leaks taken leaks (noDead t member)
  · intro kept t member
    obtain ⟨pre, post, rfl, before, taken, _⟩ := run.split member
    have ordered : t.before.Ordered := before.invariant Ordered (fun t => ¬ Leaks t)
      (fun t early => kept t (List.mem_append_left _ early)) Ordered.ordered_new
      (fun t good ordered fired => ordered.move (move_of_step fired) good)
    exact (ordered.move (move_of_step taken) (kept t member)).noDead

/-- A connection that is closed by its client. -/
def closedByClient : List ManagedAction :=
  [.accept .connect 7, .register 0, .upgrade 0, .finish 0 .clientClose, .unregister 0]

theorem no_dead_connections_closed :
    ∃ ts s, Run step new ts s ∧ ts.map Transition.action = closedByClient ∧ ∀ t ∈ ts, t.after.NoDead := by
  have done : (exec step new closedByClient).isSome = true := by decide +kernel
  obtain ⟨s, done⟩ := Option.isSome_iff_exists.mp done
  obtain ⟨ts, run, labels⟩ := Run.of_exec done
  refine ⟨ts, s, run, labels, (no_dead_connections_iff run).mpr ?_⟩
  rintro t member ⟨conn, c, sink, fails, -⟩
  have label : t.action ∈ closedByClient := labels ▸ List.mem_map_of_mem member
  rw [fails] at label
  simp [closedByClient] at label

/-- The upgrade fails behind the registration: the future has completed, and its own sink
    is still there. -/
theorem dead_connection_after_failed_upgrade :
    ∃ ts s, Run step new ts s ∧
      ts.map Transition.action = [.accept .connect 7, .register 0, .upgradeFails 0] ∧
      s.conns = [{ via := .connect, connId := 7, phase := .completed 0 }] ∧
      s.manager.isConnectionActive 7 = true ∧ ¬ s.NoDead := by
  obtain ⟨ts, s, run, labels, facts⟩ := Run.reaches step new [.accept .connect 7, .register 0, .upgradeFails 0]
    (fun s => s.conns == [{ via := .connect, connId := 7, phase := .completed 0 }] &&
      s.manager.connections.lookup 7 == some 0) (by decide +kernel)
  obtain ⟨conns, entry⟩ := Bool.and_eq_true_iff.mp facts
  have conns := eq_of_beq conns
  have entry := eq_of_beq entry
  refine ⟨ts, s, run, labels, conns, ?_, ?_⟩
  · rw [ConnectionManager.isConnectionActive, entry]
    rfl
  · intro noDead
    rw [NoDead, conns] at noDead
    exact Nat.lt_irrefl 0 (noDead _ List.mem_cons_self 0 rfl 0 entry)

end Managed

end Server

end Jsonrpsee
