import Jsonrpsee.Lib.Run
import Jsonrpsee.Lib.Weights
import Jsonrpsee.Server.Http

/-! # The life of a server

`start_inner` accepts connections until it is told to stop, and then waits for
them. Every connection runs in a task of its own; an upgraded connection goes on
in yet another task. The calls over HTTP and the upgraded connections share the
permits of the connection guard, and whatever is alive holds a stop handle.
-/

namespace Jsonrpsee

namespace Server

/-- Error when the server has already been stopped. -/
structure AlreadyStoppedError where
  deriving Repr, DecidableEq

/-- The part of the configuration that decides what becomes of a request. -/
structure AcceptConfig where
  maxConnections : Nat
  enableHttp : Bool
  enableWs : Bool

/-- How far `start_inner` has come. -/
inductive Acceptor where
  /-- In the loop over `try_accept_conn`. -/
  | accepting
  /-- Waits until the last sender of `drop_on_completion` is gone. -/
  | awaiting
  | ended
  deriving Repr, DecidableEq

/-- The stop handles of `start_inner`: its own, and that of the future `stopped`. -/
def Acceptor.stopHandles : Acceptor → Nat
  | .accepting => 2
  | .awaiting => 1
  | .ended => 0

def Acceptor.completions : Acceptor → Nat
  | .accepting => 1
  | .awaiting | .ended => 0

/-- The task of a connection, with the HTTP calls that it drives. -/
structure TcpConn where
  connId : UInt32
  calls : Nat
  /-- The stop signal has been seen and `graceful_shutdown` called. -/
  graceful : Bool
  deriving Repr, DecidableEq

def TcpConn.new (connId : UInt32) : TcpConn := { connId, calls := 0, graceful := false }

/-- The stop handles in the task of a connection: one in its service, one in the
    future `stopped` until that is through, and one with each call. -/
def TcpConn.stopHandles (c : TcpConn) : Nat := 1 + (if c.graceful then 0 else 1) + c.calls

/-- The task of an upgraded connection. -/
structure WsSession where
  connId : UInt32
  deriving Repr, DecidableEq

structure ServerLife where
  /-- Clones of the `ServerHandle`. -/
  handles : Nat
  /-- `ServerHandle::stop` has been called. -/
  changed : Bool
  /-- Receivers of the channel that the handles send on. -/
  stopHandles : Nat
  acceptor : Acceptor
  /-- Senders of `drop_on_completion`. -/
  completions : Nat
  id : UInt32
  /-- Connections accepted so far, which also names them. -/
  accepted : Nat
  conns : Table Nat TcpConn
  permits : Nat
  /-- Upgraded connections so far. -/
  upgraded : Nat
  sessions : Table Nat WsSession

/-- A request, as the service of a connection gets it. -/
structure ServiceRequest where
  isUpgrade : Bool
  /-- What `receive_request` says to the handshake. -/
  handshake : Except String Unit

/-- What the service does with a request. -/
inductive Called where
  | response (rp : HttpResponse)
  | upgraded
  /-- The request is handled by `call_with_service`. -/
  | http

def tooManyRequests : HttpResponse := { status := 429, body := "Too many connections. Please try again later." }

def denied : HttpResponse := { status := 403, body := "" }

/-- `TowerServiceNoHttp::call`, by the permits that are left. -/
def TowerServiceNoHttp.call (cfg : AcceptConfig) (permits : Nat) (req : ServiceRequest) : Called :=
  if permits = 0 then .response tooManyRequests
  else if cfg.enableWs && req.isUpgrade then
    match req.handshake with
    | .ok () => .upgraded
    | .error e => .response { status := 200, body := "Could not upgrade connection: " ++ e }
  else if cfg.enableHttp && !req.isUpgrade then .http
  else .response denied

inductive LifeAction where
  /-- `ServerHandle::stop`. -/
  | stop
  | cloneHandle
  | dropHandle
  /-- A connection is established; `set_nodelay` may fail on its socket. -/
  | accept (nodelay : Bool)
  | acceptError
  /-- The loop sees the stop signal. -/
  | shutdown
  /-- `start_inner` returns. -/
  | finish
  | request (conn : Nat) (req : ServiceRequest)
  /-- The future of an HTTP call is through, or is dropped. -/
  | respond (conn : Nat)
  /-- The task of a connection sees the stop signal. -/
  | graceful (conn : Nat)
  /-- A connection ends, and with it what is left of its calls. -/
  | close (conn : Nat)
  /-- The upgrade has failed, or `background_task` has returned. -/
  | sessionEnds (session : Nat)

/-- The actions that bring a server to its end. -/
def LifeAction.Closes : LifeAction → Prop
  | .shutdown | .finish | .close _ | .sessionEnds _ => True
  | .stop | .cloneHandle | .dropHandle | .accept _ | .acceptError | .request _ _ | .respond _ | .graceful _ => False

namespace ServerLife

/-- `Server::start`. -/
def start (cfg : AcceptConfig) : ServerLife :=
  { handles := 1
    changed := false
    -- `stop_handle` and its clone in the future `stopped`.
    stopHandles := 2
    acceptor := .accepting
    completions := 1
    id := 0
    accepted := 0
    conns := ∅
    permits := cfg.maxConnections
    upgraded := 0
    sessions := ∅ }

/-- `StopHandle::shutdown` resolves: the value has been sent, or the last sender is gone. -/
def signalled (s : ServerLife) : Bool := s.changed || s.handles = 0

/-- `ServerHandle::is_stopped`, and that `ServerHandle::stopped` resolves. -/
def isStopped (s : ServerLife) : Bool := s.stopHandles = 0

/-- What `ServerHandle::stop` gives back: nothing can be sent without a receiver. -/
def stop (s : ServerLife) : Except AlreadyStoppedError Unit := if s.stopHandles = 0 then .error {} else .ok ()

def step (cfg : AcceptConfig) (s : ServerLife) : LifeAction → Option ServerLife
  | .stop =>
      if s.handles = 0 then none
      else
        match s.stop with
        | .ok () => some { s with changed := true }
        | .error _ => some s
  | .cloneHandle => if s.handles = 0 then none else some { s with handles := s.handles + 1 }
  | .dropHandle => if s.handles = 0 then none else some { s with handles := s.handles - 1 }
  | .accept nodelay =>
      if s.acceptor = .accepting then
        -- `select` polls the listener first, so the stop signal may be there already.
        let s' := { s with id := s.id + 1, accepted := s.accepted + 1 }
        if nodelay then
          some { s' with
            conns := s.conns.insert s.accepted (.new s.id)
            stopHandles := s.stopHandles + 2
            completions := s.completions + 1 }
        else some s'
      else none
  | .acceptError => if s.acceptor = .accepting then some s else none
  | .shutdown =>
      if s.acceptor = .accepting ∧ s.signalled then
        some { s with acceptor := .awaiting, stopHandles := s.stopHandles - 1, completions := s.completions - 1 }
      else none
  | .finish =>
      if s.acceptor = .awaiting ∧ s.completions = 0 then
        some { s with acceptor := .ended, stopHandles := s.stopHandles - 1 }
      else none
  | .request conn req =>
      (s.conns.lookup conn).map fun c =>
        match TowerServiceNoHttp.call cfg s.permits req with
        | .response _ => s
        | .upgraded =>
            { s with
              permits := s.permits - 1
              -- Of the `ConnectionState`, and of the future `stopped` that `background_task` makes of it when
              -- the upgrade is through; both are counted from here on.
              stopHandles := s.stopHandles + 2
              upgraded := s.upgraded + 1
              sessions := s.sessions.insert s.upgraded { connId := c.connId } }
        | .http =>
            { s with
              permits := s.permits - 1
              stopHandles := s.stopHandles + 1
              conns := s.conns.insert conn { c with calls := c.calls + 1 } }
  | .respond conn =>
      (s.conns.lookup conn).bind fun c =>
        if c.calls = 0 then none
        else some { s with
          permits := s.permits + 1
          stopHandles := s.stopHandles - 1
          conns := s.conns.insert conn { c with calls := c.calls - 1 } }
  | .graceful conn =>
      (s.conns.lookup conn).bind fun c =>
        if c.graceful || !s.signalled then none
        else some { s with
          stopHandles := s.stopHandles - 1
          conns := s.conns.insert conn { c with graceful := true } }
  | .close conn =>
      (s.conns.lookup conn).map fun c =>
        { s with
          permits := s.permits + c.calls
          stopHandles := s.stopHandles - c.stopHandles
          completions := s.completions - 1
          conns := s.conns.erase conn }
  | .sessionEnds session =>
      (s.sessions.lookup session).map fun _ =>
        { s with
          permits := s.permits + 1
          stopHandles := s.stopHandles - 2
          sessions := s.sessions.erase session }

variable {cfg : AcceptConfig} {s s' : ServerLife}

/-- Everything that a step can be. -/
inductive Move (cfg : AcceptConfig) (s : ServerLife) : LifeAction → ServerLife → Prop where
  /-- The server has stopped already, no connection was accepted, or a request was answered at once. -/
  | nothing (a : LifeAction) : Move cfg s a s
  | stop (held : s.handles ≠ 0) (heard : s.stopHandles ≠ 0) : Move cfg s .stop { s with changed := true }
  | cloneHandle (held : s.handles ≠ 0) : Move cfg s .cloneHandle { s with handles := s.handles + 1 }
  | dropHandle (held : s.handles ≠ 0) : Move cfg s .dropHandle { s with handles := s.handles - 1 }
  | accept (open_ : s.acceptor = .accepting) :
      Move cfg s (.accept true) { s with
        id := s.id + 1
        accepted := s.accepted + 1
        conns := s.conns.insert s.accepted (.new s.id)
        stopHandles := s.stopHandles + 2
        completions := s.completions + 1 }
  | lose (open_ : s.acceptor = .accepting) :
      Move cfg s (.accept false) { s with id := s.id + 1, accepted := s.accepted + 1 }
  | shutdown (open_ : s.acceptor = .accepting) (signalled : s.signalled = true) :
      Move cfg s .shutdown
        { s with acceptor := .awaiting, stopHandles := s.stopHandles - 1, completions := s.completions - 1 }
  | finish (waits : s.acceptor = .awaiting) (alone : s.completions = 0) :
      Move cfg s .finish { s with acceptor := .ended, stopHandles := s.stopHandles - 1 }
  | upgrade {k : Nat} {c : TcpConn} {req : ServiceRequest} (found : s.conns.lookup k = some c) (free : s.permits ≠ 0) :
      Move cfg s (.request k req) { s with
        permits := s.permits - 1
        stopHandles := s.stopHandles + 2
        upgraded := s.upgraded + 1
        sessions := s.sessions.insert s.upgraded { connId := c.connId } }
  | http {k : Nat} {c : TcpConn} {req : ServiceRequest} (found : s.conns.lookup k = some c) (free : s.permits ≠ 0) :
      Move cfg s (.request k req) { s with
        permits := s.permits - 1
        stopHandles := s.stopHandles + 1
        conns := s.conns.insert k { c with calls := c.calls + 1 } }
  | respond {k : Nat} {c : TcpConn} (found : s.conns.lookup k = some c) (busy : c.calls ≠ 0) :
      Move cfg s (.respond k) { s with
        permits := s.permits + 1
        stopHandles := s.stopHandles - 1
        conns := s.conns.insert k { c with calls := c.calls - 1 } }
  | graceful {k : Nat} {c : TcpConn} (found : s.conns.lookup k = some c) (unaware : c.graceful = false)
      (signalled : s.signalled = true) :
      Move cfg s (.graceful k) { s with
        stopHandles := s.stopHandles - 1
        conns := s.conns.insert k { c with graceful := true } }
  | close {k : Nat} {c : TcpConn} (found : s.conns.lookup k = some c) :
      Move cfg s (.close k) { s with
        permits := s.permits + c.calls
        stopHandles := s.stopHandles - c.stopHandles
        completions := s.completions - 1
        conns := s.conns.erase k }
  | sessionEnds {n : Nat} {session : WsSession} (found : s.sessions.lookup n = some session) :
      Move cfg s (.sessionEnds n) { s with
        permits := s.permits + 1
        stopHandles := s.stopHandles - 2
        sessions := s.sessions.erase n }

theorem call_upgraded {permits : Nat} {req : ServiceRequest} (called : TowerServiceNoHttp.call cfg permits req = .upgraded) :
    permits ≠ 0 := by
  rintro rfl
  cases called

theorem call_http {permits : Nat} {req : ServiceRequest} (called : TowerServiceNoHttp.call cfg permits req = .http) :
    permits ≠ 0 := by
  rintro rfl
  cases called

theorem move_of_step {a : LifeAction} (taken : step cfg s a = some s') : Move cfg s a s' := by
  cases a with
  | stop =>
      simp only [step] at taken
      split at taken
      · cases taken
      · rename_i held
        unfold stop at taken
        by_cases none : s.stopHandles = 0
        · simp only [none, if_true] at taken
          obtain rfl := Option.some.inj taken
          exact .nothing _
        · simp only [none, if_false] at taken
          obtain rfl := Option.some.inj taken
          exact .stop held none
  | cloneHandle | dropHandle =>
      simp only [step] at taken
      split at taken
      · cases taken
      · rename_i held
        obtain rfl := Option.some.inj taken
        first | exact .cloneHandle held | exact .dropHandle held
  | accept nodelay =>
      obtain ⟨open_, taken⟩ := Option.ite_none_right_eq_some.mp taken
      cases nodelay with
      | true =>
          obtain rfl := Option.some.inj taken
          exact .accept open_
      | false =>
          obtain rfl := Option.some.inj taken
          exact .lose open_
  | acceptError =>
      obtain ⟨-, taken⟩ := Option.ite_none_right_eq_some.mp taken
      obtain rfl := Option.some.inj taken
      exact .nothing _
  | shutdown =>
      obtain ⟨⟨open_, signalled⟩, taken⟩ := Option.ite_none_right_eq_some.mp taken
      obtain rfl := Option.some.inj taken
      exact .shutdown open_ signalled
  | finish =>
      obtain ⟨⟨waits, alone⟩, taken⟩ := Option.ite_none_right_eq_some.mp taken
      obtain rfl := Option.some.inj taken
      exact .finish waits alone
  | request k req =>
      obtain ⟨c, found, rfl⟩ := Option.map_eq_some_iff.mp taken
      cases called : TowerServiceNoHttp.call cfg s.permits req with
      | response => exact .nothing _
      | upgraded => exact .upgrade found (call_upgraded called)
      | http => exact .http found (call_http called)
  | respond k =>
      obtain ⟨c, found, taken⟩ := Option.bind_eq_some_iff.mp taken
      split at taken
      · cases taken
      · rename_i busy
        obtain rfl := Option.some.inj taken
        exact .respond found busy
  | graceful k =>
      obtain ⟨c, found, taken⟩ := Option.bind_eq_some_iff.mp taken
      split at taken
      · cases taken
      · rename_i due
        obtain rfl := Option.some.inj taken
        simp only [Bool.or_eq_true, Bool.not_eq_true', not_or, Bool.not_eq_true, Bool.not_eq_false] at due
        exact .graceful found due.1 due.2
  | close k =>
      obtain ⟨c, found, rfl⟩ := Option.map_eq_some_iff.mp taken
      exact .close found
  | sessionEnds n =>
      obtain ⟨session, found, rfl⟩ := Option.map_eq_some_iff.mp taken
      exact .sessionEnds found

/-! ## What is counted -/

/-- The calls and upgraded connections that hold a permit. -/
def inService (s : ServerLife) : Nat := Table.weigh s.conns TcpConn.calls + Table.weigh s.sessions fun _ => 1

/-- The counters agree with what holds the things that they count. -/
structure Sound (cfg : AcceptConfig) (s : ServerLife) : Prop where
  freshConn : ∀ {k}, s.accepted ≤ k → s.conns.lookup k = none
  freshSession : ∀ {n}, s.upgraded ≤ n → s.sessions.lookup n = none
  permits : s.permits + s.inService = cfg.maxConnections
  stopHandles : s.stopHandles =
    s.acceptor.stopHandles + Table.weigh s.conns TcpConn.stopHandles + Table.weigh s.sessions fun _ => 2
  completions : s.completions = s.acceptor.completions + Table.weigh s.conns fun _ => 1

theorem Sound.start (cfg : AcceptConfig) : Sound cfg (start cfg) where
  freshConn _ := rfl
  freshSession _ := rfl
  permits := rfl
  stopHandles := rfl
  completions := rfl

/-- The task of one connection changes. -/
theorem Sound.of_conn (sound : Sound cfg s) {k : Nat} {c : TcpConn} (c' : TcpConn) (found : s.conns.lookup k = some c)
    {permits stopHandles : Nat} (paid : permits + c'.calls = s.permits + c.calls)
    (counted : stopHandles + c.stopHandles = s.stopHandles + c'.stopHandles) :
    Sound cfg { s with permits, stopHandles, conns := s.conns.insert k c' } := by
  have calls := Table.weigh_update s.conns TcpConn.calls c' found
  have handles := Table.weigh_update s.conns TcpConn.stopHandles c' found
  have number := Table.weigh_update s.conns (fun _ => 1) c' found
  obtain ⟨freshConn, freshSession, balance, stops, completions⟩ := sound
  unfold inService at balance
  refine ⟨?_, freshSession, ?_, ?_, ?_⟩
  · intro n old
    have other : n ≠ k := by
      rintro rfl
      rw [freshConn old] at found
      cases found
    exact (Finmap.lookup_insert_of_ne _ other).trans (freshConn old)
  · unfold inService
    dsimp only
    omega
  · dsimp only
    omega
  · dsimp only
    omega

theorem Sound.of_move (sound : Sound cfg s) {a : LifeAction} (move : Move cfg s a s') : Sound cfg s' := by
  have whole := sound
  obtain ⟨freshConn, freshSession, balance, stops, completions⟩ := sound
  cases move with
  | nothing | stop | cloneHandle | dropHandle => exact ⟨freshConn, freshSession, balance, stops, completions⟩
  | accept open_ =>
      have free := freshConn (Nat.le_refl s.accepted)
      have calls := Table.weigh_insert_of_free s.conns TcpConn.calls (TcpConn.new s.id) free
      have handles := Table.weigh_insert_of_free s.conns TcpConn.stopHandles (TcpConn.new s.id) free
      have number := Table.weigh_insert_of_free s.conns (fun _ => 1) (TcpConn.new s.id) free
      simp only [TcpConn.new, TcpConn.stopHandles] at calls handles
      unfold inService at balance
      refine ⟨?_, freshSession, ?_, ?_, ?_⟩
      · intro k old
        exact (Finmap.lookup_insert_of_ne _ (Nat.ne_of_gt old)).trans (freshConn (Nat.le_of_succ_le old))
      · unfold inService
        dsimp only [TcpConn.new]
        omega
      · dsimp only [TcpConn.new]
        simp only [Bool.false_eq_true, if_false] at handles
        omega
      · dsimp only
        omega
  | lose open_ =>
      exact ⟨fun old => freshConn (Nat.le_of_succ_le old), freshSession, balance, stops, completions⟩
  | shutdown open_ =>
      rw [open_] at stops completions
      simp only [Acceptor.stopHandles, Acceptor.completions] at stops completions
      refine ⟨freshConn, freshSession, balance, ?_, ?_⟩
      · simp only [Acceptor.stopHandles]
        omega
      · simp only [Acceptor.completions]
        omega
  | finish waits =>
      rw [waits] at stops completions
      simp only [Acceptor.stopHandles, Acceptor.completions] at stops completions
      refine ⟨freshConn, freshSession, balance, ?_, completions⟩
      simp only [Acceptor.stopHandles]
      omega
  | @upgrade k c req found free =>
      have unused := freshSession (Nat.le_refl s.upgraded)
      have permits := Table.weigh_insert_of_free s.sessions (fun _ => 1) (WsSession.mk c.connId) unused
      have handles := Table.weigh_insert_of_free s.sessions (fun _ => 2) (WsSession.mk c.connId) unused
      unfold inService at balance
      refine ⟨freshConn, ?_, ?_, ?_, completions⟩
      · intro n old
        exact (Finmap.lookup_insert_of_ne _ (Nat.ne_of_gt old)).trans (freshSession (Nat.le_of_succ_le old))
      · unfold inService
        dsimp only
        omega
      · dsimp only
        omega
  | @http k c req found free =>
      refine whole.of_conn { c with calls := c.calls + 1 } found ?_ ?_
      · dsimp only
        omega
      · simp only [TcpConn.stopHandles]
        omega
  | @respond k c found busy =>
      have held := Table.weight_le s.conns TcpConn.stopHandles found
      refine whole.of_conn { c with calls := c.calls - 1 } found ?_ ?_
      · dsimp only
        omega
      · simp only [TcpConn.stopHandles] at held ⊢
        omega
  | @graceful k c found unaware =>
      have held := Table.weight_le s.conns TcpConn.stopHandles found
      refine whole.of_conn { c with graceful := true } found rfl ?_
      simp only [TcpConn.stopHandles, unaware, Bool.false_eq_true, if_false, if_true] at held ⊢
      omega
  | @close k c found =>
      have calls := Table.weigh_erase s.conns TcpConn.calls found
      have handles := Table.weigh_erase s.conns TcpConn.stopHandles found
      have number := Table.weigh_erase s.conns (fun _ => 1) found
      unfold inService at balance
      refine ⟨?_, freshSession, ?_, ?_, ?_⟩
      · intro n old
        dsimp only
        rw [Table.lookup_erase_ite]
        split
        · rfl
        · exact freshConn old
      · unfold inService
        dsimp only
        omega
      · dsimp only
        omega
      · dsimp only
        omega
  | @sessionEnds n session found =>
      have permits := Table.weigh_erase s.sessions (fun _ => 1) found
      have handles := Table.weigh_erase s.sessions (fun _ => 2) found
      unfold inService at balance
      refine ⟨freshConn, ?_, ?_, ?_, completions⟩
      · intro m old
        dsimp only
        rw [Table.lookup_erase_ite]
        split
        · rfl
        · exact freshSession old
      · unfold inService
        dsimp only
        omega
      · dsimp only
        omega

/-- A closing step in front of the closing steps that stop a server. -/
theorem stops_after {a : LifeAction} (taken : step cfg s a = some s') (closes : a.Closes)
    (rest : ∃ us last, Run (step cfg) s' us last ∧ (∀ u ∈ us, u.action.Closes) ∧ last.isStopped = true) :
    ∃ us last, Run (step cfg) s us last ∧ (∀ u ∈ us, u.action.Closes) ∧ last.isStopped = true := by
  obtain ⟨us, last, later, all, stopped⟩ := rest
  refine ⟨_, last, (Run.nil.snoc taken).trans later, fun u member => ?_, stopped⟩
  rcases List.mem_append.mp member with first | rest
  · obtain rfl := List.mem_singleton.mp first
    exact closes
  · exact all u rest

theorem Sound.stoppable (sound : Sound cfg s) (signalled : s.signalled = true) :
    ∃ us last, Run (step cfg) s us last ∧ (∀ u ∈ us, u.action.Closes) ∧ last.isStopped = true := by
  -- Every closing step makes the left-hand side smaller.
  generalize left : s.acceptor.stopHandles + Table.weigh s.conns (fun _ => 1) + Table.weigh s.sessions (fun _ => 1) = n
  induction n using Nat.strong_induction_on generalizing s with
  | _ n ih =>
      have completions := sound.completions
      have counted := sound.stopHandles
      by_cases noConns : s.conns = ∅
      · by_cases noSessions : s.sessions = ∅
        · cases stage : s.acceptor with
          | accepting =>
              have taken : step cfg s .shutdown = some _ := if_pos ⟨stage, signalled⟩
              refine stops_after taken trivial (ih _ ?_ (sound.of_move (move_of_step taken)) signalled rfl)
              rw [stage] at left
              simp only [Acceptor.stopHandles] at left ⊢
              omega
          | awaiting =>
              rw [stage, noConns] at completions
              have taken : step cfg s .finish = some _ := if_pos ⟨stage, completions⟩
              refine stops_after taken trivial (ih _ ?_ (sound.of_move (move_of_step taken)) signalled rfl)
              rw [stage] at left
              simp only [Acceptor.stopHandles] at left ⊢
              omega
          | ended =>
              rw [stage, noConns, noSessions] at counted
              exact ⟨[], s, .nil, by simp, decide_eq_true counted⟩
        · obtain ⟨n', found⟩ := not_forall.mp (mt (Table.eq_empty_iff _).mpr noSessions)
          obtain ⟨session, found⟩ := Option.ne_none_iff_exists'.mp found
          have taken : step cfg s (.sessionEnds n') = some _ := Option.map_eq_some_iff.mpr ⟨_, found, rfl⟩
          refine stops_after taken trivial (ih _ ?_ (sound.of_move (move_of_step taken)) signalled rfl)
          have fewer := Table.weigh_erase s.sessions (fun _ => 1) found
          dsimp only at fewer ⊢
          omega
      · obtain ⟨k, found⟩ := not_forall.mp (mt (Table.eq_empty_iff _).mpr noConns)
        obtain ⟨c, found⟩ := Option.ne_none_iff_exists'.mp found
        have taken : step cfg s (.close k) = some _ := Option.map_eq_some_iff.mpr ⟨_, found, rfl⟩
        refine stops_after taken trivial (ih _ ?_ (sound.of_move (move_of_step taken)) signalled rfl)
        have fewer := Table.weigh_erase s.conns (fun _ => 1) found
        dsimp only at fewer ⊢
        omega

theorem Sound.isStopped_iff_empty (sound : Sound cfg s) :
    s.isStopped = true ↔ s.acceptor = .ended ∧ s.conns = ∅ ∧ s.sessions = ∅ := by
  have counted := sound.stopHandles
  have heavy : ∀ c : TcpConn, 0 < c.stopHandles := by
    intro c
    unfold TcpConn.stopHandles
    omega
  rw [← Table.weigh_eq_zero_iff s.conns _ heavy, ← Table.weigh_eq_zero_iff s.sessions (fun _ => 2) (by simp)]
  have acceptor : s.acceptor = .ended ↔ s.acceptor.stopHandles = 0 := by
    cases s.acceptor <;> simp [Acceptor.stopHandles]
  rw [acceptor, isStopped, decide_eq_true_iff]
  omega

section Runs

variable {ts : List (Transition ServerLife LifeAction)} (run : Run (step cfg) (start cfg) ts s)

include run

theorem sound : Sound cfg s :=
  run.invariant (Sound cfg) (fun _ => True) (fun _ _ => trivial) (.start cfg)
    fun _ _ before taken => before.of_move (move_of_step taken)

/-- The permits that are left and those in service make up the limit. A request is
    turned away as one too many exactly when as many are in service as may be. -/
theorem permits_exact :
    s.permits + s.inService = cfg.maxConnections ∧ ∀ req,
      TowerServiceNoHttp.call cfg s.permits req = .response tooManyRequests ↔ s.inService = cfg.maxConnections := by
  have balance := (sound run).permits
  refine ⟨balance, fun req => ?_⟩
  have used : s.inService = cfg.maxConnections ↔ s.permits = 0 := by omega
  rw [used]
  constructor
  · intro turned
    by_contra free
    rw [TowerServiceNoHttp.call, if_neg free] at turned
    split at turned
    · split at turned
      · cases turned
      · injection turned with same
        cases congrArg HttpResponse.status same
    · split at turned
      · cases turned
      · injection turned with same
        cases congrArg HttpResponse.status same
  · intro none
    rw [TowerServiceNoHttp.call, if_pos none]

/-- The server has stopped exactly when `start_inner` has returned and every
    connection is gone, the upgraded ones included. -/
theorem isStopped_iff : s.isStopped = true ↔ s.acceptor = .ended ∧ s.conns = ∅ ∧ s.sessions = ∅ :=
  (sound run).isStopped_iff_empty

/-- A server that has stopped has all its permits back, tells every caller of
    `stop` so, and stays as it is, whatever is done to its handles. -/
theorem stopped_for_good (stopped : s.isStopped = true) :
    s.permits = cfg.maxConnections ∧ s.stop = .error {} ∧
      ∀ us s', Run (step cfg) s us s' → s'.isStopped = true ∧ s'.accepted = s.accepted := by
  have balance := (sound run).permits
  obtain ⟨ended, noConns, noSessions⟩ := (sound run).isStopped_iff_empty.mp stopped
  have unheard : s.stopHandles = 0 := of_decide_eq_true stopped
  refine ⟨?_, ?_, fun us s' later => ?_⟩
  · rw [inService, noConns, noSessions] at balance
    simpa using balance
  · rw [stop, if_pos unheard]
  · have final := later.invariant (fun s' => s'.stopHandles = 0 ∧ s'.acceptor = .ended ∧ s'.conns = ∅ ∧
      s'.sessions = ∅ ∧ s'.accepted = s.accepted) (fun _ => True) (fun _ _ => trivial)
      ⟨unheard, ended, noConns, noSessions, rfl⟩ ?_
    · exact ⟨decide_eq_true final.1, final.2.2.2.2⟩
    · rintro ⟨before, action, after⟩ - ⟨none, ended, noConns, noSessions, same⟩ taken
      have nobody : ∀ {k c}, before.conns.lookup k ≠ some c := by
        intro k c found
        rw [noConns] at found
        cases found
      dsimp only at taken
      cases move_of_step taken with
      | nothing => exact ⟨none, ended, noConns, noSessions, same⟩
      | stop held heard => exact absurd none heard
      | cloneHandle | dropHandle => exact ⟨none, ended, noConns, noSessions, same⟩
      | accept open_ | lose open_ | shutdown open_ | finish open_ =>
          rw [ended] at open_
          cases open_
      | upgrade found | http found | respond found | graceful found | close found => exact absurd found nobody
      | sessionEnds found =>
          rw [noSessions] at found
          cases found

/-- From wherever a server is told to stop it gets there: ending the tasks of its
    connections is enough. -/
theorem can_stop (signalled : s.signalled = true) :
    ∃ us last, Run (step cfg) s us last ∧ (∀ u ∈ us, u.action.Closes) ∧ last.isStopped = true :=
  (sound run).stoppable signalled

end Runs

/-- A server for one client at a time. -/
def lone : AcceptConfig := { maxConnections := 1, enableHttp := true, enableWs := true }

def handshake : ServiceRequest := { isUpgrade := true, handshake := .ok () }

/-- The second client is turned away. -/
theorem permits_exact_lone :
    ∃ ts s, Run (step lone) (start lone) ts s ∧
      ts.map Transition.action = [.accept true, .request 0 handshake, .accept true] ∧ s.permits + s.inService = 1 ∧
      TowerServiceNoHttp.call lone s.permits handshake = .response tooManyRequests := by
  obtain ⟨ts, s, run, labels, state⟩ := Run.reaches (step lone) (start lone)
    [.accept true, .request 0 handshake, .accept true] (fun s => s.permits = 0) (by decide +kernel)
  have none : s.permits = 0 := of_decide_eq_true state
  obtain ⟨balance, turned⟩ := permits_exact run
  refine ⟨ts, s, run, labels, balance, (turned handshake).mpr ?_⟩
  rw [none, Nat.zero_add] at balance
  exact balance

/-- An upgraded connection keeps the server alive when `start_inner` has returned. -/
theorem isStopped_iff_session :
    ∃ ts s, Run (step lone) (start lone) ts s ∧
      ts.map Transition.action = [.accept true, .request 0 handshake, .stop, .shutdown, .graceful 0, .close 0, .finish] ∧
      s.acceptor = .ended ∧ s.isStopped = false ∧ s.sessions ≠ ∅ := by
  obtain ⟨ts, s, run, labels, state⟩ := Run.reaches (step lone) (start lone)
    [.accept true, .request 0 handshake, .stop, .shutdown, .graceful 0, .close 0, .finish]
    (fun s => s.acceptor = .ended ∧ s.conns = ∅ ∧ s.isStopped = false) (by decide +kernel)
  obtain ⟨ended, noConns, alive⟩ := of_decide_eq_true state
  refine ⟨ts, s, run, labels, ended, alive, fun noSessions => ?_⟩
  rw [(isStopped_iff run).mpr ⟨ended, noConns, noSessions⟩] at alive
  cases alive

theorem stopped_for_good_session :
    ∃ ts s, Run (step lone) (start lone) ts s ∧ ts.map Transition.action =
      [.accept true, .request 0 handshake, .stop, .shutdown, .graceful 0, .close 0, .finish, .sessionEnds 0] ∧
      s.permits = 1 ∧ s.stop = .error {} := by
  obtain ⟨ts, s, run, labels, state⟩ := Run.reaches (step lone) (start lone)
    [.accept true, .request 0 handshake, .stop, .shutdown, .graceful 0, .close 0, .finish, .sessionEnds 0]
    isStopped (by decide +kernel)
  obtain ⟨permits, stop, -⟩ := stopped_for_good run state
  exact ⟨ts, s, run, labels, permits, stop⟩

theorem can_stop_session :
    ∃ ts s, Run (step lone) (start lone) ts s ∧
      ts.map Transition.action = [.accept true, .request 0 handshake, .dropHandle] ∧
      ∃ us last, Run (step lone) s us last ∧ last.isStopped = true := by
  obtain ⟨ts, s, run, labels, state⟩ := Run.reaches (step lone) (start lone)
    [.accept true, .request 0 handshake, .dropHandle] signalled (by decide +kernel)
  obtain ⟨us, last, later, -, stopped⟩ := can_stop run state
  exact ⟨ts, s, run, labels, us, last, later, stopped⟩

end ServerLife

end Server

end Jsonrpsee
