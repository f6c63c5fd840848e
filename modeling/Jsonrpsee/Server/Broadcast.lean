import Jsonrpsee.Server.ConnectionManager

/-! # Notifications from the connection manager

A call that sends holds the read lock of the table while it waits for the channels, so what
registers or unregisters connections waits for it. A broadcast gathers the connections whose
sink is closed and leaves them to a task, which unregisters them one by one, each under a
write lock of its own.
-/

namespace Jsonrpsee

namespace Server

namespace Broadcast

/-- Error types for notification operations. -/
inductive NotificationError where
  /-- The specified connection ID was not found in the active connections. -/
  | connectionNotFound (connId : ConnectionId)
  /-- The connection was closed before the notification could be sent. -/
  | connectionClosed
  /-- Failed to serialize the notification message to JSON. -/
  | serializationError (error : String)
  /-- Failed to send the notification through the connection sink. -/
  | sendError
  deriving Repr, DecidableEq

/-- A notification whose parameters may fail to serialize. -/
abbrev Outgoing := Notification (Except String Json)

/-- `serde_json::value::to_raw_value`. -/
def toRawValue (notification : Outgoing) : Except NotificationError RawText :=
  match notification.params with
  | .ok params =>
      .ok (.ofJson (.obj [("jsonrpc", .str "2.0"), ("method", .str notification.method), ("params", params)]))
  | .error error => .error (.serializationError error)

/-- A call of the manager that sends. -/
inductive Request where
  | sendNotification (connId : ConnectionId) (notification : Outgoing)
  | sendToConnections (connIds : List ConnectionId) (notification : Outgoing)
  | broadcastNotification (notification : Outgoing)
  | broadcastFiltered (notification : Outgoing) (filter : ConnectionId → Bool)

namespace Request

def json : Request → Except NotificationError RawText
  | .sendNotification _ notification | .sendToConnections _ notification | .broadcastNotification notification
  | .broadcastFiltered notification _ => toRawValue notification

def notification : Request → Outgoing
  | .sendNotification _ notification | .sendToConnections _ notification | .broadcastNotification notification
  | .broadcastFiltered notification _ => notification

/-- The text of a notification is an object of three members. -/
theorem json_eq_ok_iff {request : Request} {json : RawText} :
    request.json = .ok json ↔ ∃ params, request.notification.params = .ok params ∧
      json = .ofJson (.obj [("jsonrpc", .str "2.0"), ("method", .str request.notification.method),
        ("params", params)]) := by
  have same : request.json = toRawValue request.notification := by
    cases request with
    | sendNotification | sendToConnections | broadcastNotification | broadcastFiltered => rfl
  rw [same, toRawValue]
  cases request.notification.params with
  | error error => simp
  | ok params => simp [eq_comm]

/-- The connections that a broadcast selects. -/
def filter? : Request → Option (ConnectionId → Bool)
  | .broadcastNotification _ => some fun _ => true
  | .broadcastFiltered _ filter => some filter
  | .sendNotification _ _ | .sendToConnections _ _ => none

end Request

/-- What a call returns. -/
inductive Returned where
  | unit (result : Except NotificationError Unit)
  | results (results : Except NotificationError (List (Except NotificationError Unit)))
  | count (sentCount : Except NotificationError Nat)
  deriving DecidableEq

/-- The variables of the loop of `send_to_connections`. -/
structure SendLoop where
  json : RawText
  todo : List ConnectionId
  results : List (Except NotificationError Unit)

/-- The variables of the loop of a broadcast. -/
structure BroadcastLoop where
  json : RawText
  filter : ConnectionId → Bool
  /-- What `connections.iter()` still gives. -/
  todo : List ConnectionId
  sentCount : Nat
  failedConnections : List ConnectionId

/-- Where a call is. -/
inductive Progress where
  /-- `send_notification` waits for its one sink. -/
  | sending (json : RawText) (connId : ConnectionId)
  | sendingTo (loop : SendLoop)
  | broadcasting (loop : BroadcastLoop)
  | returned (value : Returned)
  /-- The future was dropped, and the lock with it. -/
  | cancelled

/-- The notification cannot be serialized. -/
def Request.fails (error : NotificationError) : Request → Returned
  | .sendNotification _ _ => .unit (.error error)
  | .sendToConnections _ _ => .results (.error error)
  | .broadcastNotification _ | .broadcastFiltered _ _ => .count (.error error)

/-- The variables in front of the loop. -/
def Request.begin (order : List ConnectionId) (json : RawText) : Request → Progress
  | .sendNotification connId _ => .sending json connId
  | .sendToConnections connIds _ => .sendingTo { json, todo := connIds, results := [] }
  | .broadcastNotification _ =>
      .broadcasting { json, filter := fun _ => true, todo := order, sentCount := 0, failedConnections := [] }
  | .broadcastFiltered _ filter =>
      .broadcasting { json, filter, todo := order, sentCount := 0, failedConnections := [] }

/-- The call holds the read lock. -/
def Progress.isReading : Progress → Bool
  | .sending _ _ | .sendingTo _ | .broadcasting _ => true
  | .returned _ | .cancelled => false

/-- What the call does next. -/
inductive Next where
  /-- The filter leaves a connection out. -/
  | skip (progress : Progress)
  /-- Look up a connection, and send. -/
  | send (connId : ConnectionId) (json : RawText) (after : Except NotificationError Unit → Progress)
  /-- Return, and leave connections to a task. -/
  | finish (value : Returned) (failedConnections : List ConnectionId)

/-- The arms behind `sink.send` in a broadcast. -/
def BroadcastLoop.after (loop : BroadcastLoop) (connId : ConnectionId) (todo : List ConnectionId) :
    Except NotificationError Unit → BroadcastLoop
  | .ok () => { loop with todo, sentCount := loop.sentCount + 1 }
  | .error _ => { loop with todo, failedConnections := loop.failedConnections ++ [connId] }

/-- The loops of the three functions, and the one step of `send_notification`. -/
def Progress.next : Progress → Option Next
  | .sending json connId => some (.send connId json fun result => .returned (.unit result))
  | .sendingTo loop =>
      match loop.todo with
      | connId :: todo =>
          some (.send connId loop.json fun result =>
            .sendingTo { loop with todo, results := loop.results ++ [result] })
      | [] => some (.finish (.results (.ok loop.results)) [])
  | .broadcasting loop =>
      match loop.todo with
      | connId :: todo =>
          if loop.filter connId then
            some (.send connId loop.json fun result => .broadcasting (loop.after connId todo result))
          else some (.skip (.broadcasting { loop with todo }))
      | [] => some (.finish (.count (.ok loop.sentCount)) loop.failedConnections)
  | .returned _ | .cancelled => none

/-- What a call finds when it comes to a connection. -/
structure Attempt where
  connId : ConnectionId
  /-- The sink under which the connection is registered. -/
  sink : Option Sink
  isOpen : Bool
  deriving Repr, DecidableEq

structure Call where
  request : Request
  /-- The order of `connections.iter()`. -/
  order : List ConnectionId
  /-- The table when the lock was taken. -/
  connections : Table ConnectionId Sink
  /-- What the call has found so far. -/
  tried : List Attempt
  progress : Progress

/-- The channel behind a sink. -/
structure Channel where
  capacity : Nat
  /-- Messages that have been received. -/
  taken : Nat
  closed : Bool
  deriving Repr, DecidableEq

/-- A message on a channel. -/
structure Message where
  sink : Sink
  /-- The call that sent it, and for which connection; other senders have `none`. -/
  origin : Option (Nat × ConnectionId)
  json : RawText

/-- The task that a broadcast has spawned. -/
structure CleanUp where
  call : Nat
  todo : List ConnectionId
  deriving Repr, DecidableEq

/-- A manager, the channels of its sinks, and the calls and tasks that use it. -/
structure Notifier where
  manager : ConnectionManager
  channels : List Channel
  /-- All messages that have been put on channels. -/
  log : List Message
  calls : List Call
  tasks : List CleanUp

inductive Action where
  /-- A new channel. -/
  | channel (capacity : Nat)
  | register (connId : ConnectionId) (sink : Sink)
  | unregister (connId : ConnectionId)
  /-- The receiver of a channel goes away. -/
  | close (sink : Sink)
  | receive (sink : Sink)
  /-- Another holder of the sink sends. -/
  | put (sink : Sink) (json : RawText)
  /-- A call has serialized its notification and taken the lock. -/
  | call (request : Request) (order : List ConnectionId)
  | resume (call : Nat)
  | cancel (call : Nat)
  | cleanUp (task : Nat)

namespace Notifier

def new : Notifier := { manager := .new, channels := [], log := [], calls := [], tasks := [] }

/-- Somebody holds the read lock. -/
def isRead (s : Notifier) : Bool := s.calls.any fun c => c.progress.isReading

def isOpen (s : Notifier) (sink : Sink) : Bool := s.channels[sink]?.any fun channel => !channel.closed

/-- All messages for a channel. -/
def messages (s : Notifier) (sink : Sink) : List Message := s.log.filter fun message => message.sink = sink

/-- A channel takes one more message. -/
def hasRoom (s : Notifier) (sink : Sink) (channel : Channel) : Bool :=
  (s.messages sink).length < channel.taken + channel.capacity

/-- `MethodSink::send`: a closed channel refuses the message; one that is full lets the sender
    wait. -/
def send (s : Notifier) (sink : Sink) (origin : Option (Nat × ConnectionId)) (json : RawText) :
    Option (Bool × Notifier) :=
  s.channels[sink]?.bind fun channel =>
    if channel.closed then some (false, s)
    else if s.hasRoom sink channel then some (true, { s with log := s.log ++ [{ sink, origin, json }] })
    else none

/-- The body of the loops: `connections.get` and `sink.send`. -/
def tell (s : Notifier) (n : Nat) (connId : ConnectionId) (json : RawText) :
    Option (Except NotificationError Unit × Notifier) :=
  match s.manager.connections.lookup connId with
  | some sink =>
      (s.send sink (some (n, connId)) json).map fun sent =>
        (if sent.1 then .ok () else .error .connectionClosed, sent.2)
  -- A broadcast goes through the table and does not come here.
  | none => some (.error (.connectionNotFound connId), s)

def look (s : Notifier) (connId : ConnectionId) : Attempt :=
  { connId
    sink := s.manager.connections.lookup connId
    isOpen := (s.manager.connections.lookup connId).any s.isOpen }

def setCall (s : Notifier) (n : Nat) (c : Call) : Notifier := { s with calls := s.calls.set n c }

/-- The connection that `send_notification` does not find. -/
def missing (s : Notifier) : Request → Option ConnectionId
  | .sendNotification connId _ => if s.manager.isConnectionActive connId then none else some connId
  | .sendToConnections _ _ | .broadcastNotification _ | .broadcastFiltered _ _ => none

/-- A call up to its first `await` behind the lock. `send_notification` serializes when it has
    found the connection, the others before they take the lock. -/
def start (s : Notifier) (request : Request) (order : List ConnectionId) : Call :=
  let call (tried : List Attempt) (progress : Progress) : Call :=
    { request, order, connections := s.manager.connections, tried, progress }
  match s.missing request with
  | some connId => call [s.look connId] (.returned (.unit (.error (.connectionNotFound connId))))
  | none =>
      match request.json with
      | .ok json => call [] (request.begin order json)
      | .error error => call [] (.returned (request.fails error))

def resume (s : Notifier) (n : Nat) (c : Call) : Option Notifier :=
  match c.progress.next with
  | some (.skip progress) => some (s.setCall n { c with progress })
  | some (.send connId json after) =>
      (s.tell n connId json).map fun told =>
        told.2.setCall n { c with tried := c.tried ++ [s.look connId], progress := after told.1 }
  | some (.finish value failedConnections) =>
      some { s.setCall n { c with progress := .returned value } with
        tasks := if failedConnections.isEmpty then s.tasks
          else s.tasks ++ [{ call := n, todo := failedConnections }] }
  | none => none

/-- One step of somebody. Writers wait for the readers. -/
def step (s : Notifier) : Action → Option Notifier
  | .channel capacity =>
      if 0 < capacity then some { s with channels := s.channels ++ [{ capacity, taken := 0, closed := false }] }
      else none
  | .register connId sink =>
      if !s.isRead ∧ sink < s.channels.length then
        some { s with manager := s.manager.registerConnection connId sink }
      else none
  | .unregister connId =>
      if !s.isRead then some { s with manager := s.manager.unregisterConnection connId } else none
  | .close sink =>
      s.channels[sink]?.map fun channel => { s with channels := s.channels.set sink { channel with closed := true } }
  | .receive sink =>
      s.channels[sink]?.bind fun channel =>
        if channel.taken < (s.messages sink).length then
          some { s with channels := s.channels.set sink { channel with taken := channel.taken + 1 } }
        else none
  | .put sink json => (s.send sink none json).map Prod.snd
  | .call request order =>
      if order.Nodup ∧ order.toFinset = s.manager.connections.keys then
        some { s with calls := s.calls ++ [s.start request order] }
      else none
  | .resume n => s.calls[n]?.bind fun c => s.resume n c
  | .cancel n =>
      s.calls[n]?.bind fun c =>
        if c.progress.isReading then some (s.setCall n { c with progress := .cancelled }) else none
  | .cleanUp task =>
      s.tasks[task]?.bind fun t =>
        match t.todo with
        | connId :: todo =>
            if !s.isRead then
              some { s with
                manager := s.manager.unregisterConnection connId
                tasks := s.tasks.set task { t with todo } }
            else none
        | [] => none

/-! ## What a step can do -/

/-- How a step changes the state. -/
inductive Move (s : Notifier) : Action → Notifier → Prop where
  | channel {capacity : Nat} (positive : 0 < capacity) :
      Move s (.channel capacity) { s with channels := s.channels ++ [{ capacity, taken := 0, closed := false }] }
  | register {connId : ConnectionId} {sink : Sink} (unread : s.isRead = false) (known : sink < s.channels.length) :
      Move s (.register connId sink) { s with manager := s.manager.registerConnection connId sink }
  | unregister {connId : ConnectionId} (unread : s.isRead = false) :
      Move s (.unregister connId) { s with manager := s.manager.unregisterConnection connId }
  | close {sink : Sink} {channel : Channel} (found : s.channels[sink]? = some channel) :
      Move s (.close sink) { s with channels := s.channels.set sink { channel with closed := true } }
  | receive {sink : Sink} {channel : Channel} (found : s.channels[sink]? = some channel)
      (waiting : channel.taken < (s.messages sink).length) :
      Move s (.receive sink) { s with channels := s.channels.set sink { channel with taken := channel.taken + 1 } }
  | put {sink : Sink} {json : RawText} {sent : Bool × Notifier} (put : s.send sink none json = some sent) :
      Move s (.put sink json) sent.2
  | call {request : Request} {order : List ConnectionId}
      (all : order.Nodup ∧ order.toFinset = s.manager.connections.keys) :
      Move s (.call request order) { s with calls := s.calls ++ [s.start request order] }
  | skip {n : Nat} {c : Call} {progress : Progress} (found : s.calls[n]? = some c)
      (next : c.progress.next = some (.skip progress)) : Move s (.resume n) (s.setCall n { c with progress })
  | send {n : Nat} {c : Call} {connId : ConnectionId} {json : RawText}
      {after : Except NotificationError Unit → Progress} {told : Except NotificationError Unit × Notifier}
      (found : s.calls[n]? = some c) (next : c.progress.next = some (.send connId json after))
      (tells : s.tell n connId json = some told) :
      Move s (.resume n)
        (told.2.setCall n { c with tried := c.tried ++ [s.look connId], progress := after told.1 })
  | finish {n : Nat} {c : Call} {value : Returned} {failedConnections : List ConnectionId}
      (found : s.calls[n]? = some c) (next : c.progress.next = some (.finish value failedConnections)) :
      Move s (.resume n)
        { s.setCall n { c with progress := .returned value } with
          tasks := if failedConnections.isEmpty then s.tasks
            else s.tasks ++ [{ call := n, todo := failedConnections }] }
  | cancel {n : Nat} {c : Call} (found : s.calls[n]? = some c) :
      Move s (.cancel n) (s.setCall n { c with progress := .cancelled })
  | cleanUp {task : Nat} {t : CleanUp} {connId : ConnectionId} {todo : List ConnectionId} (unread : s.isRead = false)
      (found : s.tasks[task]? = some t) (first : t.todo = connId :: todo) :
      Move s (.cleanUp task)
        { s with
          manager := s.manager.unregisterConnection connId
          tasks := s.tasks.set task { t with todo } }

theorem move_of_step {s s' : Notifier} {a : Action} (taken : s.step a = some s') : Move s a s' := by
  cases a with
  | channel capacity =>
      obtain ⟨positive, same⟩ := Option.ite_none_right_eq_some.mp taken
      cases same
      exact .channel positive
  | register connId sink =>
      obtain ⟨⟨unread, known⟩, same⟩ := Option.ite_none_right_eq_some.mp taken
      cases same
      exact .register (by simpa using unread) known
  | unregister connId =>
      obtain ⟨unread, same⟩ := Option.ite_none_right_eq_some.mp taken
      cases same
      exact .unregister (by simpa using unread)
  | close sink =>
      obtain ⟨channel, found, rfl⟩ := Option.map_eq_some_iff.mp taken
      exact .close found
  | receive sink =>
      obtain ⟨channel, found, taken⟩ := Option.bind_eq_some_iff.mp taken
      obtain ⟨waiting, same⟩ := Option.ite_none_right_eq_some.mp taken
      cases same
      exact .receive found waiting
  | put sink json =>
      obtain ⟨sent, put, rfl⟩ := Option.map_eq_some_iff.mp taken
      exact .put put
  | call request order =>
      obtain ⟨all, same⟩ := Option.ite_none_right_eq_some.mp taken
      cases same
      exact .call all
  | resume n =>
      obtain ⟨c, found, taken⟩ := Option.bind_eq_some_iff.mp taken
      simp only [resume] at taken
      split at taken
      · rename_i progress next
        cases taken
        exact .skip found next
      · rename_i connId json after next
        obtain ⟨told, tells, rfl⟩ := Option.map_eq_some_iff.mp taken
        exact .send found next tells
      · rename_i value failedConnections next
        cases taken
        exact .finish found next
      · cases taken
  | cancel n =>
      obtain ⟨c, found, taken⟩ := Option.bind_eq_some_iff.mp taken
      obtain ⟨-, same⟩ := Option.ite_none_right_eq_some.mp taken
      cases same
      exact .cancel found
  | cleanUp task =>
      obtain ⟨t, found, taken⟩ := Option.bind_eq_some_iff.mp taken
      split at taken
      · rename_i connId todo first
        obtain ⟨unread, same⟩ := Option.ite_none_right_eq_some.mp taken
        cases same
        exact .cleanUp (by simpa using unread) found first
      · cases taken

end Notifier

/-! ## Messages and the calls they come from -/

/-- A message that a call has put on the channel of a connection. -/
structure Copy where
  connId : ConnectionId
  sink : Sink
  json : RawText

def Copy.message (n : Nat) (copy : Copy) : Message :=
  { sink := copy.sink, origin := some (n, copy.connId), json := copy.json }

/-- The message as a copy that the call has sent. -/
def Message.copyOf (n : Nat) (message : Message) : Option Copy :=
  message.origin.bind fun origin =>
    if origin.1 = n then some { connId := origin.2, sink := message.sink, json := message.json } else none

namespace Attempt

/-- What the call is told. -/
def result (a : Attempt) : Except NotificationError Unit :=
  match a.sink with
  | some _ => if a.isOpen then .ok () else .error .connectionClosed
  | none => .error (.connectionNotFound a.connId)

/-- The copy that an attempt leaves. -/
def copy (json : RawText) (a : Attempt) : Option Copy :=
  if a.isOpen then a.sink.map fun sink => { connId := a.connId, sink, json } else none

end Attempt

namespace Notifier

variable {s : Notifier}

/-- The messages on all channels that a call has sent. -/
def sentBy (s : Notifier) (n : Nat) : List Copy := s.log.filterMap (Message.copyOf n)

theorem copyOf_message (n m : Nat) (copy : Copy) : (copy.message n).copyOf m = if n = m then some copy else none := rfl

theorem send_eq {sink : Sink} {origin : Option (Nat × ConnectionId)} {json : RawText} {sent : Bool × Notifier}
    (sends : s.send sink origin json = some sent) :
    sent = (s.isOpen sink, { s with log := s.log ++ if s.isOpen sink then [{ sink, origin, json }] else [] }) := by
  obtain ⟨channel, found, sends⟩ := Option.bind_eq_some_iff.mp sends
  have open_iff : s.isOpen sink = !channel.closed := by rw [isOpen, found, Option.any_some]
  rw [open_iff]
  cases closed : channel.closed with
  | true =>
      rw [closed, if_pos rfl] at sends
      cases sends
      simp
  | false =>
      rw [closed, if_neg Bool.false_ne_true] at sends
      obtain ⟨-, same⟩ := Option.ite_none_right_eq_some.mp sends
      cases same
      simp

/-- A message that is put on an open channel fits. -/
theorem room_of_send {sink : Sink} {origin : Option (Nat × ConnectionId)} {json : RawText} {sent : Bool × Notifier}
    (sends : s.send sink origin json = some sent) (up : s.isOpen sink = true) {channel : Channel}
    (found : s.channels[sink]? = some channel) : (s.messages sink).length < channel.taken + channel.capacity := by
  rw [send, found, Option.bind_some] at sends
  have unclosed : channel.closed = false := by
    rw [isOpen, found, Option.any_some] at up
    simpa using up
  rw [unclosed, if_neg Bool.false_ne_true] at sends
  obtain ⟨room, -⟩ := Option.ite_none_right_eq_some.mp sends
  exact of_decide_eq_true room

/-- The state and the answer behind an attempt. -/
theorem tell_eq {n : Nat} {connId : ConnectionId} {json : RawText} {told : Except NotificationError Unit × Notifier}
    (tells : s.tell n connId json = some told) :
    told = ((s.look connId).result,
      { s with log := s.log ++ ((s.look connId).copy json).toList.map (Copy.message n) }) := by
  rw [tell] at tells
  cases found : s.manager.connections.lookup connId with
  | none =>
      rw [found] at tells
      cases tells
      simp [look, found, Attempt.result, Attempt.copy]
  | some sink =>
      rw [found] at tells
      obtain ⟨sent, sends, rfl⟩ := Option.map_eq_some_iff.mp tells
      rw [send_eq sends]
      cases up : s.isOpen sink <;> simp [look, found, up, Attempt.result, Attempt.copy, Copy.message]

theorem sentBy_tell (n m : Nat) (copy : Option Copy) :
    sentBy { s with log := s.log ++ copy.toList.map (Copy.message n) } m =
      s.sentBy m ++ if n = m then copy.toList else [] := by
  rw [sentBy, List.filterMap_append]
  congr 1
  cases copy with
  | none => simp
  | some copy =>
      rw [Option.toList_some, List.map_singleton, List.filterMap_cons, copyOf_message]
      split <;> simp_all

theorem sentBy_put {sink : Sink} {json : RawText} {sent : Bool × Notifier} (put : s.send sink none json = some sent)
    (n : Nat) : sent.2.sentBy n = s.sentBy n := by
  rw [send_eq put, sentBy, List.filterMap_append]
  split <;> simp [sentBy, Message.copyOf]

theorem look_isSome {connId : ConnectionId} (up : (s.look connId).isOpen = true) :
    (s.look connId).sink.isSome = true := by
  obtain ⟨sink, found, -⟩ := (Option.any_eq_true _ _).mp up
  rw [look, found]
  rfl

end Notifier

/-! ## What a call has done so far -/

/-- How a call goes on. -/
inductive Continues : Progress → Next → Prop where
  | sending {json : RawText} {connId : ConnectionId} :
      Continues (.sending json connId) (.send connId json fun result => .returned (.unit result))
  | tellNext {loop : SendLoop} {connId : ConnectionId} {todo : List ConnectionId} (first : loop.todo = connId :: todo) :
      Continues (.sendingTo loop) (.send connId loop.json fun result =>
        .sendingTo { loop with todo, results := loop.results ++ [result] })
  | toldAll {loop : SendLoop} (done : loop.todo = []) :
      Continues (.sendingTo loop) (.finish (.results (.ok loop.results)) [])
  | select {loop : BroadcastLoop} {connId : ConnectionId} {todo : List ConnectionId}
      (first : loop.todo = connId :: todo) (selected : loop.filter connId = true) :
      Continues (.broadcasting loop) (.send connId loop.json fun result =>
        .broadcasting (loop.after connId todo result))
  | leaveOut {loop : BroadcastLoop} {connId : ConnectionId} {todo : List ConnectionId}
      (first : loop.todo = connId :: todo) (out : ¬ loop.filter connId = true) :
      Continues (.broadcasting loop) (.skip (.broadcasting { loop with todo }))
  | counted {loop : BroadcastLoop} (done : loop.todo = []) :
      Continues (.broadcasting loop) (.finish (.count (.ok loop.sentCount)) loop.failedConnections)

theorem continues_of_next {p : Progress} {next : Next} (goes : p.next = some next) : Continues p next := by
  cases p with
  | returned | cancelled => cases goes
  | sending json connId =>
      cases goes
      exact .sending
  | sendingTo loop =>
      simp only [Progress.next] at goes
      split at goes
      · rename_i first
        cases goes
        exact .tellNext first
      · rename_i done
        cases goes
        exact .toldAll done
  | broadcasting loop =>
      simp only [Progress.next] at goes
      split at goes
      · rename_i connId todo first
        split at goes
        · rename_i selected
          cases goes
          exact .select first selected
        · rename_i out
          cases goes
          exact .leaveOut first out
      · rename_i done
        cases goes
        exact .counted done

/-- What a call returns tells what it has found. -/
inductive ReturnedOk (order : List ConnectionId) (tried : List Attempt) : Request → Returned → Prop where
  | fails {request : Request} {error : NotificationError} (refused : request.json = .error error) (none : tried = []) :
      ReturnedOk order tried request (request.fails error)
  | sendNotification {connId : ConnectionId} {notification : Outgoing} {a : Attempt} (one : tried = [a])
      (same : a.connId = connId) : ReturnedOk order tried (.sendNotification connId notification) (.unit a.result)
  | sendToConnections {connIds : List ConnectionId} {notification : Outgoing}
      (all : tried.map Attempt.connId = connIds) :
      ReturnedOk order tried (.sendToConnections connIds notification) (.results (.ok (tried.map Attempt.result)))
  | broadcast {request : Request} {filter : ConnectionId → Bool} (selects : request.filter? = some filter)
      (all : tried.map Attempt.connId = order.filter filter) :
      ReturnedOk order tried request (.count (.ok (tried.countP Attempt.isOpen)))

theorem ReturnedOk.broadcast_eq {order : List ConnectionId} {tried : List Attempt} {request : Request}
    {value : Returned} {json : RawText} (ok : ReturnedOk order tried request value)
    (serialized : request.json = .ok json) {filter : ConnectionId → Bool} (selects : request.filter? = some filter) :
    tried.map Attempt.connId = order.filter filter ∧ value = .count (.ok (tried.countP Attempt.isOpen)) := by
  cases ok with
  | fails refused => cases serialized.symm.trans refused
  | sendNotification | sendToConnections => cases selects
  | broadcast selects' all =>
      cases selects.symm.trans selects'
      exact ⟨all, rfl⟩

theorem ReturnedOk.results_eq {order : List ConnectionId} {tried : List Attempt} {connIds : List ConnectionId}
    {notification : Outgoing} {value : Returned} {json : RawText}
    (ok : ReturnedOk order tried (.sendToConnections connIds notification) value)
    (serialized : toRawValue notification = .ok json) :
    tried.map Attempt.connId = connIds ∧ value = .results (.ok (tried.map Attempt.result)) := by
  cases ok with
  | fails refused => cases serialized.symm.trans refused
  | sendToConnections all => exact ⟨all, rfl⟩
  | broadcast selects => cases selects

/-- The variables of a call tell what it has found, and what is left. -/
def ProgressOk (request : Request) (order : List ConnectionId) (tried : List Attempt) : Progress → Prop
  | .sending json connId =>
      (∃ notification, request = .sendNotification connId notification) ∧ request.json = .ok json ∧ tried = []
  | .sendingTo loop =>
      (∃ notification, request = .sendToConnections (tried.map Attempt.connId ++ loop.todo) notification) ∧
        request.json = .ok loop.json ∧ loop.results = tried.map Attempt.result
  | .broadcasting loop =>
      request.filter? = some loop.filter ∧ request.json = .ok loop.json ∧
        tried.map Attempt.connId ++ loop.todo.filter loop.filter = order.filter loop.filter ∧
        loop.sentCount = tried.countP Attempt.isOpen ∧
        loop.failedConnections = (tried.filter fun a => !a.isOpen).map Attempt.connId
  | .returned value => ReturnedOk order tried request value
  | .cancelled => True

namespace ProgressOk

variable {request : Request} {order : List ConnectionId} {tried : List Attempt} {p : Progress}

theorem skip (ok : ProgressOk request order tried p) {p' : Progress} (next : p.next = some (.skip p')) :
    ProgressOk request order tried p' ∧ p.isReading = true ∧ p'.isReading = true := by
  cases continues_of_next next with
  | leaveOut first out =>
      obtain ⟨selects, serialized, all, counted, failed⟩ := ok
      rw [first, List.filter_cons, if_neg out] at all
      exact ⟨⟨selects, serialized, all, counted, failed⟩, rfl, rfl⟩

/-- An attempt is counted, or the connection is gathered for the clean-up. -/
theorem after {loop : BroadcastLoop} (counted : loop.sentCount = tried.countP Attempt.isOpen)
    (failed : loop.failedConnections = (tried.filter fun a => !a.isOpen).map Attempt.connId) {a : Attempt}
    (known : a.isOpen = true → a.sink.isSome = true) (todo : List ConnectionId) :
    (BroadcastLoop.after loop a.connId todo a.result).sentCount = (tried ++ [a]).countP Attempt.isOpen ∧
      (BroadcastLoop.after loop a.connId todo a.result).failedConnections =
        ((tried ++ [a]).filter fun a => !a.isOpen).map Attempt.connId := by
  cases up : a.isOpen with
  | true =>
      obtain ⟨sink, found⟩ := Option.isSome_iff_exists.mp (known up)
      simp [BroadcastLoop.after, Attempt.result, found, up, counted, failed]
  | false =>
      cases found : a.sink <;> simp [BroadcastLoop.after, Attempt.result, found, up, counted, failed]

theorem send (ok : ProgressOk request order tried p) {connId : ConnectionId} {json : RawText}
    {after : Except NotificationError Unit → Progress} (next : p.next = some (.send connId json after)) :
    request.json = .ok json ∧ p.isReading = true ∧ (request.filter?.isSome = true → connId ∈ order) ∧
      ∀ a : Attempt, a.connId = connId → (a.isOpen = true → a.sink.isSome = true) →
        ProgressOk request order (tried ++ [a]) (after a.result) := by
  cases continues_of_next next with
  | sending =>
      obtain ⟨⟨notification, rfl⟩, serialized, rfl⟩ := ok
      refine ⟨serialized, rfl, fun selects => (Bool.false_ne_true selects).elim, ?_⟩
      rintro a same -
      exact .sendNotification rfl same
  | tellNext first =>
      obtain ⟨⟨notification, rfl⟩, serialized, told⟩ := ok
      refine ⟨serialized, rfl, fun selects => (Bool.false_ne_true selects).elim, ?_⟩
      rintro a rfl -
      refine ⟨⟨notification, ?_⟩, serialized, ?_⟩
      · simp [first]
      · simp [told]
  | select first selected =>
      rename_i loop todo
      obtain ⟨selects, serialized, all, counted, failed⟩ := ok
      have listed : connId ∈ order.filter loop.filter := by
        rw [← all, first, List.filter_cons, if_pos selected]
        simp
      refine ⟨serialized, rfl, fun _ => List.mem_of_mem_filter listed, ?_⟩
      rintro a rfl known
      have kept : (loop.after a.connId todo a.result).json = loop.json ∧
          (loop.after a.connId todo a.result).filter = loop.filter ∧
          (loop.after a.connId todo a.result).todo = todo := by
        cases a.result <;> exact ⟨rfl, rfl, rfl⟩
      obtain ⟨json_eq, filter_eq, todo_eq⟩ := kept
      refine ⟨?_, ?_, ?_, ProgressOk.after counted failed known todo⟩
      · rw [filter_eq, selects]
      · rw [json_eq, serialized]
      · rw [filter_eq, todo_eq, ← all, first, List.filter_cons, if_pos selected]
        simp

/-- A broadcast does not return behind an attempt. -/
theorem send_returned (ok : ProgressOk request order tried p) {connId : ConnectionId} {json : RawText}
    {after : Except NotificationError Unit → Progress} (next : p.next = some (.send connId json after))
    {result : Except NotificationError Unit} {value : Returned} (returned : after result = .returned value) :
    request.filter?.isSome = false := by
  cases continues_of_next next with
  | sending =>
      obtain ⟨⟨notification, rfl⟩, -⟩ := ok
      rfl
  | tellNext | select => cases returned

theorem finish (ok : ProgressOk request order tried p) {value : Returned} {failedConnections : List ConnectionId}
    (next : p.next = some (.finish value failedConnections)) :
    ProgressOk request order tried (.returned value) ∧
      (∀ connId ∈ failedConnections, request.filter?.isSome = true ∧
        ∃ a ∈ tried, a.connId = connId ∧ a.isOpen = false) ∧
      (request.filter?.isSome = true → ∀ a ∈ tried, a.isOpen = false → a.connId ∈ failedConnections) := by
  cases continues_of_next next with
  | toldAll done =>
      obtain ⟨⟨notification, rfl⟩, serialized, told⟩ := ok
      rw [told]
      refine ⟨.sendToConnections ?_, by simp, fun selects => (Bool.false_ne_true selects).elim⟩
      rw [done, List.append_nil]
  | counted done =>
      obtain ⟨selects, serialized, all, counted, failed⟩ := ok
      rw [counted, failed]
      rw [done, List.filter_nil, List.append_nil] at all
      refine ⟨.broadcast selects all, ?_, ?_⟩
      · intro connId member
        obtain ⟨a, tried, same⟩ := List.mem_map.mp member
        obtain ⟨tried, down⟩ := List.mem_filter.mp tried
        exact ⟨by rw [selects]; rfl, a, tried, same, by simpa using down⟩
      · intro _ a member down
        exact List.mem_map_of_mem (List.mem_filter.mpr ⟨member, by rw [down]; rfl⟩)

end ProgressOk

/-- The copies that the attempts of a call leave. -/
def Call.copies (c : Call) : List Copy :=
  match c.request.json with
  | .ok json => c.tried.filterMap (Attempt.copy json)
  | .error _ => []

theorem Call.copies_of_ok {c : Call} {json : RawText} (serialized : c.request.json = .ok json) :
    c.copies = c.tried.filterMap (Attempt.copy json) := by
  rw [copies, serialized]

namespace Notifier

structure CallOk (s : Notifier) (n : Nat) (c : Call) : Prop where
  order : c.order.Nodup ∧ c.order.toFinset = c.connections.keys
  /-- Nobody writes while the call reads. -/
  locked : c.progress.isReading = true → s.manager.connections = c.connections
  seen : ∀ a ∈ c.tried, a.sink = c.connections.lookup a.connId ∧ (a.isOpen = true → a.sink.isSome = true)
  listed : c.request.filter?.isSome = true → ∀ a ∈ c.tried, a.connId ∈ c.order
  copies : s.sentBy n = c.copies
  progress : ProgressOk c.request c.order c.tried c.progress

/-- What a task has to do comes from a broadcast. -/
def TaskOk (s : Notifier) (task : CleanUp) : Prop :=
  ∀ connId ∈ task.todo, ∃ c, s.calls[task.call]? = some c ∧ c.request.filter?.isSome = true ∧
    ∃ a ∈ c.tried, a.connId = connId ∧ a.isOpen = false

structure Inv (s : Notifier) : Prop where
  calls : ∀ n c, s.calls[n]? = some c → CallOk s n c
  origins : ∀ message ∈ s.log, ∀ origin, message.origin = some origin → origin.1 < s.calls.length
  tasks : ∀ task ∈ s.tasks, TaskOk s task

variable {s s' : Notifier} {n : Nat} {c : Call}

theorem CallOk.frame (ok : CallOk s n c)
    (locked : c.progress.isReading = true → s'.manager.connections = s.manager.connections)
    (same : s'.sentBy n = s.sentBy n) : CallOk s' n c where
  order := ok.order
  locked reading := (locked reading).trans (ok.locked reading)
  seen := ok.seen
  listed := ok.listed
  copies := same.trans ok.copies
  progress := ok.progress

/-- What a broadcast comes to is in the table. -/
theorem CallOk.registered (ok : CallOk s n c) (selects : c.request.filter?.isSome = true) {a : Attempt}
    (tried : a ∈ c.tried) : ∃ sink, a.sink = some sink ∧ c.connections.lookup a.connId = some sink := by
  have key : a.connId ∈ c.connections.keys := by
    rw [← ok.order.2, List.mem_toFinset]
    exact ok.listed selects a tried
  obtain ⟨sink, here⟩ := Option.isSome_iff_exists.mp (Finmap.lookup_isSome.mpr (Finmap.mem_keys.mp key))
  exact ⟨sink, (ok.seen a tried).1.trans here, here⟩

theorem setCall_calls {c' d : Call} {m : Nat} (found : (s.setCall n c').calls[m]? = some d) :
    m = n ∧ d = c' ∨ m ≠ n ∧ s.calls[m]? = some d := by
  rw [setCall, List.getElem?_set] at found
  by_cases same : n = m
  · rw [if_pos same] at found
    obtain ⟨-, now⟩ := Option.ite_none_right_eq_some.mp found
    cases now
    exact .inl ⟨same.symm, rfl⟩
  · rw [if_neg same] at found
    exact .inr ⟨Ne.symm same, found⟩

/-- A call that nobody waits for leaves the others alone. -/
theorem isReading_of_unread (unread : s.isRead = false) (found : s.calls[n]? = some c) :
    c.progress.isReading = false := by
  have none := List.any_eq_false.mp unread c (List.mem_of_getElem? found)
  simpa using none

theorem missing_eq {request : Request} {connId : ConnectionId} (lost : s.missing request = some connId) :
    (∃ notification, request = .sendNotification connId notification) ∧
      s.manager.connections.lookup connId = none := by
  cases request with
  | sendNotification connId' notification =>
      obtain ⟨inactive, same⟩ := Option.ite_none_left_eq_some.mp lost
      cases same
      rw [ConnectionManager.isConnectionActive, Option.not_isSome_iff_eq_none] at inactive
      exact ⟨⟨notification, rfl⟩, inactive⟩
  | sendToConnections | broadcastNotification | broadcastFiltered => cases lost

theorem start_fields (s : Notifier) (request : Request) (order : List ConnectionId) :
    (s.start request order).request = request ∧ (s.start request order).order = order ∧
      (s.start request order).connections = s.manager.connections ∧
      ∀ a ∈ (s.start request order).tried, (∃ connId, a = s.look connId) ∧ a.isOpen = false ∧
        request.filter? = none := by
  cases lost : s.missing request with
  | some connId =>
      obtain ⟨⟨notification, rfl⟩, unknown⟩ := missing_eq lost
      simp [start, lost, look, unknown, Request.filter?]
  | none => cases serialized : request.json <;> simp [start, lost, serialized]

theorem start_progress (s : Notifier) (request : Request) (order : List ConnectionId) :
    ProgressOk request order (s.start request order).tried (s.start request order).progress := by
  cases lost : s.missing request with
  | some connId =>
      obtain ⟨⟨notification, rfl⟩, unknown⟩ := missing_eq lost
      have told : (s.look connId).result = .error (.connectionNotFound connId) := by
        simp [look, unknown, Attempt.result]
      simp only [start, lost]
      rw [ProgressOk, ← told]
      exact .sendNotification rfl rfl
  | none =>
      cases serialized : request.json with
      | error error =>
          simp only [start, lost, serialized]
          exact .fails serialized rfl
      | ok json =>
          simp only [start, lost, serialized]
          cases request with
          | sendNotification connId notification => exact ⟨⟨notification, rfl⟩, serialized, rfl⟩
          | sendToConnections connIds notification => exact ⟨⟨notification, rfl⟩, serialized, rfl⟩
          | broadcastNotification | broadcastFiltered => exact ⟨rfl, serialized, rfl, rfl, rfl⟩

/-- What a step makes of a call. -/
structure Goes (s : Notifier) (a : Action) (n : Nat) (c c' : Call) : Prop where
  request : c'.request = c.request
  order : c'.order = c.order
  connections : c'.connections = c.connections
  tried : c'.tried = c.tried ∨ a = .resume n ∧ ∃ connId, c'.tried = c.tried ++ [s.look connId]

theorem Goes.setCall {a : Action} {m : Nat} {d d' c' : Call} (now : (s.setCall m d').calls[n]? = some c')
    (found : s.calls[m]? = some d) (goes : Goes s a m d d') : ∃ c, s.calls[n]? = some c ∧ Goes s a n c c' := by
  rcases setCall_calls now with ⟨rfl, rfl⟩ | ⟨-, still⟩
  · exact ⟨d, found, goes⟩
  · exact ⟨c', still, rfl, rfl, rfl, .inl rfl⟩

namespace Move

variable {a : Action}

theorem call_cases (move : Move s a s') {c' : Call} (now : s'.calls[n]? = some c') :
    (∃ c, s.calls[n]? = some c ∧ Goes s a n c c') ∨
      n = s.calls.length ∧ a = .call c'.request c'.order ∧ c' = s.start c'.request c'.order := by
  cases move with
  | channel | register | unregister | close | receive | cleanUp =>
      exact .inl ⟨c', now, rfl, rfl, rfl, .inl rfl⟩
  | put put =>
      rw [send_eq put] at now
      exact .inl ⟨c', now, rfl, rfl, rfl, .inl rfl⟩
  | call all =>
      rename_i request order
      rw [List.getElem?_append] at now
      split at now
      · exact .inl ⟨c', now, rfl, rfl, rfl, .inl rfl⟩
      · rename_i behind
        rw [List.getElem?_singleton] at now
        obtain ⟨here, same⟩ := Option.ite_none_right_eq_some.mp now
        cases same
        obtain ⟨request_eq, order_eq, -⟩ := start_fields s request order
        refine .inr ⟨by omega, ?_, ?_⟩
        · rw [request_eq, order_eq]
        · rw [request_eq, order_eq]
  | skip found next => exact .inl (Goes.setCall now found ⟨rfl, rfl, rfl, .inl rfl⟩)
  | send found next tells =>
      rw [tell_eq tells] at now
      exact .inl (@Goes.setCall s n _ _ _ _ c' now found ⟨rfl, rfl, rfl, .inr ⟨rfl, _, rfl⟩⟩)
  | finish found next => exact .inl (Goes.setCall now found ⟨rfl, rfl, rfl, .inl rfl⟩)
  | cancel found => exact .inl (Goes.setCall now found ⟨rfl, rfl, rfl, .inl rfl⟩)

theorem calls_length (move : Move s a s') : s.calls.length ≤ s'.calls.length := by
  cases move with
  | channel | register | unregister | close | receive | cleanUp => exact Nat.le_refl _
  | put put => rw [send_eq put]
  | call => simp
  | skip | finish | cancel => simp [setCall]
  | send found next tells => simp [setCall, tell_eq tells]

/-- What a call has found stays. -/
theorem kept (move : Move s a s') (found : s.calls[n]? = some c) :
    ∃ c', s'.calls[n]? = some c' ∧ c'.request = c.request ∧ c'.connections = c.connections ∧ c.tried ⊆ c'.tried := by
  have before := (List.getElem?_eq_some_iff.mp found).1
  obtain ⟨c', now⟩ : ∃ c', s'.calls[n]? = some c' :=
    ⟨_, List.getElem?_eq_getElem (Nat.lt_of_lt_of_le before move.calls_length)⟩
  rcases move.call_cases now with ⟨d, was, goes⟩ | ⟨new, -⟩
  · cases found.symm.trans was
    refine ⟨c', now, goes.request, goes.connections, ?_⟩
    rcases goes.tried with same | ⟨-, connId, more⟩
    · rw [same]
      exact List.Subset.refl _
    · rw [more]
      exact List.subset_append_left _ _
  · exact absurd new (Nat.ne_of_lt before)

end Move

theorem TaskOk.of_move {a : Action} {task : CleanUp} (ok : TaskOk s task) (move : Move s a s') : TaskOk s' task := by
  intro connId member
  obtain ⟨c, found, selects, attempt, tried, same, down⟩ := ok connId member
  obtain ⟨c', now, request, -, more⟩ := move.kept found
  refine ⟨c', now, ?_, attempt, more tried, same, down⟩
  rw [request]
  exact selects

namespace Inv

variable {a : Action}

theorem sentBy_new (inv : Inv s) : s.sentBy s.calls.length = [] := by
  refine List.filterMap_eq_nil_iff.mpr ?_
  intro message member
  cases origin : message.origin with
  | none => rw [Message.copyOf, origin, Option.bind_none]
  | some origin' =>
      have older := inv.origins message member origin' origin
      rw [Message.copyOf, origin, Option.bind_some, if_neg (Nat.ne_of_lt older)]

theorem start (inv : Inv s) {request : Request} {order : List ConnectionId}
    (all : order.Nodup ∧ order.toFinset = s.manager.connections.keys) :
    CallOk { s with calls := s.calls ++ [s.start request order] } s.calls.length (s.start request order) := by
  obtain ⟨request_eq, order_eq, connections_eq, looked⟩ := start_fields s request order
  refine ⟨?_, ?_, ?_, ?_, ?_, ?_⟩
  · rw [order_eq, connections_eq]
    exact all
  · intro _
    exact connections_eq.symm
  · intro a tried
    obtain ⟨⟨connId, rfl⟩, -⟩ := looked a tried
    rw [connections_eq]
    exact ⟨rfl, look_isSome⟩
  · intro selects a tried
    obtain ⟨-, -, none⟩ := looked a tried
    rw [request_eq, none] at selects
    cases selects
  · refine inv.sentBy_new.trans ?_
    rw [Call.copies]
    split
    · refine (List.filterMap_eq_nil_iff.mpr ?_).symm
      intro a tried
      obtain ⟨-, down, -⟩ := looked a tried
      rw [Attempt.copy, down]
      rfl
    · rfl
  · rw [request_eq, order_eq]
    exact start_progress s request order

/-- A step of one call. -/
theorem setCall {d c' : Call} {m : Nat} (inv : Inv s) (now : (s'.setCall m d).calls[n]? = some c')
    (manager : s'.manager = s.manager) (calls : s'.calls = s.calls)
    (others : ∀ k, m ≠ k → s'.sentBy k = s.sentBy k) (own : CallOk s' m d) : CallOk (s'.setCall m d) n c' := by
  rcases setCall_calls now with ⟨rfl, rfl⟩ | ⟨other, still⟩
  · exact own.frame (fun _ => rfl) rfl
  · rw [calls] at still
    exact (inv.calls n c' still).frame (fun _ => congrArg _ manager) (others n (Ne.symm other))

theorem send (inv : Inv s) (found : s.calls[n]? = some c) {connId : ConnectionId} {json : RawText}
    {after : Except NotificationError Unit → Progress} (next : c.progress.next = some (.send connId json after)) :
    CallOk { s with log := s.log ++ ((s.look connId).copy json).toList.map (Copy.message n) } n
      { c with tried := c.tried ++ [s.look connId], progress := after (s.look connId).result } := by
  have ok := inv.calls n c found
  obtain ⟨serialized, reading, listed, later⟩ := ok.progress.send next
  refine ⟨ok.order, ?_, ?_, ?_, ?_, ?_⟩
  · intro _
    exact ok.locked reading
  · intro a tried
    rcases List.mem_append.mp tried with old | new
    · exact ok.seen a old
    · obtain rfl := List.mem_singleton.mp new
      rw [← ok.locked reading]
      exact ⟨rfl, look_isSome⟩
  · intro selects a tried
    rcases List.mem_append.mp tried with old | new
    · exact ok.listed selects a old
    · rw [List.mem_singleton.mp new]
      exact listed selects
  · rw [sentBy_tell, if_pos rfl, ok.copies, Call.copies_of_ok serialized]
    refine Eq.trans ?_ (@Call.copies_of_ok { c with tried := c.tried ++ [s.look connId] } json serialized).symm
    rw [List.filterMap_append]
    cases copied : (s.look connId).copy json <;> simp [copied]
  · exact later (s.look connId) rfl look_isSome

theorem calls_of_move (inv : Inv s) (move : Move s a s') {c' : Call} (now : s'.calls[n]? = some c') :
    CallOk s' n c' := by
  cases move with
  | channel | close | receive => exact (inv.calls n c' now).frame (fun _ => rfl) rfl
  | register unread | unregister unread | cleanUp unread =>
      refine (inv.calls n c' now).frame ?_ rfl
      intro reading
      cases (isReading_of_unread unread now).symm.trans reading
  | put put =>
      have same := sentBy_put put n
      rw [send_eq put] at now same ⊢
      exact (inv.calls n c' now).frame (fun _ => rfl) same
  | call all =>
      rw [List.getElem?_append] at now
      split at now
      · exact (inv.calls n c' now).frame (fun _ => rfl) rfl
      · rw [List.getElem?_singleton] at now
        obtain ⟨here, same⟩ := Option.ite_none_right_eq_some.mp now
        cases same
        obtain rfl : n = s.calls.length := by omega
        exact inv.start all
  | skip found next =>
      have ok := inv.calls _ _ found
      obtain ⟨progress, reading, -⟩ := ok.progress.skip next
      refine inv.setCall now rfl rfl (fun _ _ => rfl) ⟨ok.order, ?_, ok.seen, ok.listed, ok.copies, progress⟩
      intro _
      exact ok.locked reading
  | send found next tells =>
      rw [tell_eq tells] at now ⊢
      refine inv.setCall now rfl rfl ?_ (inv.send found next)
      intro k other
      rw [sentBy_tell, if_neg other, List.append_nil]
  | finish found next =>
      have ok := inv.calls _ _ found
      have own := inv.setCall now rfl rfl (fun _ _ => rfl)
        ⟨ok.order, fun reading => (Bool.false_ne_true reading).elim, ok.seen, ok.listed, ok.copies,
          (ok.progress.finish next).1⟩
      exact own.frame (fun _ => rfl) rfl
  | cancel found =>
      have ok := inv.calls _ _ found
      exact inv.setCall now rfl rfl (fun _ _ => rfl)
        ⟨ok.order, fun reading => (Bool.false_ne_true reading).elim, ok.seen, ok.listed, ok.copies, trivial⟩

theorem origins_of_move (inv : Inv s) (move : Move s a s') {message : Message} (member : message ∈ s'.log)
    {origin : Nat × ConnectionId} (comes : message.origin = some origin) : origin.1 < s'.calls.length := by
  refine Nat.lt_of_lt_of_le ?_ move.calls_length
  cases move with
  | channel | register | unregister | close | receive | call | cleanUp | skip | finish | cancel =>
      exact inv.origins message member origin comes
  | put put =>
      rw [send_eq put] at member
      rcases List.mem_append.mp member with old | new
      · exact inv.origins message old origin comes
      · split at new
        · rw [List.mem_singleton.mp new] at comes
          cases comes
        · cases new
  | send found next tells =>
      rw [tell_eq tells] at member
      rcases List.mem_append.mp member with old | new
      · exact inv.origins message old origin comes
      · obtain ⟨copy, -, rfl⟩ := List.mem_map.mp new
        cases comes
        exact (List.getElem?_eq_some_iff.mp found).1

theorem tasks_of_move (inv : Inv s) (move : Move s a s') {task : CleanUp} (member : task ∈ s'.tasks) :
    TaskOk s' task := by
  by_cases old : task ∈ s.tasks
  · exact (inv.tasks task old).of_move move
  · have still := move
    cases move with
    | channel | register | unregister | close | receive | call | skip | cancel => exact absurd member old
    | put put =>
        rw [send_eq put] at member
        exact absurd member old
    | send found next tells =>
        rw [tell_eq tells] at member
        exact absurd member old
    | cleanUp unread found first =>
        rcases List.mem_or_eq_of_mem_set member with old' | rfl
        · exact absurd old' old
        · intro connId later
          have ok := (inv.tasks _ (List.mem_of_getElem? found)).of_move still
          refine ok connId ?_
          rw [first]
          exact List.mem_cons_of_mem _ later
    | finish found next =>
        obtain ⟨-, closed, -⟩ := (inv.calls _ _ found).progress.finish next
        rename_i m d value failedConnections
        simp only at member
        split at member
        · exact absurd member old
        · rcases List.mem_append.mp member with old' | new
          · exact absurd old' old
          · obtain rfl := List.mem_singleton.mp new
            intro connId failed
            obtain ⟨selects, attempt⟩ := closed connId failed
            refine ⟨{ d with progress := .returned value }, ?_, selects, attempt⟩
            exact List.getElem?_set_self (List.getElem?_eq_some_iff.mp found).1

theorem of_move (inv : Inv s) (move : Move s a s') : Inv s' where
  calls _ _ now := inv.calls_of_move move now
  origins _ member _ comes := inv.origins_of_move move member comes
  tasks _ member := inv.tasks_of_move move member

theorem inv_new : Inv new := by
  refine ⟨?_, ?_, ?_⟩ <;> simp [new]

end Inv

end Notifier

end Broadcast

end Server

end Jsonrpsee
