import Jsonrpsee.Server.Http

/-! # The background task of a WebSocket connection

The receive loop spawns a task for every message, the send task takes the
messages of the connection's channel to the socket. Tasks, handlers and all other
connections run in between. There are two places where a connection is set up.
-/

namespace Jsonrpsee

namespace Server

/-! ## Setting up a connection -/

/-- Policy for handling message encryption/decryption failures. -/
inductive MessageCryptoErrorPolicy where
  | sendError
  | closeConnection
  /-- Only for decryption failures. -/
  | skipMessage
  deriving Repr, DecidableEq

structure MessageEncryption where
  encrypt : String → Option String
  decrypt : String → Option String

/-- The server's configuration, as far as connections use it. -/
structure ServerSettings where
  maxRequestBodySize : Nat
  maxResponseBodySize : Nat
  maxSubscriptionsPerConnection : Nat
  batchRequestsConfig : BatchRequestConfig
  messageBufferCapacity : Nat
  messageEncryption : Option MessageEncryption
  messageCryptoErrorPolicy : MessageCryptoErrorPolicy

structure BackgroundTaskParams where
  serverCfg : ServerSettings
  conn : ConnectionId
  /-- `set_max_message_size` of the receiver. -/
  maxMessageSize : Nat
  /-- The service with the sink of the connection. -/
  service : Service
  /-- Capacity of the channel. -/
  capacity : Nat
  onSessionClose : Bool
  extensions : Extensions
  messageEncryption : Option MessageEncryption

/-- The service of both set-ups. The connection's `MethodSink` is made by `new`. -/
def ServerSettings.service (serverCfg : ServerSettings) (serde : SerdeJson) (methods : Table String Method) : Service :=
  { cfg :=
      { maxSubscriptionsPerConnection := serverCfg.maxSubscriptionsPerConnection
        maxResponseBodySize := serverCfg.maxResponseBodySize }
    serde
    batchRequestsConfig := serverCfg.batchRequestsConfig
    methods }

/-- `ws::connect`. -/
def connect (serde : SerdeJson) (serverCfg : ServerSettings) (methods : Table String Method) (conn : ConnectionId)
    (extensions : Extensions) : BackgroundTaskParams :=
  { serverCfg
    conn
    maxMessageSize := serverCfg.maxResponseBodySize
    service := serverCfg.service serde methods
    capacity := serverCfg.messageBufferCapacity
    onSessionClose := false
    extensions
    messageEncryption := serverCfg.messageEncryption }

/-- The upgrade branch of `TowerServiceNoHttp::call`. -/
def upgrade (serde : SerdeJson) (serverCfg : ServerSettings) (methods : Table String Method) (conn : ConnectionId)
    (extensions : Extensions) (onSessionClose : Bool) : BackgroundTaskParams :=
  { serverCfg
    conn
    maxMessageSize := serverCfg.maxRequestBodySize
    service := serverCfg.service serde methods
    capacity := serverCfg.messageBufferCapacity
    onSessionClose
    extensions
    messageEncryption := serverCfg.messageEncryption }

/-! ## Encryption -/

/-- What the task of a message makes of the received bytes. -/
inductive Decrypted where
  | data (bytes : List UInt8)
  | refused (rp : MethodResponse)
  | skipped

def decryptData (encryption : Option MessageEncryption) (policy : MessageCryptoErrorPolicy) (data : List UInt8) :
    Decrypted :=
  match encryption with
  | none => .data data
  | some enc =>
      match String.fromUTF8? (ByteArray.mk data.toArray) with
      | none => .refused (.error .null (.ofCode .parseError))
      | some encryptedText =>
          match enc.decrypt encryptedText with
          | some decrypted => .data decrypted.toByteArray.data.toList
          | none =>
              match policy with
              | .sendError => .refused (.error .null (.borrowed (-32013) "Message decryption failed" none))
              | .closeConnection | .skipMessage => .skipped

/-- `send_message`: the text for the socket. -/
def sendMessage (encryption : Option MessageEncryption) (policy : MessageCryptoErrorPolicy) (response : RawText) :
    Option String :=
  match encryption with
  | none => some response.text
  | some enc =>
      match enc.encrypt response.text with
      | some encrypted => some encrypted
      | none =>
          match policy with
          | .sendError => some (errorText (.borrowed (-32012) "Message encryption failed" none)).text
          | .closeConnection | .skipMessage => none

/-! ## The tasks of a connection -/

/-- The task has dropped its clone of the service, and with it a sender of
    `pending_calls`. -/
def TaskState.isFinished : TaskState → Bool
  | .done _ | .panicked => true
  | .calling _ _ _ | .running _ _ _ _ | .subscribing _ _ _ _ | .returned _ _ | .looping _ | .sending _ _ => false

namespace Serving

/-- The task of a message. -/
def spawn (service : Service) (w : Serving) (conn : ConnectionId) (message : Incoming) : Serving :=
  let task : Task := { conn, message, state := service.start message, sinks := [], failed := [] }
  { w with tasks := w.tasks.insert w.next task, next := w.next + 1 }

/-- The receive loop sends an error by itself; it is entered like a task that is
    done. -/
def sendError (w : Serving) (conn : ConnectionId) (rp : MethodResponse) : Serving :=
  let task : Task := { conn, message := .refused rp, state := .done false, sinks := [], failed := [] }
  { hub := w.hub.push conn (.task w.next) rp.json, tasks := w.tasks.insert w.next task, next := w.next + 1 }

/-- All senders of the connection's `pending_calls` have been dropped. -/
def pendingCallsDone (w : Serving) (conn : ConnectionId) : Bool :=
  Table.count w.tasks (fun task => task.conn = conn ∧ task.state.isFinished = false) = 0

end Serving

/-! ## The receive loop and the send task -/

/-- Where `background_task` is. -/
inductive LoopPhase where
  | receiving
  /-- `graceful_shutdown` waits for the pending calls. -/
  | draining
  /-- `conn_tx` has been used. -/
  | signalled
  deriving Repr, DecidableEq

/-- Where `send_task` is. -/
inductive SenderPhase where
  | running
  /-- The loop has been left, and `ws_sender` is closed. -/
  | closing
  /-- The channel is closed as well. -/
  | closed
  deriving Repr, DecidableEq

/-- One connection, among all others. -/
structure WsConn where
  serving : Serving
  loop : LoopPhase
  sender : SenderPhase
  /-- The messages that were handed to `ws_sender`, with their texts on the socket. -/
  handed : List (RawText × String)
  /-- The received messages; were they accepted? No step reads them. -/
  received : List (List UInt8 × Bool)

inductive WsAction where
  /-- The tasks and the handlers of all connections, and what other connections do. -/
  | serving (a : ServingAction)
  /-- The receiver has read a message. -/
  | incoming (data : List UInt8)
  /-- The receive loop sees the stop signal. -/
  | stopped
  /-- The client has left, was inactive for too long, or receiving has failed. -/
  | connectionClosed
  | pendingCallsDone
  /-- While calls are pending, the client has left or receiving has failed. -/
  | disconnect
  /-- While calls are pending, the send task has ended. -/
  | senderGone
  /-- The send task takes the next message off the channel. -/
  | deliver
  | sendError
  /-- The channel is empty, and the send task sees the signal to stop. -/
  | stopSending
  | closeChannel

/-- What the environment of the connection does: it neither receives for it nor closes
    its channel. -/
def ServingAction.isOutside (conn : ConnectionId) : ServingAction → Bool
  | .receive other _ _ => other ≠ conn
  | .hub (.close other) => other ≠ conn
  | .hub _ | .task _ _ => true

namespace WsConn

/-- What the send task has not taken yet. -/
def queue (s : WsConn) (conn : ConnectionId) : List RawText :=
  ((s.serving.hub.outgoing conn).map Prod.snd).drop s.handed.length

/-- A `send` waits until there is capacity. -/
def hasRoom (p : BackgroundTaskParams) (s : WsConn) (serving : Serving) : Bool :=
  (serving.hub.outgoing p.conn).length = (s.serving.hub.outgoing p.conn).length ||
    (serving.hub.outgoing p.conn).length ≤ s.handed.length + p.capacity

/-- A message of the client. -/
def receive (p : BackgroundTaskParams) (s : WsConn) (data : List UInt8) : Option WsConn :=
  if data.length ≤ p.maxMessageSize then
    let received := s.received ++ [(data, true)]
    match decryptData p.messageEncryption p.serverCfg.messageCryptoErrorPolicy data with
    | .data bytes =>
        some { s with serving := s.serving.spawn p.service p.conn (p.service.read bytes p.extensions), received }
    | .refused rp => some { s with serving := s.serving.spawn p.service p.conn (.refused rp), received }
    | .skipped => some { s with received }
  else
    let received := s.received ++ [(data, false)]
    if s.serving.hub.isOpen p.conn then
      let rp := MethodResponse.error .null (rejectTooBigRequest p.serverCfg.maxRequestBodySize)
      let serving := s.serving.sendError p.conn rp
      if hasRoom p s serving then some { s with serving, received } else none
    else some { s with loop := .signalled, received }

def step (p : BackgroundTaskParams) (s : WsConn) (a : WsAction) : Option WsConn :=
  match a with
  | .serving a =>
      if a.isOutside p.conn then
        (s.serving.step p.service a).bind fun serving => if hasRoom p s serving then some { s with serving } else none
      else none
  | .incoming data => if s.loop = .receiving then s.receive p data else none
  | .stopped => if s.loop = .receiving then some { s with loop := .draining } else none
  | .connectionClosed => if s.loop = .receiving then some { s with loop := .signalled } else none
  | .pendingCallsDone =>
      if s.loop = .draining ∧ s.serving.pendingCallsDone p.conn then some { s with loop := .signalled } else none
  | .disconnect => if s.loop = .draining then some { s with loop := .signalled } else none
  | .senderGone => if s.loop = .draining ∧ s.sender ≠ .running then some { s with loop := .signalled } else none
  | .deliver =>
      match s.sender, s.queue p.conn with
      | .running, response :: _ =>
          match sendMessage p.messageEncryption p.serverCfg.messageCryptoErrorPolicy response with
          | some text => some { s with handed := s.handed ++ [(response, text)] }
          | none => some { s with sender := .closing }
      | _, _ => none
  | .sendError => if s.sender = .running then some { s with sender := .closing } else none
  | .stopSending =>
      match s.sender, s.loop, s.queue p.conn with
      | .running, .signalled, [] => some { s with sender := .closing }
      | _, _, _ => none
  | .closeChannel =>
      if s.sender = .closing then
        (s.serving.hub.step p.service.cfg (.close p.conn)).map fun hub =>
          { s with sender := .closed, serving := { s.serving with hub } }
      else none

/-- A connection that has been set up. -/
def new (serving : Serving) : WsConn :=
  { serving, loop := .receiving, sender := .running, handed := [], received := [] }

/-! ## The steps, one by one -/

/-- The steps that are possible, and where they lead. -/
inductive Move (p : BackgroundTaskParams) (s : WsConn) : WsAction → WsConn → Prop
  | serving {a : ServingAction} {serving : Serving} (outside : a.isOutside p.conn = true)
      (taken : s.serving.step p.service a = some serving) : Move p s (.serving a) { s with serving }
  | spawn {data : List UInt8} (message : Incoming) (receiving : s.loop = .receiving)
      (fits : data.length ≤ p.maxMessageSize) :
      Move p s (.incoming data)
        { s with serving := s.serving.spawn p.service p.conn message, received := s.received ++ [(data, true)] }
  | skip {data : List UInt8} (receiving : s.loop = .receiving) (fits : data.length ≤ p.maxMessageSize) :
      Move p s (.incoming data) { s with received := s.received ++ [(data, true)] }
  | refuse {data : List UInt8} (receiving : s.loop = .receiving) (large : ¬ data.length ≤ p.maxMessageSize)
      (isOpen : s.serving.hub.isOpen p.conn = true) :
      Move p s (.incoming data)
        { s with
          serving := s.serving.sendError p.conn
            (MethodResponse.error .null (rejectTooBigRequest p.serverCfg.maxRequestBodySize))
          received := s.received ++ [(data, false)] }
  | unheard {data : List UInt8} (receiving : s.loop = .receiving) (large : ¬ data.length ≤ p.maxMessageSize)
      (closed : ¬ s.serving.hub.isOpen p.conn = true) :
      Move p s (.incoming data) { s with loop := .signalled, received := s.received ++ [(data, false)] }
  | stopped (receiving : s.loop = .receiving) : Move p s .stopped { s with loop := .draining }
  | connectionClosed (receiving : s.loop = .receiving) : Move p s .connectionClosed { s with loop := .signalled }
  | pendingCallsDone (draining : s.loop = .draining) (done : s.serving.pendingCallsDone p.conn = true) :
      Move p s .pendingCallsDone { s with loop := .signalled }
  | disconnect (draining : s.loop = .draining) : Move p s .disconnect { s with loop := .signalled }
  | senderGone (draining : s.loop = .draining) (gone : s.sender ≠ .running) :
      Move p s .senderGone { s with loop := .signalled }
  | deliver {response : RawText} {rest : List RawText} (text : String) (running : s.sender = .running)
      (next : s.queue p.conn = response :: rest) :
      Move p s .deliver { s with handed := s.handed ++ [(response, text)] }
  | undeliverable (running : s.sender = .running) : Move p s .deliver { s with sender := .closing }
  | sendError (running : s.sender = .running) : Move p s .sendError { s with sender := .closing }
  | stopSending (running : s.sender = .running) (signalled : s.loop = .signalled) (empty : s.queue p.conn = []) :
      Move p s .stopSending { s with sender := .closing }
  | closeChannel {hub : Hub} (closing : s.sender = .closing)
      (taken : s.serving.hub.step p.service.cfg (.close p.conn) = some hub) :
      Move p s .closeChannel { s with sender := .closed, serving := { s.serving with hub } }

section Moves

variable {p : BackgroundTaskParams} {s s' : WsConn}

theorem move_of_receive {data : List UInt8} (receiving : s.loop = .receiving) (taken : s.receive p data = some s') :
    Move p s (.incoming data) s' := by
  unfold receive at taken
  by_cases fits : data.length ≤ p.maxMessageSize
  · rw [if_pos fits] at taken
    cases read : decryptData p.messageEncryption p.serverCfg.messageCryptoErrorPolicy data with
    | data bytes =>
        simp only [read] at taken
        cases taken
        exact .spawn _ receiving fits
    | refused rp =>
        simp only [read] at taken
        cases taken
        exact .spawn _ receiving fits
    | skipped =>
        simp only [read] at taken
        cases taken
        exact .skip receiving fits
  · rw [if_neg fits] at taken
    by_cases isOpen : s.serving.hub.isOpen p.conn = true
    · rw [if_pos isOpen] at taken
      obtain ⟨-, taken⟩ := Option.ite_none_right_eq_some.mp taken
      cases taken
      exact .refuse receiving fits isOpen
    · rw [if_neg isOpen] at taken
      cases taken
      exact .unheard receiving fits isOpen

/-- The send task takes the next message, and what `send_message` makes of it decides. -/
theorem deliver_cases (taken : step p s .deliver = some s') :
    s.sender = .running ∧ ∃ response rest, s.queue p.conn = response :: rest ∧
      ((∃ text, sendMessage p.messageEncryption p.serverCfg.messageCryptoErrorPolicy response = some text ∧
        s' = { s with handed := s.handed ++ [(response, text)] }) ∨
      sendMessage p.messageEncryption p.serverCfg.messageCryptoErrorPolicy response = none ∧
        s' = { s with sender := .closing }) := by
  simp only [step] at taken
  cases running : s.sender with
  | closing | closed =>
      rw [running] at taken
      cases taken
  | running =>
      cases queued : s.queue p.conn with
      | nil =>
          rw [running, queued] at taken
          cases taken
      | cons response rest =>
          rw [running, queued] at taken
          refine ⟨rfl, response, rest, rfl, ?_⟩
          cases sent : sendMessage p.messageEncryption p.serverCfg.messageCryptoErrorPolicy response with
          | some text =>
              simp only [sent, Option.some.injEq] at taken
              exact .inl ⟨text, rfl, running ▸ taken.symm⟩
          | none =>
              simp only [sent, Option.some.injEq] at taken
              exact .inr ⟨rfl, taken.symm⟩

theorem move_of_deliver (taken : step p s .deliver = some s') : Move p s .deliver s' := by
  obtain ⟨running, response, rest, queued, ⟨text, -, rfl⟩ | ⟨-, rfl⟩⟩ := deliver_cases taken
  · exact .deliver text running queued
  · exact .undeliverable running

theorem move_of_step {a : WsAction} (taken : step p s a = some s') : Move p s a s' := by
  cases a with
  | incoming data =>
      obtain ⟨receiving, taken⟩ := Option.ite_none_right_eq_some.mp taken
      exact move_of_receive receiving taken
  | serving a =>
      obtain ⟨outside, taken⟩ := Option.ite_none_right_eq_some.mp taken
      obtain ⟨serving, stepped, taken⟩ := Option.bind_eq_some_iff.mp taken
      obtain ⟨-, taken⟩ := Option.ite_none_right_eq_some.mp taken
      cases taken
      exact .serving outside stepped
  | stopped =>
      obtain ⟨receiving, taken⟩ := Option.ite_none_right_eq_some.mp taken
      cases taken
      exact .stopped receiving
  | connectionClosed =>
      obtain ⟨receiving, taken⟩ := Option.ite_none_right_eq_some.mp taken
      cases taken
      exact .connectionClosed receiving
  | pendingCallsDone =>
      obtain ⟨⟨draining, done⟩, taken⟩ := Option.ite_none_right_eq_some.mp taken
      cases taken
      exact .pendingCallsDone draining done
  | disconnect =>
      obtain ⟨draining, taken⟩ := Option.ite_none_right_eq_some.mp taken
      cases taken
      exact .disconnect draining
  | senderGone =>
      obtain ⟨⟨draining, gone⟩, taken⟩ := Option.ite_none_right_eq_some.mp taken
      cases taken
      exact .senderGone draining gone
  | deliver => exact move_of_deliver taken
  | sendError =>
      obtain ⟨running, taken⟩ := Option.ite_none_right_eq_some.mp taken
      cases taken
      exact .sendError running
  | stopSending =>
      simp only [step] at taken
      split at taken
      · rename_i running signalled empty
        cases taken
        exact .stopSending running signalled empty
      · cases taken
  | closeChannel =>
      obtain ⟨closing, taken⟩ := Option.ite_none_right_eq_some.mp taken
      obtain ⟨hub, stepped, rfl⟩ := Option.map_eq_some_iff.mp taken
      exact .closeChannel closing stepped

end Moves

end WsConn

end Server

end Jsonrpsee
