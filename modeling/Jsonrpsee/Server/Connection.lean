import Jsonrpsee.Server.Batch
import Jsonrpsee.Server.Subscription

/-! # The tasks of WebSocket connections

Every message that a connection receives is handled by a task of its own. The
task awaits its calls one after the other and puts its response on the channel
in the end; between any two of its steps other tasks may run, and handlers may
accept, reject or drop their sinks.
-/

namespace Jsonrpsee

namespace Server

/-- How a method is registered. -/
inductive Method where
  | sync
  | async
  /-- An async callback that waits for a blocking one. -/
  | blocking
  | subscription (method : MethodId) (notif : String)
  | unsubscription (method : MethodId)
  deriving Repr, DecidableEq

/-- The task itself runs a callback of the user. -/
def Method.runsCallback : Method → Bool
  | .sync | .async | .subscription _ _ => true
  | .blocking | .unsubscription _ => false

/-- What all connections share. -/
structure Service where
  cfg : ServerConfig
  serde : SerdeJson
  batchRequestsConfig : BatchRequestConfig
  methods : Table String Method

/-- Names the task of a received message. -/
abbrev TaskId := Nat

/-- The loop of a batch. -/
structure Loop where
  entries : List Entry
  batchRp : BatchResponseBuilder
  gotNotification : Bool

/-- Where a task is. A call belongs to a batch when there is a loop to go on with. -/
inductive TaskState where
  /-- `RpcService::call` is about to run the callback. -/
  | calling (req : Request) (extensions : Extensions) (rest : Option Loop)
  /-- The future of an async callback is running. -/
  | running (req : Request) (extensions : Extensions) (blocking : Bool) (rest : Option Loop)
  /-- A subscribe call waits for its `PendingSubscriptionSink`. -/
  | subscribing (req : Request) (extensions : Extensions) (n : SinkId) (rest : Option Loop)
  /-- The call has returned. -/
  | returned (rp : MethodResponse) (rest : Option Loop)
  | looping (rest : Loop)
  /-- `handle_rpc_call` has returned; was the response of a batch too big? -/
  | sending (rp : MethodResponse) (tooBig : Bool)
  | done (tooBig : Bool)
  /-- A callback has panicked, and the task is gone. -/
  | panicked

structure Task where
  conn : ConnectionId
  message : Incoming
  state : TaskState
  /-- The sinks of its subscribe calls. No step reads them. -/
  sinks : List SinkId
  /-- The calls whose blocking callback has panicked. No step reads them. -/
  failed : List Id

structure Serving where
  hub : Hub
  tasks : Table TaskId Task
  next : TaskId

inductive TaskAction where
  /-- With what a sync callback gives back, and what the id provider gives. -/
  | call (result : Result) (subId : SubscriptionId)
  | resolve (result : Result)
  /-- The blocking callback has panicked. -/
  | joinError
  /-- The sink has answered the subscribe call. -/
  | resume
  /-- The response of a call is used. -/
  | collect
  /-- The next entry of a batch. -/
  | loop
  | send
  | panic

inductive ServingAction where
  /-- Clients connect and leave; handlers use their sinks. -/
  | hub (a : HubAction)
  | receive (conn : ConnectionId) (data : List UInt8) (extensions : Extensions)
  | task (t : TaskId) (a : TaskAction)

/-! ## Reading a message -/

/-- `u8::is_ascii_whitespace`. -/
def isAsciiWhitespace (byte : UInt8) : Bool := byte = 9 || byte = 10 || byte = 12 || byte = 13 || byte = 32

/-- The first byte that is no whitespace, among the first 128 ones, tells a single
    request from a batch. -/
def splitMessage (data : List UInt8) : Option (List UInt8 × Bool) :=
  if (data.takeWhile isAsciiWhitespace).length < 128 then
    match data.dropWhile isAsciiWhitespace with
    | 123 :: rest => some (123 :: rest, true)
    | 91 :: rest => some (91 :: rest, false)
    | _ => none
  else none

def Service.read (service : Service) (data : List UInt8) (extensions : Extensions) : Incoming :=
  match splitMessage data with
  | some (body, isSingle) => readMessage service.serde body isSingle service.batchRequestsConfig extensions
  | none => .refused (.error .null (.ofCode .parseError))

/-! ## Running the tasks -/

/-- Where `handle_rpc_call` starts. -/
def Service.start (service : Service) : Incoming → TaskState
  | .call req extensions => .calling req extensions none
  | .notification _ extensions => .sending (RpcService.notification extensions) false
  | .batch entries =>
      .looping
        { entries
          batchRp := .newWithLimit service.cfg.maxResponseBodySize
          gotNotification := false }
  | .refused rp => .sending rp false

/-- A response is appended to that of the batch. -/
def Loop.append (loop : Loop) (rp : MethodResponse) : TaskState :=
  match loop.batchRp.append rp with
  | (.error err, _) => .sending err true
  | (.ok (), batchRp) => .looping { loop with batchRp }

/-- One turn of the loop over the entries of a batch. -/
def Loop.turn (loop : Loop) : TaskState :=
  match loop.entries with
  | [] =>
      if loop.batchRp.isEmpty && loop.gotNotification then .sending .notification false
      else .sending (.fromBatch loop.batchRp.finish) false
  | .ok (.call req extensions) :: entries => .calling req extensions (some { loop with entries })
  | .ok (.notification _ _) :: entries => .looping { loop with entries, gotNotification := true }
  | .error e :: entries => { loop with entries }.append (.error e.id e.err)

/-- What the subscribe call makes of the answer of its sink. -/
def Answer.response (id : Id) : Answer → MethodResponse
  | .sent rp => rp
  | .dropped => .error id (.ofCode .internalError)

/-- `RpcService::call` up to where it waits for something. -/
def Service.call (service : Service) (h : Hub) (task : Task) (req : Request) (extensions : Extensions)
    (rest : Option Loop) (result : Result) (subId : SubscriptionId) : Hub × Task :=
  let refuse (err : ErrorObject) :=
    (h, { task with state := .returned ((MethodResponse.error req.id err).withExtensions extensions) rest })
  match service.methods.lookup req.method with
  | none => refuse (.ofCode .methodNotFound)
  | some .sync =>
      let rp := MethodResponse.response req.id result service.cfg.maxResponseBodySize
      (h, { task with state := .returned (rp.withExtensions extensions) rest })
  | some .async => (h, { task with state := .running req extensions false rest })
  | some .blocking => (h, { task with state := .running req extensions true rest })
  | some (.subscription method notif) =>
      match h.subscribe service.cfg { connId := task.conn, method, notif, id := req.id, subId } with
      | .ok (n, h) => (h, { task with state := .subscribing req extensions n rest, sinks := task.sinks ++ [n] })
      | .error err => refuse err
  | some (.unsubscription method) =>
      let (removed, h) := h.unsubscribe task.conn method req.params
      let rp := MethodResponse.response req.id (.payload (.success (.bool removed)) none) service.cfg.maxResponseBodySize
      -- Only the callback that cannot read its params passes the extensions on.
      let rp := if (paramsOne req.params).isNone then rp.withExtensions extensions else rp
      (h, { task with state := .returned rp rest })

/-- A step of the task `t`. -/
def Service.stepTask (service : Service) (h : Hub) (t : TaskId) (task : Task) (a : TaskAction) : Option (Hub × Task) :=
  match a, task.state with
  | .call result subId, .calling req extensions rest =>
      some (service.call h task req extensions rest result subId)
  | .resolve result, .running req extensions _ rest =>
      let rp := MethodResponse.response req.id result service.cfg.maxResponseBodySize
      some (h, { task with state := .returned (rp.withExtensions extensions) rest })
  | .joinError, .running req extensions true rest =>
      let rp := (MethodResponse.error .null (.ofCode .internalError)).withExtensions extensions
      some (h, { task with state := .returned rp rest, failed := task.failed ++ [req.id] })
  | .resume, .subscribing req extensions n rest =>
      (h.answers.lookup n).map fun answer =>
        (h, { task with state := .returned ((answer.response req.id).withExtensions extensions) rest })
  | .collect, .returned rp rest =>
      match rest with
      | none => some (h, { task with state := .sending rp false })
      | some loop => some (h, { task with state := loop.append rp })
  | .loop, .looping loop => some (h, { task with state := loop.turn })
  | .send, .sending rp tooBig =>
      if rp.isMethodCall || rp.isBatch then
        some (h.push task.conn (.task t) rp.json, { task with state := .done tooBig })
      else some (h, { task with state := .done tooBig })
  | .panic, .calling req _ _ =>
      if (service.methods.lookup req.method).any Method.runsCallback then some (h, { task with state := .panicked })
      else none
  | .panic, .running _ _ false _ => some (h, { task with state := .panicked })
  | _, _ => none

/-- Subscribing and unsubscribing is for tasks. As long as the connection is open,
    a subscribe call waits for its sink. -/
def HubAction.isFree (h : Hub) : HubAction → Bool
  | .subscribe _ | .unsubscribe _ _ _ => false
  | .acceptFail n => (h.subs.lookup n).any fun s => !h.isOpen s.uniqSub.connId
  | .connect _ | .close _ | .acceptSend _ | .acceptComplete _ | .acceptInsert _ | .rejectSend _ _ | .rejectComplete _
  | .dropPending _ | .release _ | .clone _ | .dropCheck _ | .dropRemove _ | .dropPermit _ | .send _ _ => true

namespace Serving

def new : Serving := { hub := .new, tasks := ∅, next := 0 }

def step (service : Service) (w : Serving) (a : ServingAction) : Option Serving :=
  match a with
  | .hub a => if a.isFree w.hub then (w.hub.step service.cfg a).map fun hub => { w with hub } else none
  | .receive conn data extensions =>
      if w.hub.isOpen conn then
        let message := service.read data extensions
        let task : Task := { conn, message, state := service.start message, sinks := [], failed := [] }
        some { w with tasks := w.tasks.insert w.next task, next := w.next + 1 }
      else none
  | .task t a =>
      (w.tasks.lookup t).bind fun task =>
        (service.stepTask w.hub t task a).map fun (hub, task) =>
          { w with hub, tasks := w.tasks.insert t task }

end Serving

end Server

end Jsonrpsee
