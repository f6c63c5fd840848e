import Jsonrpsee.Client.Batch
import Jsonrpsee.Client.Events
import Jsonrpsee.Client.Subscriptions

/-! # A client and its server

The whole client: the calls of the public interface draw ids and queue messages
for `send_task`, which takes them in any order; `read_task` handles what the
server sends. What is on the wire and not yet answered is read off the frames
themselves. A conformant server answers exactly that, and otherwise sends
notifications.
-/

namespace Jsonrpsee

/-! ## What a frame asks for -/

/-- The id of a request object. -/
def requestId : Json → Option Id
  | .obj members => (members.lookup "id").bind Id.fromJson
  | _ => none

/-- The ids of a batch. -/
def batchIds : Json → Option (List Id)
  | .arr elems => elems.mapM requestId
  | _ => none

@[simp] theorem requestId_toJson (req : Request) : requestId req.toJson = some req.id := by
  simp only [requestId, Request.toJson, List.cons_append, List.lookup_cons]
  simp only [String.reduceBEq, BEq.rfl, Option.bind_some, Id.fromJson_toJson]

@[simp] theorem batchIds_toJson (req : Request) : batchIds req.toJson = none := rfl

/-- The message that a text notifies of, when it is a JSON object that is no
    response and one of the three kinds of notifications. -/
def SerdeJson.Notifies (serde : SerdeJson) (raw : List UInt8) : Prop :=
  ∃ json, raw.find? (fun byte => !Backend.isAsciiWhitespace byte) = some 123 ∧
    serde.fromSlice raw = .ok json ∧ Response.fromJson json = none ∧
    ((SubscriptionResponse.fromJson json).isSome ∨ (SubscriptionError.fromJson json).isSome ∨
      (PlainNotification.fromJson json).isSome)

/-! ## The client -/

/-- A subscribe call that has drawn the first of its two ids. -/
structure SubscribeCall where
  subscribeId : Id
  subscribeMethod : String
  params : Option RawValue
  unsubscribeMethod : String

structure Client where
  ids : RequestIdManager
  nextOneshot : OneshotId
  /-- What each call of the public interface waits for. -/
  issued : Table OneshotId Registration
  backend : Backend
  /-- Calls in other threads may draw ids between the two of a subscribe call. -/
  subscribing : List SubscribeCall
  /-- Messages on their way to `send_task`. -/
  inFlight : List FrontToBack
  /-- Requests on the wire that are not answered. -/
  calls : List Id
  /-- Batches on the wire that are not answered, by their ids. -/
  batches : List (List Id)
  /-- `read_task` has ended because of a received message. -/
  down : Bool

inductive ClientAction where
  | request (method : String) (params : Option RawValue)
  | batchRequest (batch : List (String × Option RawValue))
  | subscribe (subscribeMethod : String) (params : Option RawValue) (unsubscribeMethod : String)
  /-- A subscribe call draws its second id and queues its message. -/
  | drawUnsubscribeId (position : Nat)
  | notification (method : String) (params : Option RawValue)
  | subscribeToMethod (method : String)
  /-- An id is drawn and the call ends before its message is queued. -/
  | skipId
  /-- A subscription handle is dropped or unsubscribed. -/
  | closeSubscription (subId : SubscriptionId)
  | closeMethod (method : String)
  /-- `send_task` takes a queued message. -/
  | send (position : Nat)
  /-- `read_task` gets a text from the server. -/
  | receive (raw : List UInt8)
  /-- A caller times out or goes away. -/
  | dropOneshot (oneshot : OneshotId)
  | dropReceiver (sink : SinkId)
  | read (sink : SinkId)

namespace Client

def new (idKind : IdKind) : Client :=
  { ids := { currentId := 0, idKind }
    nextOneshot := 0
    issued := ∅
    backend := .new
    subscribing := []
    inFlight := []
    calls := []
    batches := []
    down := false }

/-- The state after an id has been drawn. -/
def advance (c : Client) : Client := { c with ids := c.ids.nextRequestId.2 }

/-- Draw an id while the counter has not been used up. -/
def draw (c : Client) (next : Id → Client → Client) : Option Client :=
  if c.ids.currentId.toNat + 1 < 2 ^ 64 then some (next c.ids.nextRequestId.1 c.advance) else none

/-- Create a oneshot and record what it is for. -/
def issue (c : Client) (registration : Registration) : Client :=
  { c with
    nextOneshot := c.nextOneshot + 1
    issued := c.issued.insert c.nextOneshot registration }

/-- Queue a message for `send_task`. -/
def queue (c : Client) (msg : FrontToBack) : Client := { c with inFlight := c.inFlight ++ [msg] }

/-- The requests of a batch, with the ids of its range. -/
def batchRequests (idKind : IdKind) (batch : List (String × Option RawValue)) (range : Range) :
    List Request :=
  (batch.zip range.numbers).map fun ((method, params), id) =>
    { id := idKind.intoId id, method, params }

/-- A received text answers a request or a batch. -/
def settle (serde : SerdeJson) (c : Client) (raw : List UInt8) : Client :=
  match serde.single raw, serde.responses raw with
  | some rp, _ => { c with calls := c.calls.erase rp.id }
  | none, some rps =>
      { c with batches := c.batches.eraseP fun ids => (rps.map Response.id).isPerm ids }
  | none, none => c

def step (serde : SerdeJson) (cfg : Config) (c : Client) : ClientAction → Option Client
  | .request method params =>
      c.draw fun id c =>
        (c.issue (.call id)).queue (.request
          { raw := Request.toJson { id, method, params }, id, sendBack := some c.nextOneshot })
  | .batchRequest batch =>
      if batch = [] then some c
      else
        c.draw fun id c =>
          match generateBatchIdRange id batch.length with
          | .error _ => c
          | .ok range =>
              (c.issue (.batch range)).queue (.batch
                { raw := .arr ((batchRequests c.ids.idKind batch range).map Request.toJson)
                  ids := range
                  sendBack := c.nextOneshot })
  | .subscribe subscribeMethod params unsubscribeMethod =>
      if subscribeMethod = unsubscribeMethod then some c
      else
        c.draw fun subscribeId c =>
          { c with subscribing := c.subscribing ++
              [{ subscribeId, subscribeMethod, params, unsubscribeMethod }] }
  | .drawUnsubscribeId position =>
      match c.subscribing[position]? with
      | none => none
      | some call =>
          { c with subscribing := c.subscribing.eraseIdx position }.draw fun unsubscribeId c =>
            (c.issue (.subscription call.subscribeId)).queue (.subscribe
              { raw := Request.toJson
                  { id := call.subscribeId, method := call.subscribeMethod, params := call.params }
                subscribeId := call.subscribeId
                unsubscribeId
                unsubscribeMethod := call.unsubscribeMethod
                sendBack := c.nextOneshot })
  | .notification method params =>
      c.draw fun _ c => c.queue (.notification (Notification.toJson { method, params }))
  | .subscribeToMethod method =>
      some ((c.issue (.notification method)).queue
        (.registerNotification { method, sendBack := c.nextOneshot }))
  | .skipId => c.draw fun _ c => c
  | .closeSubscription subId => some (c.queue (.subscriptionClosed subId))
  | .closeMethod method => some (c.queue (.unregisterNotification method))
  | .send position =>
      match c.inFlight[position]? with
      | none => none
      | some msg =>
          let (frames, backend) := c.backend.handleFrontendMessages cfg msg
          some { c with
            backend
            inFlight := c.inFlight.eraseIdx position
            calls := c.calls ++ frames.filterMap requestId
            batches := c.batches ++ frames.filterMap batchIds }
  | .receive raw =>
      match c.backend.handleRecvMessage serde cfg raw with
      | (.ok messages, backend) =>
          some { c.settle serde raw with backend, inFlight := c.inFlight ++ messages }
      | (_, backend) => some { c.settle serde raw with backend, down := true }
  | .dropOneshot oneshot => some { c with backend := World.dropOneshot c.backend oneshot }
  | .dropReceiver sink =>
      some { c with backend := { c.backend with channels := c.backend.channels.dropReceiver sink } }
  | .read sink =>
      (c.backend.channels.read sink).map fun channels =>
        { c with backend := { c.backend with channels } }

end Client

/-- What a conformant server may send: a response to a request on the wire, an
    array that answers a batch on the wire with exactly its ids, or a
    notification. -/
def Client.Expects (serde : SerdeJson) (c : Client) (raw : List UInt8) : Prop :=
  (∃ rp, serde.single raw = some rp ∧ rp.id ∈ c.calls) ∨
  (∃ rps ids, serde.responses raw = some rps ∧ ids ∈ c.batches ∧ (rps.map Response.id).Perm ids) ∨
  serde.Notifies raw

/-- The server keeps to the protocol in this step. -/
def Conformant (serde : SerdeJson) (t : Transition Client ClientAction) : Prop :=
  ∀ raw, t.action = .receive raw → t.before.Expects serde raw

/-- The test that a received text answers something on the wire. -/
def Client.answered (serde : SerdeJson) (c : Client) : ClientAction → Bool
  | .receive raw =>
      (serde.single raw).any (fun rp => rp.id ∈ c.calls) ||
        (serde.responses raw).any (fun rps => c.batches.any fun ids => (rps.map Response.id).isPerm ids)
  | _ => true

theorem conformant_of_answered {serde : SerdeJson} {t : Transition Client ClientAction}
    (answered : t.before.answered serde t.action = true) : Conformant serde t := by
  intro raw action
  rw [action, Client.answered, Bool.or_eq_true, Option.any_eq_true, Option.any_eq_true] at answered
  rcases answered with ⟨rp, holds, owed⟩ | ⟨rps, holds, owed⟩
  · exact .inl ⟨rp, holds, of_decide_eq_true owed⟩
  · obtain ⟨ids, member, same⟩ := List.any_eq_true.mp owed
    exact .inr (.inl ⟨rps, ids, holds, member, List.isPerm_iff.mp same⟩)

namespace SerdeJson

variable {serde : SerdeJson} {raw : List UInt8}

/-- A text is not both an object and an array. -/
theorem single_of_responses {rps : List Response} (holds : serde.responses raw = some rps) :
    serde.single raw = none := by
  unfold responses at holds
  split at holds
  · rename_i bracket parsed
    rw [single, bracket, parsed]
    rfl
  · cases holds

theorem Notifies.single (notifies : serde.Notifies raw) : serde.single raw = none := by
  obtain ⟨json, brace, parsed, other, -⟩ := notifies
  simp only [SerdeJson.single, brace, parsed, other]

theorem Notifies.responses (notifies : serde.Notifies raw) : serde.responses raw = none := by
  obtain ⟨json, brace, parsed, -⟩ := notifies
  rw [SerdeJson.responses, brace, parsed]
  cases json <;> rfl

end SerdeJson

/-- A notification runs one section and never fails. -/
theorem Backend.recv_notifies {serde : SerdeJson} {raw : List UInt8} (notifies : serde.Notifies raw)
    (cfg : Config) {b : Backend} (table : SubscriptionTable b.manager) :
    ∃ op, op.Quiet ∧
      b.handleRecvMessage serde cfg raw = (.ok (b.apply cfg op).1.messages, (b.apply cfg op).2) := by
  obtain ⟨json, brace, parsed, other, kinds⟩ := notifies
  simp only [handleRecvMessage, brace, parsed, handleObject, other]
  cases item : SubscriptionResponse.fromJson json with
  | some response => exact ⟨.notify response, trivial, rfl⟩
  | none =>
      cases closed : SubscriptionError.fromJson json with
      | some response =>
          refine ⟨.close response, trivial, ?_⟩
          cases done : b.processSubscriptionCloseResponse response with
          | none => exact absurd done (closeResponse_isSome table response)
          | some after => simp only [apply, done, Option.getD_some, Output.none]
      | none =>
          cases plain : PlainNotification.fromJson json with
          | some notif => exact ⟨.plain notif, trivial, rfl⟩
          | none =>
              simp only [item, closed, plain, Option.isSome_none, Bool.false_eq_true, or_self] at kinds

end Jsonrpsee
