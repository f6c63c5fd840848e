import Jsonrpsee.Client.Manager

/-! # The background handlers

What `read_task` does with a received message and `send_task` with a message of
the front-end. Every handler threads the state both tasks share: the request
manager behind its lock, and the channels to the front-end. A frame handed to
the transport is the JSON value of its text.
-/

namespace Jsonrpsee

/-- Batch request message. -/
structure BatchMessage where
  raw : Json
  ids : Range
  sendBack : OneshotId

/-- Request message. -/
structure RequestMessage where
  raw : Json
  id : Id
  sendBack : Option OneshotId

/-- Subscription message. -/
structure SubscriptionMessage where
  raw : Json
  subscribeId : Id
  unsubscribeId : Id
  unsubscribeMethod : String
  sendBack : OneshotId

/-- RegisterNotification message. -/
structure RegisterNotificationMessage where
  method : String
  sendBack : OneshotId

/-- Message that the Client can send to the background task. -/
inductive FrontToBack where
  | batch (batch : BatchMessage)
  | notification (raw : Json)
  | request (request : RequestMessage)
  | subscribe (sub : SubscriptionMessage)
  | registerNotification (reg : RegisterNotificationMessage)
  | unregisterNotification (method : String)
  | subscriptionClosed (subId : SubscriptionId)

/-- The state shared by the background tasks. -/
structure Backend where
  manager : RequestManager
  channels : Channels

/-- The places where a handler can panic. -/
inductive Panic where
  /-- `expect("Both request ID and sub ID in RequestManager; qed")`. -/
  | subscriptionMissing
  /-- Overflow of the exclusive end of a batch range. -/
  | rangeOverflow
  deriving Repr, DecidableEq

/-- The result of a handler that may fail or panic. -/
inductive Outcome (τ : Type) where
  | ok (value : τ)
  | err (e : Error)
  | panic (reason : Panic)

structure Config where
  maxBufferCapacityPerSubscription : Nat
  /-- Arithmetic overflow panics; otherwise it wraps. -/
  overflowChecks : Bool

namespace Backend

def new : Backend := { manager := .new, channels := .empty }

/-- What a batch slot holds until its response is found. -/
def placeholder : Response := .new (.error (.borrowed 0 "" none)) .null

/-- Put every response into the slot of its id. -/
def storeResponses (start : UInt64) :
    List Response → List Response → Except InvalidRequestId (List Response)
  | [], slots => .ok slots
  | rp :: rest, slots =>
      match rp.id.tryParseInnerAsNumber with
      | .error e => .error e
      | .ok id =>
          match slotOf start id with
          | none => .error (.notPendingRequest rp.id.toString)
          | some slot =>
              if slot < slots.length then storeResponses start rest (slots.set slot rp)
              else .error (.notPendingRequest rp.id.toString)

/-- Attempts to process a batch response. -/
def processBatchResponse (b : Backend) (rps : List Response) (range : Range) :
    Except InvalidRequestId Unit × Backend :=
  match b.manager.completePendingBatch range with
  | none => (.error (.notPendingRequest range.debug), b)
  | some (batchState, manager) =>
      match storeResponses range.start rps (List.replicate range.size placeholder) with
      | .error e => (.error e, { b with manager })
      | .ok responses =>
          (.ok (), { manager, channels := b.channels.send batchState.sendBack (.batch (.ok responses)) })

/-- Attempts to process a subscription response. Returns the subscription id
    if the subscription should be closed. -/
def processSubscriptionResponse (b : Backend) (response : SubscriptionResponse) :
    Option SubscriptionId × Backend :=
  let subId := response.params.subscription
  match b.manager.getRequestIdBySubscriptionId subId with
  | none => (none, b)
  | some requestId =>
      match b.manager.asSubscription requestId with
      | none => (none, b)
      | some sink =>
          match b.channels.trySend sink response.params.result with
          | (.ok (), channels) => (none, { b with channels })
          | (.error _, channels) => (some subId, { b with channels })

/-- Attempts to close a subscription when a `SubscriptionError` is received;
    `none` when the `expect` panics. -/
def processSubscriptionCloseResponse (b : Backend) (response : SubscriptionError) : Option Backend :=
  let subId := response.params.subscription
  match b.manager.getRequestIdBySubscriptionId subId with
  | none => some b
  | some requestId =>
      match b.manager.removeSubscription requestId subId with
      | none => none
      | some (_, manager) => some { b with manager }

/-- Attempts to process an incoming notification. Absent params are delivered
    as the default raw value, `null`. -/
def processNotification (b : Backend) (notif : PlainNotification) : Backend :=
  match b.manager.asNotificationHandler notif.method with
  | none => b
  | some sink =>
      match b.channels.trySend sink (notif.params.getD .null) with
      | (.ok (), channels) => { b with channels }
      | (.error _, channels) =>
          { manager := b.manager.removeNotificationHandler notif.method, channels }

/-- Builds an unsubscription message. -/
def buildUnsubscribeMessage (m : RequestManager) (subReqId : Id) (subId : SubscriptionId) :
    Option (RequestMessage × RequestManager) :=
  match m.unsubscribe subReqId subId with
  | none => none
  | some ((unsubReqId, _, unsub, subId), m) =>
      let request : Request :=
        { id := unsubReqId, method := unsub, params := some (.arr [subId.toJson]) }
      some ({ raw := request.toJson, id := unsubReqId, sendBack := none }, m)

/-- Process a response from the server. -/
def processSingleResponse (b : Backend) (response : Response) (maxCapacityPerSubscription : Nat) :
    Except InvalidRequestId (Option RequestMessage) × Backend :=
  let responseId := response.id
  match b.manager.requestStatus responseId with
  | .pendingMethodCall =>
      match b.manager.completePendingCall responseId with
      | some (some send, manager) =>
          (.ok none, { manager, channels := b.channels.send send (.call (.ok response)) })
      | some (none, manager) => (.ok none, { b with manager })
      | none => (.error (.notPendingRequest responseId.toString), b)
  | .pendingSubscription =>
      match b.manager.completePendingSubscription responseId with
      | none => (.error (.notPendingRequest responseId.toString), b)
      | some ((unsubId, sendBack, unsubscribeMethod), manager) =>
          match response.trySuccess with
          | .error e =>
              (.ok none, { manager, channels := b.channels.send sendBack (.subscription (.error (.call e))) })
          | .ok json =>
              match SubscriptionId.fromJson json with
              | none =>
                  let e := .parseError "data did not match any variant of untagged enum SubscriptionId"
                  (.ok none, { manager, channels := b.channels.send sendBack (.subscription (.error e)) })
              | some subId =>
                  let (sink, channels) := b.channels.subscriptionChannel maxCapacityPerSubscription
                  match manager.insertSubscription responseId unsubId subId sink unsubscribeMethod with
                  | .error _ =>
                      (.ok none, { manager, channels :=
                        channels.send sendBack (.subscription (.error .invalidSubscriptionId)) })
                  | .ok manager =>
                      let answered := channels.send sendBack (.subscription (.ok (sink, subId)))
                      if channels.isOpen sendBack then (.ok none, { manager, channels := answered })
                      else
                        match buildUnsubscribeMessage manager responseId subId with
                        | none => (.ok none, { manager, channels := answered })
                        | some (unsub, manager) => (.ok (some unsub), { manager, channels := answered })
  | .subscription | .invalid => (.error (.notPendingRequest responseId.toString), b)

/-- The error of a message no deserializer accepts. -/
def unparseError (serde : SerdeJson) (raw : List UInt8) : Error :=
  match serde.fromSlice raw with
  | .ok json => .custom ("Unparseable message: " ++ serde.toString json)
  | .error e => .custom ("Unparseable message: " ++ e)

/-- `u8::is_ascii_whitespace`. -/
def isAsciiWhitespace (byte : UInt8) : Bool :=
  byte = 32 || byte = 9 || byte = 10 || byte = 12 || byte = 13

/-- The loop state while the elements of an array are handled. -/
structure ArrayState where
  backend : Backend
  batch : List Response
  /-- The least and the greatest response id seen. -/
  range : Option Range
  gotNotif : Bool
  messages : List FrontToBack

/-- `get_or_insert(id..id)`, then widen the range to the id. -/
def widen (range : Option Range) (id : UInt64) : Range :=
  let r := range.getD { start := id, stop := id }
  { start := if id < r.start then id else r.start, stop := if id > r.stop then id else r.stop }

/-- The elements of a received array, one after the other. `whole` is the
    value of the entire text: the close notification is looked for there and
    not in the element. -/
def handleElements (serde : SerdeJson) (raw : List UInt8) (whole : Json) :
    List Json → ArrayState → Outcome Unit × ArrayState
  | [], st => (.ok (), st)
  | r :: rest, st =>
      match Response.fromJson r with
      | some response =>
          match response.id.tryParseInnerAsNumber with
          | .error e => (.err (.invalidRequestId e), st)
          | .ok id =>
              handleElements serde raw whole rest
                { st with batch := st.batch ++ [response], range := some (widen st.range id) }
      | none =>
        match SubscriptionResponse.fromJson r with
        | some response =>
            let (closed, backend) := st.backend.processSubscriptionResponse response
            let messages := st.messages ++ (closed.map FrontToBack.subscriptionClosed).toList
            handleElements serde raw whole rest { st with backend, messages, gotNotif := true }
        | none =>
          match SubscriptionError.fromJson whole with
          | some response =>
              match st.backend.processSubscriptionCloseResponse response with
              | none => (.panic .subscriptionMissing, { st with gotNotif := true })
              | some backend =>
                  handleElements serde raw whole rest { st with backend, gotNotif := true }
          | none =>
            match PlainNotification.fromJson r with
            | some notif =>
                let backend := st.backend.processNotification notif
                handleElements serde raw whole rest { st with backend, gotNotif := true }
            | none => (.err (unparseError serde raw), st)

/-- After the loop: the responses, if any, answer one batch. -/
def finishArray (cfg : Config) (st : ArrayState) : Outcome (List FrontToBack) × Backend :=
  match st.range with
  | some range =>
      -- the range is exclusive so need to add one.
      if cfg.overflowChecks ∧ range.stop.toNat + 1 = 2 ^ 64 then (.panic .rangeOverflow, st.backend)
      else
        match st.backend.processBatchResponse st.batch { range with stop := range.stop + 1 } with
        | (.error e, backend) => (.err (.invalidRequestId e), backend)
        | (.ok (), backend) => (.ok st.messages, backend)
  | none =>
      if st.gotNotif then (.ok st.messages, st.backend) else (.err .emptyBatchRequest, st.backend)

/-- A received JSON object: the first of the four shapes that accepts it. -/
def handleObject (serde : SerdeJson) (cfg : Config) (b : Backend) (raw : List UInt8) (json : Json) :
    Outcome (List FrontToBack) × Backend :=
  match Response.fromJson json with
  | some single =>
      match b.processSingleResponse single cfg.maxBufferCapacityPerSubscription with
      | (.error e, backend) => (.err (.invalidRequestId e), backend)
      | (.ok maybeUnsub, backend) => (.ok (maybeUnsub.map FrontToBack.request).toList, backend)
  | none =>
    match SubscriptionResponse.fromJson json with
    | some response =>
        let (closed, backend) := b.processSubscriptionResponse response
        (.ok (closed.map FrontToBack.subscriptionClosed).toList, backend)
    | none =>
      match SubscriptionError.fromJson json with
      | some response =>
          match b.processSubscriptionCloseResponse response with
          | none => (.panic .subscriptionMissing, b)
          | some backend => (.ok [], backend)
      | none =>
        match PlainNotification.fromJson json with
        | some notif => (.ok [], b.processNotification notif)
        | none => (.err (unparseError serde raw), b)

/-- Handle the bytes of one received message. -/
def handleRecvMessage (serde : SerdeJson) (cfg : Config) (b : Backend) (raw : List UInt8) :
    Outcome (List FrontToBack) × Backend :=
  match raw.find? fun byte => !isAsciiWhitespace byte with
  | some 123 =>
      match serde.fromSlice raw with
      | .ok json => handleObject serde cfg b raw json
      | .error _ => (.err (unparseError serde raw), b)
  | some 91 =>
      match serde.fromSlice raw with
      | .ok (.arr rawResponses) =>
          let start : ArrayState :=
            { backend := b, batch := [], range := none, gotNotif := false, messages := [] }
          match handleElements serde raw (.arr rawResponses) rawResponses start with
          | (.ok (), st) => finishArray cfg st
          | (.err e, st) => (.err e, st.backend)
          | (.panic reason, st) => (.panic reason, st.backend)
      | _ => (.err (unparseError serde raw), b)
  | _ => (.err (unparseError serde raw), b)

/-- Handle frontend messages. Returns the frames handed to the transport. -/
def handleFrontendMessages (cfg : Config) (b : Backend) (message : FrontToBack) :
    List Json × Backend :=
  match message with
  | .batch batch =>
      match b.manager.insertPendingBatch batch.ids batch.sendBack with
      | .error sendBack =>
          let e : InvalidRequestId := .occupied batch.ids.debug
          ([], { b with channels := b.channels.send sendBack (.batch (.error e)) })
      | .ok manager => ([batch.raw], { b with manager })
  | .notification notif => ([notif], b)
  | .request request =>
      match b.manager.insertPendingCall request.id request.sendBack with
      | .error (some s) =>
          let e : InvalidRequestId := .occupied request.id.toString
          ([], { b with channels := b.channels.send s (.call (.error e)) })
      | .error none => ([], b)
      | .ok manager => ([request.raw], { b with manager })
  | .subscribe sub =>
      match b.manager.insertPendingSubscription sub.subscribeId sub.unsubscribeId sub.sendBack
          sub.unsubscribeMethod with
      | .error sendBack =>
          let e : InvalidRequestId := .occupied
            ("sub_id=" ++ sub.subscribeId.toString ++ ":req_id=" ++ sub.unsubscribeId.toString)
          ([], { b with channels :=
            b.channels.send sendBack (.subscription (.error (.invalidRequestId e))) })
      | .ok manager => ([sub.raw], { b with manager })
  | .subscriptionClosed subId =>
      match b.manager.getRequestIdBySubscriptionId subId with
      | none => ([], b)
      | some reqId =>
          match buildUnsubscribeMessage b.manager reqId subId with
          | none => ([], b)
          | some (unsub, manager) => ([unsub.raw], { b with manager })
  | .registerNotification reg =>
      let (sink, channels) := b.channels.subscriptionChannel cfg.maxBufferCapacityPerSubscription
      match b.manager.insertNotificationHandler reg.method sink with
      | .ok manager =>
          ([], { manager, channels := channels.send reg.sendBack (.notification (.ok (sink, reg.method))) })
      | .error _ =>
          let e : Error := .registerMethod (.alreadyRegistered reg.method)
          ([], { b with channels := channels.send reg.sendBack (.notification (.error e)) })
  | .unregisterNotification method =>
      ([], { b with manager := b.manager.removeNotificationHandler method })

end Backend

end Jsonrpsee
