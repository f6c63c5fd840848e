import Jsonrpsee.Client.Channel

/-! # The request manager

Handles and monitors JSON-RPC v2 method calls and subscriptions. The table
`requests` holds three kinds of entries under request ids: pending calls, of
which one without a oneshot is a reserved slot, pending subscriptions and
active subscriptions. `subscriptions` is the reverse lookup from the id the
server chose.
-/

namespace Jsonrpsee

inductive Kind where
  | pendingMethodCall (sendBack : Option OneshotId)
  | pendingSubscription (unsubReqId : Id) (sendBack : OneshotId) (unsubscribeMethod : String)
  | subscription (unsubReqId : Id) (sink : SinkId) (unsubscribeMethod : String)
  deriving Repr, DecidableEq

/-- Indicates the status of a given request/response. -/
inductive RequestStatus where
  | pendingMethodCall
  | pendingSubscription
  | subscription
  | invalid
  deriving Repr, DecidableEq

/-- Batch state. -/
structure BatchState where
  sendBack : OneshotId
  deriving Repr, DecidableEq

structure RequestManager where
  /-- List of requests that are waiting for a response from the server. -/
  requests : Table Id Kind
  /-- Reverse lookup, to find a request ID by subscription ID. -/
  subscriptions : Table SubscriptionId Id
  /-- Pending batch requests. -/
  batches : Table Range BatchState
  /-- Registered Methods for incoming notifications. -/
  notificationHandlers : Table String SinkId

namespace RequestManager

def new : RequestManager :=
  { requests := ∅, subscriptions := ∅, batches := ∅, notificationHandlers := ∅ }

/-- Tries to insert a new pending request. -/
def insertPendingCall (m : RequestManager) (id : Id) (sendBack : Option OneshotId) :
    Except (Option OneshotId) RequestManager :=
  match m.requests.lookup id with
  | none => .ok { m with requests := m.requests.insert id (.pendingMethodCall sendBack) }
  | some _ => .error sendBack

/-- Tries to insert a new batch request. -/
def insertPendingBatch (m : RequestManager) (batch : Range) (sendBack : OneshotId) :
    Except OneshotId RequestManager :=
  match m.batches.lookup batch with
  | none => .ok { m with batches := m.batches.insert batch { sendBack } }
  | some _ => .error sendBack

/-- Tries to insert a new pending subscription and reserves a slot for a
    "potential" unsubscription request. -/
def insertPendingSubscription (m : RequestManager) (subReqId unsubReqId : Id)
    (sendBack : OneshotId) (unsubscribeMethod : String) : Except OneshotId RequestManager :=
  if m.requests.lookup subReqId = none ∧ m.requests.lookup unsubReqId = none ∧
      subReqId ≠ unsubReqId then
    let pending := m.requests.insert subReqId (.pendingSubscription unsubReqId sendBack unsubscribeMethod)
    .ok { m with requests := pending.insert unsubReqId (.pendingMethodCall none) }
  else .error sendBack

/-- Tries to insert a new subscription. -/
def insertSubscription (m : RequestManager) (subReqId unsubReqId : Id)
    (subscriptionId : SubscriptionId) (sendBack : SinkId) (unsubscribeMethod : String) :
    Except SinkId RequestManager :=
  match m.requests.lookup subReqId, m.subscriptions.lookup subscriptionId with
  | none, none =>
      .ok { m with
        requests := m.requests.insert subReqId (.subscription unsubReqId sendBack unsubscribeMethod)
        subscriptions := m.subscriptions.insert subscriptionId subReqId }
  | _, _ => .error sendBack

/-- Inserts a handler for incoming notifications. -/
def insertNotificationHandler (m : RequestManager) (method : String) (sendBack : SinkId) :
    Except RegisterMethodError RequestManager :=
  match m.notificationHandlers.lookup method with
  | none => .ok { m with notificationHandlers := m.notificationHandlers.insert method sendBack }
  | some _ => .error (.alreadyRegistered method)

/-- Removes a notification handler. -/
def removeNotificationHandler (m : RequestManager) (method : String) : RequestManager :=
  { m with notificationHandlers := m.notificationHandlers.erase method }

/-- Tries to complete a pending subscription. -/
def completePendingSubscription (m : RequestManager) (requestId : Id) :
    Option ((Id × OneshotId × String) × RequestManager) :=
  match m.requests.lookup requestId with
  | some (.pendingSubscription unsubReqId sendBack unsubscribeMethod) =>
      some ((unsubReqId, sendBack, unsubscribeMethod),
        { m with requests := m.requests.erase requestId })
  | _ => none

/-- Tries to complete a pending batch request. -/
def completePendingBatch (m : RequestManager) (batch : Range) : Option (BatchState × RequestManager) :=
  match m.batches.lookup batch with
  | some state => some (state, { m with batches := m.batches.erase batch })
  | none => none

/-- Tries to complete a pending call. -/
def completePendingCall (m : RequestManager) (requestId : Id) :
    Option (Option OneshotId × RequestManager) :=
  match m.requests.lookup requestId with
  | some (.pendingMethodCall sendBack) =>
      some (sendBack, { m with requests := m.requests.erase requestId })
  | _ => none

/-- Removes the subscription without waiting for the unsubscribe call. -/
def removeSubscription (m : RequestManager) (requestId : Id) (subscriptionId : SubscriptionId) :
    Option ((Id × SinkId × String × SubscriptionId) × RequestManager) :=
  match m.requests.lookup requestId, m.subscriptions.lookup subscriptionId with
  | some (.subscription unsubReqId sendBack unsub), some _ =>
      some ((unsubReqId, sendBack, unsub, subscriptionId),
        { m with
          requests := m.requests.erase requestId
          subscriptions := m.subscriptions.erase subscriptionId })
  | _, _ => none

/-- Initiates an unsubscribe which is not completed until the unsubscribe call
    has been acknowledged. -/
def unsubscribe (m : RequestManager) (requestId : Id) (subscriptionId : SubscriptionId) :
    Option ((Id × SinkId × String × SubscriptionId) × RequestManager) :=
  match m.requests.lookup requestId, m.subscriptions.lookup subscriptionId with
  | some (.subscription unsubReqId sendBack unsub), some _ =>
      -- The subscribe id becomes a slot without a oneshot; the acknowledgement
      -- will carry the unsubscribe id.
      some ((unsubReqId, sendBack, unsub, subscriptionId),
        { m with
          requests := m.requests.insert requestId (.pendingMethodCall none)
          subscriptions := m.subscriptions.erase subscriptionId })
  | _, _ => none

/-- Returns the status of a request ID. -/
def requestStatus (m : RequestManager) (id : Id) : RequestStatus :=
  match m.requests.lookup id with
  | none => .invalid
  | some (.pendingMethodCall _) => .pendingMethodCall
  | some (.pendingSubscription _ _ _) => .pendingSubscription
  | some (.subscription _ _ _) => .subscription

/-- The sink of an active subscription. -/
def asSubscription (m : RequestManager) (requestId : Id) : Option SinkId :=
  match m.requests.lookup requestId with
  | some (.subscription _ sink _) => some sink
  | _ => none

/-- The sink of a notification handler. -/
def asNotificationHandler (m : RequestManager) (method : String) : Option SinkId :=
  m.notificationHandlers.lookup method

/-- Reverse lookup to get the request ID for a subscription ID. -/
def getRequestIdBySubscriptionId (m : RequestManager) (subId : SubscriptionId) : Option Id :=
  m.subscriptions.lookup subId

/-! Removing a handler touches one table only. -/

section Remove

variable (m : RequestManager) (method : String)

@[simp, grind =] theorem removeNotificationHandler_requests :
    (m.removeNotificationHandler method).requests = m.requests := rfl

@[simp, grind =] theorem removeNotificationHandler_subscriptions :
    (m.removeNotificationHandler method).subscriptions = m.subscriptions := rfl

@[simp, grind =] theorem removeNotificationHandler_batches :
    (m.removeNotificationHandler method).batches = m.batches := rfl

@[simp, grind =] theorem removeNotificationHandler_handlers :
    (m.removeNotificationHandler method).notificationHandlers = m.notificationHandlers.erase method := rfl

end Remove

end RequestManager

end Jsonrpsee
