import Jsonrpsee.Server.MethodResponse

/-! # The service of a connection

What a message asks for is read off its text; calls are dispatched to the
registered methods, and the entries of a batch run one after the other. `σ` is
whatever the methods read and change, other tasks included.
-/

namespace Jsonrpsee

namespace Server

abbrev ConnectionId := Nat

/-- Callback wrapper. A future is modelled by what it resolves to. -/
inductive MethodCallback (σ : Type) where
  | sync (callback : Id → Option RawValue → Nat → Extensions → σ → MethodResponse × σ)
  | async (callback : Id → Option RawValue → ConnectionId → Nat → Extensions → σ → MethodResponse × σ)
  | subscription (callback : Id → Option RawValue → ConnectionId → Extensions → σ → MethodResponse × σ)
  | unsubscription (callback : Id → Option RawValue → ConnectionId → Nat → Extensions → σ → MethodResponse × σ)

/-- Configuration of the `RpcService`. -/
inductive RpcServiceCfg (σ : Type) where
  /-- The server supports only calls. -/
  | onlyCalls
  /-- The server supports both method calls and subscriptions; a permit is taken
      from the connection's semaphore. -/
  | callsAndSubscriptions (acquire : σ → Option σ) (max : Nat)

structure RpcService (σ : Type) where
  methods : Table String (MethodCallback σ)
  maxResponseBodySize : Nat
  connId : ConnectionId
  cfg : RpcServiceCfg σ

/-! ## Reading a message -/

/-- The derived deserializer. -/
def readRequest (value : Json) : Option Request :=
  match value.fields ["jsonrpc", "id", "method", "params"] with
  | some [some jsonrpc, some id, some method, params] => do
      let _ ← TwoPointZero.fromJson jsonrpc
      let id ← Id.fromJson id
      let method ← method.asStr
      let params ← Json.optionField some params
      some { id, method, params }
  | _ => none

/-- `InvalidRequest`: the id of a malformed request. -/
def readInvalidRequest (value : Json) : Option Id :=
  match value.fields ["id"] with
  | some [some id] => Id.fromJson id
  | _ => none

/-- A batch entry to support both method calls and notifications. -/
inductive BatchEntry where
  | call (req : Request) (extensions : Extensions)
  | notification (n : PlainNotification) (extensions : Extensions)

/-- Error response that can used to indicate an error in a batch request. -/
structure BatchEntryErr where
  id : Id
  err : ErrorObject

/-- One element of a batch. -/
def readEntry (extensions : Extensions) (call : Json) : Except BatchEntryErr BatchEntry :=
  match readRequest call with
  | some req => .ok (.call req extensions)
  | none =>
      match PlainNotification.fromJson call with
      | some notif => .ok (.notification notif extensions)
      | none => .error { id := (readInvalidRequest call).getD .null, err := .ofCode .invalidRequest }

/-- Configuration for batch request handling. -/
inductive BatchRequestConfig where
  | disabled
  /-- Any batch request bigger than `len` will not be processed. -/
  | limit (len : Nat)
  | unlimited
  deriving Repr, DecidableEq

/-- What a message asks for. -/
inductive Incoming where
  | call (req : Request) (extensions : Extensions)
  | notification (n : PlainNotification) (extensions : Extensions)
  | batch (entries : List (Except BatchEntryErr BatchEntry))
  /-- Nothing is run; this is the response. -/
  | refused (rp : MethodResponse)

/-- The id and the error code of a request that could not be read. -/
def prepareError (serde : SerdeJson) (data : List UInt8) : Id × ErrorCode :=
  match serde.fromSlice data with
  | .ok value =>
      match readInvalidRequest value with
      | some id => (id, .invalidRequest)
      | none => (.null, .parseError)
  | .error _ => (.null, .parseError)

/-- The single request or notification of a text. -/
def readSingle (serde : SerdeJson) (body : List UInt8) (extensions : Extensions) : Incoming :=
  let refused :=
    let (id, code) := prepareError serde body
    .refused (.error id (.ofCode code))
  match serde.fromSlice body with
  | .ok value =>
      match readRequest value with
      | some req => .call req extensions
      | none =>
          match PlainNotification.fromJson value with
          | some notif => .notification notif extensions
          | none => refused
  | .error _ => refused

/-- The batch of a text, within the limit on its length. -/
def readBatch (serde : SerdeJson) (body : List UInt8) (maxLen : Option Nat) (extensions : Extensions) : Incoming :=
  match serde.fromSlice body with
  | .ok (.arr uncheckedBatch) =>
      if maxLen.any (uncheckedBatch.length > ·) then
        .refused (.error .null (rejectTooBigBatchRequest (maxLen.getD 0)))
      else .batch (uncheckedBatch.map (readEntry extensions))
  | _ => .refused (.error .null (.ofCode .parseError))

def readMessage (serde : SerdeJson) (body : List UInt8) (isSingle : Bool) (batchConfig : BatchRequestConfig)
    (extensions : Extensions) : Incoming :=
  if isSingle then readSingle serde body extensions
  else
    match batchConfig with
    | .disabled =>
        .refused (.error .null (.borrowed (-32005) "Batched requests are not supported by this server" none))
    | .limit limit => readBatch serde body (some limit) extensions
    | .unlimited => readBatch serde body none extensions

/-! ## Running it -/

namespace RpcService

variable {σ : Type}

def call (service : RpcService σ) (req : Request) (extensions : Extensions) (world : σ) : MethodResponse × σ :=
  let refuse (err : ErrorObject) := ((MethodResponse.error req.id err).withExtensions extensions, world)
  match service.methods.lookup req.method with
  | none => refuse (.ofCode .methodNotFound)
  | some (.async callback) =>
      callback req.id req.params service.connId service.maxResponseBodySize extensions world
  | some (.sync callback) => callback req.id req.params service.maxResponseBodySize extensions world
  | some (.subscription callback) =>
      match service.cfg with
      | .onlyCalls => refuse (.ofCode .internalError)
      | .callsAndSubscriptions acquire max =>
          match acquire world with
          | some world => callback req.id req.params service.connId extensions world
          | none => refuse (rejectTooManySubscriptions max)
  | some (.unsubscription callback) =>
      match service.cfg with
      | .onlyCalls => refuse (.ofCode .internalError)
      | .callsAndSubscriptions _ _ =>
          callback req.id req.params service.connId service.maxResponseBodySize extensions world

def notification (extensions : Extensions) : MethodResponse := MethodResponse.notification.withExtensions extensions

/-- The loop over the entries of a batch. -/
def batchLoop (service : RpcService σ) :
    List (Except BatchEntryErr BatchEntry) → BatchResponseBuilder → Bool → σ → MethodResponse × σ
  | [], batchRp, gotNotification, world =>
      -- If the batch is empty and we got a notification, we return an empty response.
      if batchRp.isEmpty && gotNotification then (.notification, world)
      -- An empty batch is regarded as an invalid request here.
      else (.fromBatch batchRp.finish, world)
  | .ok (.call req extensions) :: rest, batchRp, gotNotification, world =>
      let (rp, world) := service.call req extensions world
      match batchRp.append rp with
      | (.error err, _) => (err, world)
      | (.ok (), batchRp) => service.batchLoop rest batchRp gotNotification world
  | .ok (.notification _ _) :: rest, batchRp, _, world => service.batchLoop rest batchRp true world
  | .error e :: rest, batchRp, gotNotification, world =>
      match batchRp.append (.error e.id e.err) with
      | (.error err, _) => (err, world)
      | (.ok (), batchRp) => service.batchLoop rest batchRp gotNotification world

def batch (service : RpcService σ) (entries : List (Except BatchEntryErr BatchEntry)) (world : σ) :
    MethodResponse × σ :=
  service.batchLoop entries (.newWithLimit service.maxResponseBodySize) false world

end RpcService

def handleRpcCall {σ : Type} (serde : SerdeJson) (body : List UInt8) (isSingle : Bool)
    (batchConfig : BatchRequestConfig) (service : RpcService σ) (extensions : Extensions) (world : σ) :
    MethodResponse × σ :=
  match readMessage serde body isSingle batchConfig extensions with
  | .call req extensions => service.call req extensions world
  | .notification _ extensions => (RpcService.notification extensions, world)
  | .batch entries => service.batch entries world
  | .refused rp => (rp, world)

end Server

end Jsonrpsee
