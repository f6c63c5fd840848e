import Jsonrpsee.Types.Params

/-! # Responses, notifications and requests on the wire -/

namespace Jsonrpsee

/-- JSON-RPC error code. -/
inductive ErrorCode where
  | parseError
  | oversizedRequest
  | invalidRequest
  | methodNotFound
  | serverIsBusy
  | invalidParams
  | internalError
  /-- Reserved for implementation-defined server-errors. -/
  | serverError (code : Int)
  deriving Repr, DecidableEq

/-- `From<i32>`. There is no arm for the busy code. -/
def ErrorCode.ofInt (code : Int) : ErrorCode :=
  if code = -32700 then .parseError
  else if code = -32007 then .oversizedRequest
  else if code = -32600 then .invalidRequest
  else if code = -32601 then .methodNotFound
  else if code = -32602 then .invalidParams
  else if code = -32603 then .internalError
  else .serverError code

/-- Failed JSON-RPC response object. -/
structure ErrorObject where
  code : ErrorCode
  message : String
  data : Option RawValue
  deriving Repr

namespace ErrorObject

def borrowed (code : Int) (message : String) (data : Option RawValue) : ErrorObject :=
  { code := .ofInt code, message, data }

/-- Unknown fields are denied; `data` may be left out of an object. -/
def fromJson (value : Json) : Option ErrorObject :=
  match value.fieldsStrict ["code", "message", "data"] with
  | some [some code, some message, data] => do
      let code ← code.asI32
      let message ← message.asStr
      let data ← Json.optionField some data
      some { code := .ofInt code, message, data }
  | _ => none

end ErrorObject

/-- The payload of a response: the member `result` or the member `error`. -/
inductive ResponsePayload where
  | success (result : RawValue)
  | error (e : ErrorObject)
  deriving Repr

/-- JSON-RPC response object. The client's `RawResponse` wraps it. -/
structure Response where
  jsonrpc : Option TwoPointZero
  payload : ResponsePayload
  id : Id
  deriving Repr

namespace Response

def new (payload : ResponsePayload) (id : Id) : Response :=
  { jsonrpc := some .mk, payload, id }

/-- The hand-written visitor: only objects, each known member at most once,
    unknown members ignored, exactly one of `result` and `error`. -/
def fromJson : Json → Option Response
  | .obj members =>
      if ["jsonrpc", "result", "error", "id"].all
          fun name => (members.filter (·.1 = name)).length ≤ 1 then do
        let jsonrpc ← Json.optionField TwoPointZero.fromJson (members.lookup "jsonrpc")
        let id ← (members.lookup "id").bind Id.fromJson
        match members.lookup "result", members.lookup "error" with
        | some _, some _ => none
        | some result, none => some { jsonrpc, payload := .success result, id }
        | none, some err => do
            let err ← ErrorObject.fromJson err
            some { jsonrpc, payload := .error err, id }
        | none, none => none
      else none
  | _ => none

/-- `Success::try_from`: the result, or the error object. -/
def trySuccess (rp : Response) : Except ErrorObject RawValue :=
  match rp.payload with
  | .error e => .error e
  | .success result => .ok result

end Response

/-- JSON-RPC notification. -/
structure Notification (τ : Type) where
  method : String
  params : τ
  deriving Repr

namespace Notification

/-- The derived deserializer, with the reading of the `params` field. -/
def fromJson {τ : Type} (readParams : Option Json → Option τ) (value : Json) :
    Option (Notification τ) :=
  match value.fields ["jsonrpc", "method", "params"] with
  | some [some jsonrpc, some method, params] => do
      let _ ← TwoPointZero.fromJson jsonrpc
      let method ← method.asStr
      let params ← readParams params
      some { method, params }
  | _ => none

/-- A notification of the client. Absent params are written as `null`. -/
def toJson (notif : Notification (Option RawValue)) : Json :=
  .obj [("jsonrpc", .str "2.0"), ("method", .str notif.method), ("params", notif.params.getD .null)]

end Notification

/-- A plain incoming notification. -/
abbrev PlainNotification := Notification (Option RawValue)

def PlainNotification.fromJson : Json → Option PlainNotification :=
  Notification.fromJson (Json.optionField some)

/-- Return value for subscriptions. -/
structure SubscriptionPayload where
  subscription : SubscriptionId
  result : RawValue
  deriving Repr

def SubscriptionPayload.fromJson (value : Json) : Option SubscriptionPayload :=
  match value.fields ["subscription", "result"] with
  | some [some subscription, some result] =>
      (SubscriptionId.fromJson subscription).map fun subscription => { subscription, result }
  | _ => none

/-- Error value for subscriptions. -/
structure SubscriptionPayloadError where
  subscription : SubscriptionId
  error : RawValue
  deriving Repr

def SubscriptionPayloadError.fromJson (value : Json) : Option SubscriptionPayloadError :=
  match value.fields ["subscription", "error"] with
  | some [some subscription, some error] =>
      (SubscriptionId.fromJson subscription).map fun subscription => { subscription, error }
  | _ => none

/-- Subscription notification: the `params` member holds a `SubscriptionPayload`. -/
abbrev SubscriptionResponse := Notification SubscriptionPayload

def SubscriptionResponse.fromJson : Json → Option SubscriptionResponse :=
  Notification.fromJson fun params => params.bind SubscriptionPayload.fromJson

/-- Subscription close notification. -/
abbrev SubscriptionError := Notification SubscriptionPayloadError

def SubscriptionError.fromJson : Json → Option SubscriptionError :=
  Notification.fromJson fun params => params.bind SubscriptionPayloadError.fromJson

/-- JSON-RPC request object. -/
structure Request where
  id : Id
  method : String
  params : Option RawValue
  deriving Repr

/-- The derived serializer. Absent params are skipped. -/
def Request.toJson (req : Request) : Json :=
  .obj ([("jsonrpc", .str "2.0"), ("id", req.id.toJson), ("method", .str req.method)] ++
    (req.params.map fun params => ("params", params)).toList)

end Jsonrpsee
