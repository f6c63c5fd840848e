import Jsonrpsee.Duplex.Reading
import Jsonrpsee.Http.BatchRequest
import Jsonrpsee.Server.HttpHelpers
import Jsonrpsee.Transport.Headers
import Jsonrpsee.Types.Equality

/-! # A client of a server over HTTP

Every call and every batch is an exchange of its own: a body goes up, is read within
the limit of the server, and what comes back is read within the limit of the client.
The HTTP implementations in between decide how the bodies are cut into frames, and
whether a header announces their lengths.
-/

namespace Jsonrpsee

variable {ρ σ : Type}

/-- The text of an error. That of a stream is the one of `Limited`, which a body over
    the limit gets. -/
def Server.HttpError.text : Server.HttpError → String
  | .tooLarge => "The HTTP message was too big"
  | .malformed => "Malformed request"
  | .stream => "length limit exceeded"

namespace Transport

def HttpTransportError.text : HttpTransportError → String
  | .url text => "Invalid Url: " ++ String.ofList text
  | .http e => e
  | .rejected statusCode => "Request rejected `" ++ Nat.repr statusCode.toNat ++ "`"
  | .requestTooLarge => "The request body was too large"

/-- What the client uses of a response. -/
structure Response where
  status : UInt16
  /-- The header, when it is given once and fits a `u32`. -/
  contentLength : Option Nat
  body : List Server.Frame

/-- The end of `inner_send`, and what `send_and_read_body` makes of the response. -/
def Response.read (maxResponseSize : Nat) (response : Response) : Except HttpTransportError (List UInt8) :=
  if 200 ≤ response.status ∧ response.status < 300 then
    match Server.readBody response.contentLength response.body maxResponseSize with
    | .error e => .error (.http e.text)
    | .ok (body, _) => .ok body
  else .error (.rejected response.status)

/-- Send serialized message and wait until all bytes from the HTTP message body have
    been read; `respond` is the HTTP client. -/
def HttpTransportClient.sendAndReadBody (client : HttpTransportClient) (maxResponseSize : Nat)
    (respond : Request → σ → Except HttpTransportError Response × σ) (body : String) (world : σ) :
    Except HttpTransportError (List UInt8) × σ :=
  match client.request body with
  | .error e => (.error e, world)
  | .ok req =>
      let (response, world) := respond req world
      (response.bind (Response.read maxResponseSize), world)

end Transport

namespace HttpClient

/-- How the service of the client gets a body answered. -/
abbrev Post (σ : Type) := String → σ → Except Transport.HttpTransportError (List UInt8) × σ

/-- `RpcService::call`. -/
def call (serde : SerdeJson) (post : Post σ) (req : Request) (world : σ) : Except Error Response × σ :=
  let (bytes, world) := post req.toJson.render world
  let rp : Except Error Response :=
    match bytes with
    | .error e => .error (.transport e.text)
    | .ok bytes =>
        match serde.fromSlice bytes with
        | .error e => .error (.parseError e)
        | .ok value =>
            match Response.fromJson value with
            | some rp => .ok rp
            | none => .error (.parseError "invalid response")
  (rp, world)

/-- `RpcService::batch`. -/
def batch (serde : SerdeJson) (post : Post σ) (reqs : List Request) (world : σ) :
    Except Error (List Response) × σ :=
  let (bytes, world) := post (Json.arr (reqs.map Request.toJson)).render world
  let rps : Except Error (List Response) :=
    match bytes with
    | .error e => .error (.transport e.text)
    | .ok bytes => serviceBatch serde bytes
  (rps, world)

/-- `request`: the result is decoded before the id is looked at. -/
def request (service : Request → Except Error Response) (decode : RawValue → Except String ρ)
    (ids : RequestIdManager) (method : String) (params : Option RawValue) : Except Error ρ :=
  let (id, _) := ids.nextRequestId
  match service { id, method, params } with
  | .error e => .error e
  | .ok rp =>
      match rp.trySuccess with
      | .error err => .error (.call err)
      | .ok val =>
          match decode val with
          | .error e => .error (.parseError e)
          | .ok result =>
              if rp.id = id then .ok result
              else .error (.invalidRequestId (.notPendingRequest rp.id.toString))

end HttpClient

/-! ## What is between the two -/

/-- A body, as the receiving side gets it. -/
structure Sent where
  contentLength : Option Nat
  body : List Server.Frame

namespace Sent

/-- The body arrives whole. Its length may be announced, and no empty frame comes first. -/
structure Carries (sent : Sent) (text : String) : Prop where
  readable : Server.Frame.Readable sent.body
  payload : Server.Frame.payload sent.body = text.toByteArray.data.toList
  announced : ∀ length ∈ sent.contentLength, length = text.utf8ByteSize
  started : ∀ data ∈ (Server.Frame.dataFrames sent.body).head?, data ≠ []

/-- The error of a body over the limit. -/
def overflow (sent : Sent) : Server.HttpError := if sent.contentLength.isSome then .tooLarge else .stream

end Sent

/-- A client and a server, with the HTTP implementations between them. Responses come before
    the `request_timeout` of the client. -/
structure HttpLink (σ : Type) where
  serde : SerdeJson
  client : Transport.HttpTransportClient
  maxResponseSize : Nat
  /-- What becomes of a body on its way to the server, and on its way back. -/
  up : String → Sent
  down : String → Sent
  service : Server.RpcService σ
  batchRequestsConfig : Server.BatchRequestConfig
  maxRequestSize : Nat
  extensions : Server.Extensions

namespace HttpLink

/-- The header of a request, as the server gets it. -/
def contentType (headers : Transport.HeaderMap) : Option String :=
  (headers.getAll Transport.contentType).head?.bind Server.HeaderValue.toStr

/-- The server answers a request. -/
def respond (link : HttpLink σ) (req : Transport.Request) (world : σ) :
    Except Transport.HttpTransportError Transport.Response × σ :=
  let sent := link.up req.body
  let request : Server.HttpRequest :=
    { isPost := true
      contentType := contentType req.headers
      contentLength := sent.contentLength
      body := sent.body
      extensions := link.extensions }
  let (rp, world) :=
    Server.callWithService link.serde request link.batchRequestsConfig link.maxRequestSize link.service world
  let sent := link.down rp.body
  (.ok { status := UInt16.ofNat rp.status, contentLength := sent.contentLength, body := sent.body }, world)

def post (link : HttpLink σ) : HttpClient.Post σ := link.client.sendAndReadBody link.maxResponseSize link.respond

/-- The request of a call. -/
def requestOf (ids : RequestIdManager) (method : String) (params : Option RawValue) : Request :=
  { id := ids.nextRequestId.1, method, params }

/-- A call: what `request` returns, and what becomes of the world of the methods. -/
def request (link : HttpLink σ) (decode : RawValue → Except String ρ) (ids : RequestIdManager) (method : String)
    (params : Option RawValue) (world : σ) : Except Error ρ × σ :=
  let call (req : Request) := HttpClient.call link.serde link.post req world
  (HttpClient.request (fun req => (call req).1) decode ids method params, (call (requestOf ids method params)).2)

/-- What `batch_request` returns. -/
def batchRequest (link : HttpLink σ) (decode : RawValue → Except String ρ) (ids : RequestIdManager)
    (batch : List (String × Option RawValue)) (world : σ) : Except Error (BatchResponse ρ) :=
  HttpClient.batchRequest (fun reqs => (HttpClient.batch link.serde link.post reqs world).1) decode ids batch

/-- Why a body does not get to the methods. -/
def refusal (link : HttpLink σ) (text : String) : Option Transport.HttpTransportError :=
  if text.utf8ByteSize > link.client.maxRequestSize.toNat then some .requestTooLarge
  else if text.utf8ByteSize > link.maxRequestSize then
    some (.rejected (if (link.up text).contentLength.isSome then 413 else 500))
  else none

/-- Why a response does not get to the caller. -/
def loss (link : HttpLink σ) (text : String) : Option Transport.HttpTransportError :=
  if text.utf8ByteSize > link.maxResponseSize then some (.http (link.down text).overflow.text) else none

end HttpLink

/-! ## The methods over HTTP -/

namespace Server

/-- The callbacks of the registrations, with handlers whose errors come from public
    constructors. -/
inductive MethodCallback.Built : MethodCallback σ → Prop
  | method {callback : Handler σ Result}
      (built : ∀ params extensions world, (callback params extensions world).1.Built) : Built (.ofMethod callback)
  | asyncMethod {callback : Handler σ Result}
      (built : ∀ params extensions world, (callback params extensions world).1.Built) :
      Built (.ofAsyncMethod callback)
  | blockingMethod {callback : Handler σ (Option Result)}
      (built : ∀ params extensions world, ∀ rp ∈ (callback params extensions world).1, rp.Built) :
      Built (.ofBlockingMethod callback)
  | subscription (notif : String) (conn : SubscriptionState σ) (callback : SubscriptionHandler σ) :
      Built (.ofSubscription notif conn callback)
  | unsubscribe (remove : SubscriptionKey → σ → Bool × σ) : Built (.ofUnsubscribe remove)

/-- The service that a request over HTTP gets. -/
structure RpcService.OverHttp (service : RpcService σ) : Prop where
  cfg : service.cfg = .onlyCalls
  built : ∀ {name callback}, service.methods.lookup name = some callback → callback.Built

/-- The text is that of a response to a call. Only an error may have lost the id. -/
structure MethodResponse.Answers (rp : MethodResponse) (id : Id) (r : Response) : Prop where
  built : r.Built
  json : rp.json = .ofJson r.toJson
  id : r.id = id ∨ r.id = .null ∧ ∃ e, r.payload = .error e

theorem MethodResponse.answers_error (id : Id) {err : ErrorObject} (built : err.Built) (extensions : Extensions) :
    ∃ r, ((MethodResponse.error id err).withExtensions extensions).Answers id r := by
  refine ⟨.new (.error err) id, ?_, rfl, .inl rfl⟩
  rintro e ⟨⟩
  exact built

theorem MethodResponse.answers_response (id : Id) {result : Result} (built : result.Built) (limit : Nat)
    (extensions : Extensions) :
    ∃ r, ((MethodResponse.response id result limit).withExtensions extensions).Answers id r := by
  obtain ⟨r, formed, json⟩ := MethodResponse.formed_response id built limit
  have replies : (MethodResponse.response id result limit).Replies id := MethodResponse.replies_response ..
  unfold MethodResponse.Replies at replies
  rw [json] at replies
  exact ⟨r, formed, json, .inl (Option.some.inj ((responseId_response r).symm.trans replies))⟩

/-- Whatever a method does, a call gets a response object. -/
theorem RpcService.OverHttp.answers {service : RpcService σ} (plain : service.OverHttp) (req : Request)
    (extensions : Extensions) (world : σ) : ∃ r, (service.call req extensions world).1.Answers req.id r := by
  cases found : service.methods.lookup req.method with
  | none =>
      simp only [RpcService.call, found]
      exact MethodResponse.answers_error req.id (.ofCode .methodNotFound ⟨by decide, by decide⟩) extensions
  | some callback =>
      cases plain.built found with
      | @method callback built =>
          simp only [RpcService.call, found, MethodCallback.ofMethod]
          exact MethodResponse.answers_response req.id (built _ _ _) _ extensions
      | @asyncMethod callback built =>
          simp only [RpcService.call, found, MethodCallback.ofAsyncMethod]
          exact MethodResponse.answers_response req.id (built _ _ _) _ extensions
      | @blockingMethod callback built =>
          simp only [RpcService.call, found, MethodCallback.ofBlockingMethod]
          cases ran : callback req.params extensions world with
          | mk rp after =>
              cases rp with
              | some rp =>
                  have given := built req.params extensions world rp (by rw [ran]; rfl)
                  exact MethodResponse.answers_response req.id given _ extensions
              | none =>
                  -- The id went along with the task of the method.
                  refine ⟨.new (.error (.ofCode .internalError)) .null, ?_, rfl, .inr ⟨rfl, _, rfl⟩⟩
                  rintro e ⟨⟩
                  exact .ofCode _ ⟨by decide, by decide⟩
      | subscription | unsubscribe =>
          simp only [RpcService.call, found, MethodCallback.ofSubscription, MethodCallback.ofUnsubscribe, plain.cfg]
          exact MethodResponse.answers_error req.id (.ofCode .internalError ⟨by decide, by decide⟩) extensions

end Server

/-! ## How a body arrives -/

/-- The first byte of a message. -/
def firstByte (isSingle : Bool) : UInt8 := if isSingle then 123 else 91

theorem messageStart_cons (isSingle : Bool) (rest : List UInt8) :
    Server.messageStart (firstByte isSingle :: rest) = some (isSingle, 0) := by
  cases isSingle <;> rfl

namespace Sent.Carries

variable {sent : Sent} {text : String} {isSingle : Bool} {rest : List UInt8}

theorem length_payload (carries : sent.Carries text) :
    (Server.Frame.payload sent.body).length = text.utf8ByteSize := by
  rw [carries.payload, Array.length_toList]
  rfl

/-- The first frame shows what the text starts with. -/
theorem not_turnedAway (carries : sent.Carries text)
    (starts : text.toByteArray.data.toList = firstByte isSingle :: rest) (maxBodySize : Nat) :
    ¬ Server.TurnedAway maxBodySize sent.body := by
  intro turned
  have payload := carries.payload
  rw [starts, Server.Frame.payload] at payload
  cases frames : Server.Frame.dataFrames sent.body with
  | nil =>
      rw [frames] at payload
      cases payload
  | cons data later =>
      have first : data ∈ (Server.Frame.dataFrames sent.body).head? := by rw [frames]; rfl
      cases data with
      | nil => exact carries.started [] first rfl
      | cons byte bytes =>
          rw [frames, List.flatten_cons, List.cons_append] at payload
          obtain ⟨rfl, -⟩ := List.cons.inj payload
          have announced := (turned _ first).2
          rw [messageStart_cons] at announced
          cases announced

/-- A message is read whole, unless it is over the limit. -/
theorem readBody (carries : sent.Carries text) (starts : text.toByteArray.data.toList = firstByte isSingle :: rest)
    (maxBodySize : Nat) :
    Server.readBody sent.contentLength sent.body maxBodySize =
      if text.utf8ByteSize > maxBodySize then .error sent.overflow
      else .ok (text.toByteArray.data.toList, isSingle) := by
  have kept := carries.not_turnedAway starts maxBodySize
  have length := carries.length_payload
  have read := Server.readFrames_eq carries.readable maxBodySize
  rw [carries.payload, starts] at read length
  simp only [kept, false_and, not_false_eq_true, true_and, false_or, length, messageStart_cons, Option.some.injEq,
    exists_eq_left', List.drop_zero] at read
  rw [Server.readBody, starts]
  cases header : sent.contentLength with
  | none =>
      have silent : sent.overflow = .stream := by rw [overflow, header]; rfl
      rw [Option.getD_none, if_neg (Nat.not_lt_zero maxBodySize), silent]
      rcases read with ⟨large, read⟩ | ⟨small, read⟩
      · rw [read, if_pos large]
      · rw [read, if_neg (Nat.not_lt.mpr small)]
  | some n =>
      obtain rfl := carries.announced n header
      have loud : sent.overflow = .tooLarge := by rw [overflow, header]; rfl
      rw [Option.getD_some, loud]
      split
      · rfl
      · rcases read with ⟨large, -⟩ | ⟨small, read⟩
        · exact absurd large ‹_›
        · exact read

end Sent.Carries

namespace HttpLink

variable {link : HttpLink σ} {text : String} {isSingle : Bool} {rest : List UInt8}

/-- A response that arrives is read to its end. -/
theorem read_response (carries : (link.down text).Carries text)
    (starts : text.toByteArray.data.toList = firstByte isSingle :: rest) :
    Transport.Response.read link.maxResponseSize
        { status := 200, contentLength := (link.down text).contentLength, body := (link.down text).body } =
      match link.loss text with
      | some e => .error e
      | none => .ok text.toByteArray.data.toList := by
  have success : (200 : UInt16) ≤ 200 ∧ (200 : UInt16) < 300 := by decide
  rw [Transport.Response.read, if_pos success, carries.readBody starts, loss]
  by_cases large : text.utf8ByteSize > link.maxResponseSize
  · simp only [large, if_true]
  · simp only [large, if_false]

/-- The content type that the client puts on every request is one that the server takes: its
    own, unless a custom header replaces it. -/
def SpeaksJson (link : HttpLink σ) : Prop := Server.isJson (contentType link.client.headers) = true

/-- What the server makes of a message that it has read. -/
def handled (link : HttpLink σ) (text : String) (isSingle : Bool) (world : σ) : Server.MethodResponse × σ :=
  Server.handleRpcCall link.serde text.toByteArray.data.toList isSingle link.batchRequestsConfig link.service
    link.extensions world

/-- A message gets to the methods, and their response to the caller, within the limits. -/
theorem post_eq (json : link.SpeaksJson) (carries : (link.up text).Carries text)
    (starts : text.toByteArray.data.toList = firstByte isSingle :: rest) (world : σ) :
    link.post text world =
      match link.refusal text with
      | some e => (.error e, world)
      | none =>
          let (rp, world) := link.handled text isSingle world
          (Transport.Response.read link.maxResponseSize
            { status := 200
              contentLength := (link.down rp.json.text).contentLength
              body := (link.down rp.json.text).body }, world) := by
  unfold post Transport.HttpTransportClient.sendAndReadBody Transport.HttpTransportClient.request refusal
  by_cases tooLarge : text.utf8ByteSize > link.client.maxRequestSize.toNat
  · simp only [tooLarge, if_true]
  · have read := carries.readBody starts link.maxRequestSize
    have json : Server.isJson (contentType link.client.headers) = true := json
    simp only [tooLarge, if_false, respond, Server.callWithService, json, if_true, read]
    by_cases large : text.utf8ByteSize > link.maxRequestSize
    · simp only [large, if_true]
      cases announced : (link.up text).contentLength with
      | none =>
          rw [Sent.overflow, announced]
          rfl
      | some n =>
          rw [Sent.overflow, announced]
          rfl
    · simp only [large, if_false, handled]
      rfl

/-- A client and a server that speak JSON, on HTTP implementations that deliver bodies
    whole. -/
structure Ready (link : HttpLink σ) : Prop where
  json : link.SpeaksJson
  plain : link.service.OverHttp
  up : ∀ text, (link.up text).Carries text
  down : ∀ text, (link.down text).Carries text

/-! ## Calls -/

/-- What the caller is told, given the response of the method. -/
def told (link : HttpLink σ) (decode : RawValue → Except String ρ) (r : Response) : Except Error ρ :=
  match link.loss r.toJson.render, r.payload with
  | some e, _ => .error (.transport e.text)
  | none, .error e => .error (.call e.reread)
  | none, .success result => (decode result).mapError .parseError

variable {req : Request} {world : σ}

theorem handled_request (reads : link.serde.fromSlice req.toJson.bytes = .ok req.toJson) (world : σ) :
    link.handled req.toJson.render true world = link.service.call req.received link.extensions world := by
  unfold Json.bytes at reads
  rw [handled, Server.handleRpcCall, Server.readMessage_single reads, readRequest_received]

/-- The service of the client resolves to the response of the method. -/
theorem call_eq (ready : link.Ready) (reads : link.serde.fromSlice req.toJson.bytes = .ok req.toJson) {r : Response}
    (answers : (link.service.call req.received link.extensions world).1.Answers req.id r)
    (readsBack : link.serde.fromSlice r.toJson.bytes = .ok r.toJson) :
    HttpClient.call link.serde link.post req world =
      match link.refusal req.toJson.render with
      | some e => (.error (.transport e.text), world)
      | none =>
          (match link.loss r.toJson.render with
            | some e => .error (.transport e.text)
            | none => .ok r.reread,
            (link.service.call req.received link.extensions world).2) := by
  obtain ⟨_, starts⟩ : ∃ rest, req.toJson.render.toByteArray.data.toList = firstByte true :: rest :=
    Json.bytes_obj _
  obtain ⟨_, startsBack⟩ : ∃ rest, r.toJson.render.toByteArray.data.toList = firstByte true :: rest :=
    Json.bytes_obj _
  rw [HttpClient.call, post_eq ready.json (ready.up _) starts, handled_request reads]
  cases link.refusal req.toJson.render with
  | some e => rfl
  | none =>
      have text : (link.service.call req.received link.extensions world).1.json.text = r.toJson.render := by
        rw [answers.json]
        rfl
      have read : Response.fromJson r.toJson = some r.reread := Response.fromJson_toJson answers.built
      unfold Json.bytes at readsBack
      dsimp only
      rw [text, read_response (ready.down _) startsBack]
      cases link.loss r.toJson.render with
      | some e => rfl
      | none => simp only [readsBack, read]

theorem request_failed {service : Request → Except Error Response} {decode : RawValue → Except String ρ}
    {ids : RequestIdManager} {method : String} {params : Option RawValue} {e : Error}
    (failed : service (requestOf ids method params) = .error e) :
    HttpClient.request service decode ids method params = .error e := by
  unfold requestOf at failed
  simp only [HttpClient.request, failed]

/-- The id has no say in what a response is taken for. -/
theorem request_answered {service : Request → Except Error Response} {decode : RawValue → Except String ρ}
    {ids : RequestIdManager} {method : String} {params : Option RawValue} {r : Response}
    (answered : service (requestOf ids method params) = .ok r.reread)
    (id : r.id = (requestOf ids method params).id ∨ r.id = .null ∧ ∃ e, r.payload = .error e) :
    HttpClient.request service decode ids method params =
      match r.payload with
      | .error e => .error (.call e.reread)
      | .success result => (decode result).mapError .parseError := by
  unfold requestOf at answered id
  simp only [HttpClient.request, answered, Response.reread, Response.trySuccess]
  cases payload : r.payload with
  | error e => rfl
  | success result =>
      have own : r.id = ids.nextRequestId.1 := by simpa [payload] using id
      cases decoded : decode result with
      | error e => simp only [ResponsePayload.reread, decoded, Except.mapError]
      | ok value => simp only [ResponsePayload.reread, decoded, own, if_true, Except.mapError]

/-- Within the limits of both sides a call runs its method once and is told what the
    method has answered, under whatever id its client has drawn. A body over a limit
    is reported as such, and only one that is over the limit of the response has run
    the method. -/
theorem request_over_http (ready : link.Ready) (decode : RawValue → Except String ρ) (ids : RequestIdManager)
    (method : String) (params : Option RawValue) (world : σ)
    (reads : link.serde.fromSlice (requestOf ids method params).toJson.bytes = .ok (requestOf ids method params).toJson)
    (readsBack :
      let rp := (link.service.call (requestOf ids method params).received link.extensions world).1
      link.serde.fromSlice rp.json.bytes = .ok rp.json.value) :
    ∃ r, (link.service.call (requestOf ids method params).received link.extensions world).1.Answers
          (requestOf ids method params).id r ∧
      link.request decode ids method params world =
        match link.refusal (requestOf ids method params).toJson.render with
        | some e => (.error (.transport e.text), world)
        | none =>
            (link.told decode r,
              (link.service.call (requestOf ids method params).received link.extensions world).2) := by
  obtain ⟨r, answers⟩ := ready.plain.answers (requestOf ids method params).received link.extensions world
  rw [Request.received_id] at answers
  refine ⟨r, answers, ?_⟩
  have text : link.serde.fromSlice r.toJson.bytes = .ok r.toJson := by
    dsimp only at readsBack
    rw [answers.json] at readsBack
    exact readsBack
  have called := call_eq ready reads answers text
  rw [request]
  dsimp only
  cases refused : link.refusal (requestOf ids method params).toJson.render with
  | some e =>
      rw [refused] at called
      rw [request_failed (congrArg Prod.fst called), called]
  | none =>
      rw [refused] at called
      dsimp only at called ⊢
      unfold told
      cases lost : link.loss r.toJson.render with
      | some e =>
          rw [lost] at called
          rw [request_failed (congrArg Prod.fst called), called]
      | none =>
          rw [lost] at called
          rw [request_answered (congrArg Prod.fst called) answers.id, called]
          cases r.payload <;> rfl

/-- A text in one frame, with its length. -/
def whole (text : String) : Sent :=
  let bytes := text.toByteArray.data.toList
  { contentLength := some text.utf8ByteSize, body := if bytes = [] then [] else [.data bytes] }

theorem whole_carries (text : String) : (whole text).Carries text := by
  by_cases empty : text.toByteArray.data.toList = []
  · constructor <;> simp [whole, empty, Server.Frame.Readable, Server.Frame.payload, Server.Frame.dataFrames]
  · constructor <;>
      simp [whole, empty, Server.Frame.Readable, Server.Frame.payload, Server.Frame.dataFrames, Server.Frame.data?]

/-- A client of a server that has one method, with a reader of some texts. -/
def sumLink (texts : List Json) : HttpLink Unit :=
  { serde :=
      { fromSlice := fun raw =>
          match texts.find? (·.bytes = raw) with
          | some value => .ok value
          | none => .error "expected value at line 1 column 1"
        toString := Json.render }
    client :=
      { target := Transport.urlWithPassword
        headers := (Transport.tracing []).customHeaders
        maxRequestSize := 1024 }
    maxResponseSize := 1024
    up := whole
    down := whole
    service := Server.oneMethod (.ofMethod fun _ _ world => (.payload (.success (.int 3)) none, world))
    batchRequestsConfig := .unlimited
    maxRequestSize := 1024
    extensions := ∅ }

theorem sumLink_ready (texts : List Json) : (sumLink texts).Ready where
  json := by
    show Server.isJson (contentType (Transport.tracing []).customHeaders) = true
    decide +kernel
  plain :=
    { cfg := rfl
      built := by
        intro name callback found
        rw [sumLink, Server.oneMethod, Table.lookup_insert_ite] at found
        split at found
        · obtain rfl := Option.some.inj found
          refine .method fun _ _ _ e failed => ?_
          cases failed
        · cases found }
  up := whole_carries
  down := whole_carries

def sumRequest (id : UInt64) (method : String) : Request := { id := .number id, method, params := none }

def sumResponse (id : UInt64) : Response := .new (.success (.int 3)) (.number id)

/-- A call of the method of the server. -/
theorem request_over_http_sum :
    let link := sumLink [(sumRequest 0 "sum").toJson, (sumResponse 0).toJson]
    let ids : RequestIdManager := { currentId := 0, idKind := .number }
    (∃ r, (link.service.call (sumRequest 0 "sum") ∅ ()).1.Answers (.number 0) r ∧
      link.request (fun val => val.asI32.elim (.error "") .ok) ids "sum" none () =
        (link.told (fun val => val.asI32.elim (.error "") .ok) r, ())) ∧
    (link.request (fun val => val.asI32.elim (.error "") .ok) ids "sum" none ()).1.toOption = some 3 := by
  intro link ids
  have sent : link.refusal (requestOf ids "sum" none).toJson.render = none := by decide +kernel
  obtain ⟨r, answers, outcome⟩ := request_over_http
    (sumLink_ready [(sumRequest 0 "sum").toJson, (sumResponse 0).toJson]) (fun val => val.asI32.elim (.error "") .ok) ids
    "sum" none () (by decide +kernel) (by decide +kernel)
  rw [sent] at outcome
  exact ⟨⟨r, answers, outcome⟩, by decide +kernel⟩

end HttpLink

end Jsonrpsee
