import Jsonrpsee.Server.Dispatch
import Jsonrpsee.Server.RpcModule

/-! # Calls over HTTP

The body of an HTTP request is put together from its frames, then handled like
a WebSocket message. The two transports read and answer a message in code of
their own; the same payload gets the same answer on both.
-/

namespace Jsonrpsee

namespace Server

/-- A frame of an HTTP body. -/
inductive Frame where
  | data (bytes : List UInt8)
  | trailers
  /-- The body cannot be read any further. -/
  | error

/-- Represents error that can when reading with a HTTP body. -/
inductive HttpError where
  | tooLarge
  | malformed
  | stream
  deriving Repr, DecidableEq

structure HttpRequest where
  isPost : Bool
  contentType : Option String
  /-- The header, when it is given once and fits a `u32`. -/
  contentLength : Option Nat
  body : List Frame
  extensions : Extensions

structure HttpResponse where
  status : Nat
  body : String
  deriving Repr, DecidableEq

/-- `str::eq_ignore_ascii_case`. -/
def eqIgnoreAsciiCase (s t : String) : Bool := s.toList.map Char.toLower == t.toList.map Char.toLower

/-- Returns true if the `content_type` header indicates a valid JSON message. -/
def isJson (contentType : Option String) : Bool :=
  contentType.any fun content =>
    ["application/json", "application/json; charset=utf-8", "application/json;charset=utf-8", "application/json-rpc",
      "application/json-rpc;charset=utf-8", "application/json-rpc; charset=utf-8"].any (eqIgnoreAsciiCase content)

/-! ## Reading the body -/

/-- `iter().enumerate().take(128).find(..)`: the byte and its index. -/
def firstNonWhitespace (data : List UInt8) : Option (UInt8 × Nat) :=
  (data.take 128).zipIdx.find? fun entry => !isAsciiWhitespace entry.1

/-- The loop over the frames. `Limited` fails on the frame that exceeds what remains
    of the limit. -/
def readFrames (remaining : Nat) (received : List UInt8) (isSingle : Option Bool) :
    List Frame → Except HttpError (List UInt8 × Bool)
  | [] =>
      match isSingle with
      | some single => if received.isEmpty then .error .malformed else .ok (received, single)
      | none => .error .malformed
  | .error :: _ => .error .stream
  | .trailers :: rest => readFrames remaining received isSingle rest
  | .data data :: rest =>
      if data.length > remaining then .error .stream
      else if received.isEmpty then
        match firstNonWhitespace data with
        | some (123, idx) => readFrames (remaining - data.length) (data.drop idx) (some true) rest
        | some (91, idx) => readFrames (remaining - data.length) (data.drop idx) (some false) rest
        | _ => .error .malformed
      else readFrames (remaining - data.length) (received ++ data) isSingle rest

/-- Read data from a HTTP body, within the allowed size; tells whether it is a
    single request or a batch. -/
def readBody (contentLength : Option Nat) (body : List Frame) (maxBodySize : Nat) :
    Except HttpError (List UInt8 × Bool) :=
  if contentLength.getD 0 > maxBodySize then .error .tooLarge else readFrames maxBodySize [] none body

/-! ## Answering -/

/-- Helper to get an error object when the maximum request size limit has been
    exceeded. -/
def rejectTooBigRequest : Nat → ErrorObject := exceeded (-32007) "Request is too big"

/-- The text of an error without a request. -/
def errorText (err : ErrorObject) : RawText := .ofJson (Response.new (.error err) .null).toJson

def callWithService {σ : Type} (serde : SerdeJson) (request : HttpRequest) (batchConfig : BatchRequestConfig)
    (maxRequestSize : Nat) (service : RpcService σ) (world : σ) : HttpResponse × σ :=
  if request.isPost then
    if isJson request.contentType then
      match readBody request.contentLength request.body maxRequestSize with
      | .error .tooLarge => ({ status := 413, body := (errorText (rejectTooBigRequest maxRequestSize)).text }, world)
      | .error .malformed => ({ status := 400, body := (errorText (.ofCode .parseError)).text }, world)
      | .error .stream => ({ status := 500, body := (errorText (.ofCode .internalError)).text }, world)
      | .ok (body, isSingle) =>
          let (rp, world) := handleRpcCall serde body isSingle batchConfig service request.extensions world
          ({ status := 200, body := rp.json.text }, world)
    else
      ({ status := 415
         body := "Supplied content type is not allowed. Content-Type: application/json is required\n" }, world)
  else ({ status := 405, body := "Used HTTP Method is not allowed. POST is required\n" }, world)

/-- What the task of a received WebSocket message puts on the channel. -/
def messageTask {σ : Type} (serde : SerdeJson) (data : List UInt8) (batchConfig : BatchRequestConfig)
    (service : RpcService σ) (extensions : Extensions) (world : σ) : Option RawText × σ :=
  match splitMessage data with
  | none => (some (errorText (.ofCode .parseError)), world)
  | some (body, isSingle) =>
      let (rp, world) := handleRpcCall serde body isSingle batchConfig service extensions world
      -- Subscriptions are handled by the subscription callback and "ordinary notifications"
      -- should not be sent back to the client.
      (if rp.isMethodCall || rp.isBatch then some rp.json else none, world)

/-! ## One frame -/

theorem find_zipIdx (data : List UInt8) (n start : Nat) :
    ((data.take n).zipIdx start).find? (fun entry => !isAsciiWhitespace entry.1) =
      if (data.takeWhile isAsciiWhitespace).length < n then
        (data.dropWhile isAsciiWhitespace).head?.map fun byte =>
          (byte, start + (data.takeWhile isAsciiWhitespace).length)
      else none := by
  induction data generalizing n start with
  | nil => simp
  | cons byte rest ih =>
      cases n with
      | zero => simp
      | succ n =>
          rw [List.take_succ_cons, List.zipIdx_cons, List.find?_cons, List.takeWhile_cons, List.dropWhile_cons]
          cases isAsciiWhitespace byte with
          | true =>
              simp only [Bool.not_true, ih, if_true, List.length_cons, Nat.add_lt_add_iff_right]
              congr 3
              funext first
              congr 1
              omega
          | false => simp

/-- Both transports find the same start of a message. -/
theorem firstNonWhitespace_eq (data : List UInt8) : firstNonWhitespace data =
    if (data.takeWhile isAsciiWhitespace).length < 128 then
      (data.dropWhile isAsciiWhitespace).head?.map fun byte => (byte, (data.takeWhile isAsciiWhitespace).length)
    else none := by
  rw [firstNonWhitespace, find_zipIdx]
  simp only [Nat.zero_add]

theorem drop_length_takeWhile (data : List UInt8) :
    data.drop (data.takeWhile isAsciiWhitespace).length = data.dropWhile isAsciiWhitespace := by
  have whole : data.takeWhile isAsciiWhitespace ++ data.dropWhile isAsciiWhitespace = data :=
    List.takeWhile_append_dropWhile
  calc data.drop (data.takeWhile isAsciiWhitespace).length
      = (data.takeWhile isAsciiWhitespace ++ data.dropWhile isAsciiWhitespace).drop
          (data.takeWhile isAsciiWhitespace).length := by rw [whole]
    _ = data.dropWhile isAsciiWhitespace := List.drop_left

/-- A body of one frame is read as a WebSocket message is. -/
theorem readBody_frame {contentLength : Option Nat} {data : List UInt8} {maxBodySize : Nat}
    (header : contentLength.getD 0 ≤ maxBodySize) (small : data.length ≤ maxBodySize) :
    readBody contentLength [.data data] maxBodySize =
      match splitMessage data with
      | some read => .ok read
      | none => .error .malformed := by
  rw [readBody, if_neg (Nat.not_lt.mpr header), readFrames, if_neg (Nat.not_lt.mpr small), firstNonWhitespace_eq,
    splitMessage]
  by_cases within : (data.takeWhile isAsciiWhitespace).length < 128
  · rw [if_pos within, if_pos within]
    have rest := drop_length_takeWhile data
    cases start : data.dropWhile isAsciiWhitespace with
    | nil => rfl
    | cons byte tail =>
        rw [start] at rest
        by_cases brace : byte = 123
        · subst brace
          simp [rest, readFrames]
        · by_cases bracket : byte = 91
          · subst bracket
            simp [rest, readFrames]
          · simp [brace, bracket]
  · rw [if_neg within, if_neg within]
    rfl

/-! ## Methods that do not depend on the connection -/

/-- The callback of a method call. -/
def MethodCallback.isCall {σ : Type} : MethodCallback σ → Bool
  | .sync _ | .async _ => true
  | .subscription _ | .unsubscription _ => false

/-- A call is answered with a text that depends on its id and params only. -/
def MethodCallback.Steady {σ : Type} : MethodCallback σ → Prop
  | .sync callback => ∀ id params limit extensions extensions' world world',
      (callback id params limit extensions world).1.json = (callback id params limit extensions' world').1.json
  | .async callback => ∀ id params conn conn' limit extensions extensions' world world',
      (callback id params conn limit extensions world).1.json =
        (callback id params conn' limit extensions' world').1.json
  | .subscription _ | .unsubscription _ => True

/-- Two responses with the same text that the transport treats alike. -/
def MethodResponse.Same (rp rp' : MethodResponse) : Prop := rp.json = rp'.json ∧ rp.kind = rp'.kind

/-- Two builders that hold the same text, under the same limit. -/
structure BatchResponseBuilder.Same (b b' : BatchResponseBuilder) : Prop where
  result : b.result = b'.result
  values : b.values = b'.values
  limit : b.maxResponseSize = b'.maxResponseSize

theorem BatchResponseBuilder.Same.append {b b' : BatchResponseBuilder} (same : b.Same b') {rp rp' : MethodResponse}
    (json : rp.json = rp'.json) :
    (∃ err c c', b.append rp = (.error err, c) ∧ b'.append rp' = (.error err, c')) ∨
    ∃ c c', b.append rp = (.ok (), c) ∧ b'.append rp' = (.ok (), c') ∧ c.Same c' := by
  unfold BatchResponseBuilder.append
  rw [json, same.result, same.values, same.limit]
  by_cases large : rp'.json.text.utf8ByteSize + b'.result.utf8ByteSize + 1 > b'.maxResponseSize
  · simp only [large, if_true]
    exact .inl ⟨_, _, _, rfl, rfl⟩
  · simp only [large, if_false]
    exact .inr ⟨_, _, rfl, rfl, rfl, rfl, rfl⟩

theorem BatchResponseBuilder.Same.closing {b b' : BatchResponseBuilder} (same : b.Same b') (got : Bool) :
    MethodResponse.Same (if b.isEmpty && got then .notification else .fromBatch b.finish)
      (if b'.isEmpty && got then .notification else .fromBatch b'.finish) := by
  unfold isEmpty finish
  rw [same.result, same.values]
  by_cases silent : (decide (b'.result.utf8ByteSize ≤ 1) && got) = true
  · rw [if_pos silent, if_pos silent]
    exact ⟨rfl, rfl⟩
  · rw [if_neg silent, if_neg silent]
    refine ⟨?_, rfl⟩
    by_cases empty : b'.result.utf8ByteSize = 1 <;> simp only [MethodResponse.fromBatch, empty, if_true, if_false]

section TwoServices

variable {σ : Type} {http ws : RpcService σ}

/-- The two services have the same methods, which do not depend on the connection, and
    the same limit. -/
structure Alike (http ws : RpcService σ) : Prop where
  methods : http.methods = ws.methods
  limit : http.maxResponseBodySize = ws.maxResponseBodySize
  built : Methods.Built ws.methods
  steady : ∀ {name callback}, ws.methods.lookup name = some callback → callback.Steady

/-- The request does not name a method of a subscription. -/
def NamesCall (service : RpcService σ) (req : Request) : Prop :=
  ∀ callback, service.methods.lookup req.method = some callback → callback.isCall = true

theorem kind_call {service : RpcService σ} (built : Methods.Built service.methods) {req : Request}
    (plain : NamesCall service req) (extensions : Extensions) (world : σ) :
    (service.call req extensions world).1.kind = .methodCall := by
  cases found : service.methods.lookup req.method with
  | none =>
      simp only [RpcService.call, found]
      rfl
  | some callback =>
      have isCall := plain callback found
      cases built.allRegistered found with
      | method callback =>
          simp only [RpcService.call, found, MethodCallback.ofMethod]
          exact MethodResponse.kind_response ..
      | asyncMethod callback =>
          simp only [RpcService.call, found, MethodCallback.ofAsyncMethod]
          exact MethodResponse.kind_response ..
      | blockingMethod callback =>
          simp only [RpcService.call, found, MethodCallback.ofBlockingMethod]
          cases ran : callback req.params extensions world with
          | mk rp after =>
              cases rp with
              | none => rfl
              | some rp => exact MethodResponse.kind_response ..
      | subscription notif conn callback => cases isCall
      | unsubscribe remove => cases isCall

theorem json_call (alike : Alike http ws) {req : Request} (plain : NamesCall ws req)
    (extensions extensions' : Extensions) (world world' : σ) :
    (http.call req extensions world).1.json = (ws.call req extensions' world').1.json := by
  cases found : ws.methods.lookup req.method with
  | none =>
      simp only [RpcService.call, alike.methods, found]
      rfl
  | some callback =>
      have isCall := plain callback found
      have steady := alike.steady found
      cases callback with
      | sync callback =>
          simp only [RpcService.call, alike.methods, found, alike.limit]
          exact steady ..
      | async callback =>
          simp only [RpcService.call, alike.methods, found, alike.limit]
          exact steady ..
      | subscription callback => cases isCall
      | unsubscription callback => cases isCall

theorem call_same (alike : Alike http ws) {req : Request} (plain : NamesCall ws req)
    (extensions extensions' : Extensions) (world world' : σ) :
    (http.call req extensions world).1.Same (ws.call req extensions' world').1 := by
  refine ⟨json_call alike plain .., ?_⟩
  have httpBuilt : Methods.Built http.methods := by
    rw [alike.methods]
    exact alike.built
  have httpPlain : NamesCall http req := by
    intro callback found
    rw [alike.methods] at found
    exact plain callback found
  rw [kind_call httpBuilt httpPlain, kind_call alike.built plain]

/-- The requests that a message makes. -/
def Incoming.requests : Incoming → List Request
  | .call req _ => [req]
  | .batch entries =>
      entries.filterMap fun entry =>
        match entry with
        | .ok (.call req _) => some req
        | .ok (.notification _ _) | .error _ => none
  | .notification _ _ | .refused _ => []

theorem batchLoop_same (alike : Alike http ws) (extensions extensions' : Extensions) {elems : List Json}
    (plain : ∀ elem ∈ elems, ∀ req, readRequest elem = some req → NamesCall ws req) {b b' : BatchResponseBuilder}
    (same : b.Same b') (got : Bool) (world world' : σ) :
    (http.batchLoop (elems.map (readEntry extensions)) b got world).1.Same
      (ws.batchLoop (elems.map (readEntry extensions')) b' got world').1 := by
  induction elems generalizing b b' got world world' with
  | nil =>
      have closed := same.closing got
      simp only [List.map_nil, RpcService.batchLoop]
      rw [apply_ite Prod.fst, apply_ite Prod.fst]
      exact closed
  | cons elem rest ih =>
      have later : ∀ elem ∈ rest, ∀ req, readRequest elem = some req → NamesCall ws req :=
        fun elem member => plain elem (List.mem_cons_of_mem _ member)
      rw [List.map_cons, List.map_cons]
      cases isCall : readRequest elem with
      | some req =>
          have json := json_call alike (plain elem List.mem_cons_self req isCall) extensions extensions' world world'
          simp only [readEntry, isCall, RpcService.batchLoop]
          rcases same.append json with ⟨err, c, c', first, second⟩ | ⟨c, c', first, second, next⟩
          · simp only [first, second]
            exact ⟨rfl, rfl⟩
          · simp only [first, second]
            exact ih later next got _ _
      | none =>
          cases isNotif : PlainNotification.fromJson elem with
          | some notif =>
              simp only [readEntry, isCall, isNotif, RpcService.batchLoop]
              exact ih later same true world world'
          | none =>
              have json (err : MethodResponse) : err.json = err.json := rfl
              simp only [readEntry, isCall, isNotif, RpcService.batchLoop]
              rcases same.append (json (.error ((readInvalidRequest elem).getD .null) (.ofCode .invalidRequest))) with
                ⟨err, c, c', first, second⟩ | ⟨c, c', first, second, next⟩
              · simp only [first, second]
                exact ⟨rfl, rfl⟩
              · simp only [first, second]
                exact ih later next got world world'

theorem handleRpcCall_same (alike : Alike http ws) {serde : SerdeJson} {body : List UInt8} {isSingle : Bool}
    {batchConfig : BatchRequestConfig} {extensions extensions' : Extensions}
    (plain : ∀ req ∈ (readMessage serde body isSingle batchConfig extensions').requests, NamesCall ws req)
    (world world' : σ) :
    (handleRpcCall serde body isSingle batchConfig http extensions world).1.Same
      (handleRpcCall serde body isSingle batchConfig ws extensions' world').1 := by
  cases isSingle with
  | true =>
      cases reads : serde.fromSlice body with
      | error e =>
          have refused : ∀ extensions, readMessage serde body true batchConfig extensions =
              .refused (.error .null (.ofCode .parseError)) := by
            intro extensions
            simp only [readMessage, if_true, readSingle, prepareError, reads]
          simp only [handleRpcCall, refused]
          exact ⟨rfl, rfl⟩
      | ok value =>
          rw [readMessage_single reads] at plain
          simp only [handleRpcCall, readMessage_single reads]
          cases isCall : readRequest value with
          | some req =>
              rw [isCall] at plain
              exact call_same alike (plain req (by simp [Incoming.requests])) ..
          | none =>
              cases PlainNotification.fromJson value with
              | some notif => exact ⟨rfl, rfl⟩
              | none => cases readInvalidRequest value <;> exact ⟨rfl, rfl⟩
  | false =>
      rcases readMessage_batch_cases serde body batchConfig with ⟨elems, isBatch⟩ | ⟨err, refused⟩
      · rw [isBatch] at plain
        simp only [handleRpcCall, isBatch, RpcService.batch]
        have named : ∀ elem ∈ elems, ∀ req, readRequest elem = some req → NamesCall ws req := by
          intro elem member req isCall
          refine plain req ?_
          rw [Incoming.requests, List.mem_filterMap]
          refine ⟨readEntry extensions' elem, List.mem_map_of_mem member, ?_⟩
          simp only [readEntry, isCall]
        have builders : BatchResponseBuilder.Same (.newWithLimit http.maxResponseBodySize)
            (.newWithLimit ws.maxResponseBodySize) := ⟨rfl, rfl, alike.limit⟩
        exact batchLoop_same alike extensions extensions' named builders false world world'
      · simp only [handleRpcCall, refused]
        exact ⟨rfl, rfl⟩

end TwoServices

/-! ## The same answer -/

/-- What a payload asks for. -/
def readData (serde : SerdeJson) (batchConfig : BatchRequestConfig) (data : List UInt8) (extensions : Extensions) :
    Incoming :=
  match splitMessage data with
  | some (body, isSingle) => readMessage serde body isSingle batchConfig extensions
  | none => .refused (.error .null (.ofCode .parseError))

/-- There are notifications in the message, and nothing else. -/
def Incoming.onlyNotifications : Incoming → Prop
  | .notification _ _ => True
  | .batch entries => entries ≠ [] ∧ ∀ entry ∈ entries, Entry.isNotification entry = true
  | .call _ _ | .refused _ => False

section Sent

variable {σ : Type} {service : RpcService σ}

theorem batch_kind (entries : List Entry) (world : σ) (loud : (service.batch entries world).1.kind ≠ .notification) :
    ((service.batch entries world).1.isMethodCall || (service.batch entries world).1.isBatch) = true := by
  rcases service.batch_cases entries world with ⟨refused, -⟩ | ended
  · rw [refused]
    rfl
  · rw [ended, RpcService.closing] at loud ⊢
    by_cases silent : (service.replies entries world).1 = []
    · rw [if_pos silent] at loud ⊢
      cases got : entries.any Entry.isNotification with
      | true =>
          rw [got] at loud
          exact absurd rfl loud
      | false => rfl
    · rw [if_neg silent]
      rfl

/-- A message is answered on the channel unless it consists of notifications. -/
theorem sent_iff (built : Methods.Built service.methods) {serde : SerdeJson} {body : List UInt8} {isSingle : Bool}
    {batchConfig : BatchRequestConfig} {extensions : Extensions}
    (plain : ∀ req ∈ (readMessage serde body isSingle batchConfig extensions).requests, NamesCall service req)
    (world : σ) :
    ((handleRpcCall serde body isSingle batchConfig service extensions world).1.isMethodCall ||
        (handleRpcCall serde body isSingle batchConfig service extensions world).1.isBatch) = true ↔
      ¬ (readMessage serde body isSingle batchConfig extensions).onlyNotifications := by
  have loud : ∀ id err, ((MethodResponse.error id err).isMethodCall || (MethodResponse.error id err).isBatch) = true :=
    fun id err => rfl
  cases message : readMessage serde body isSingle batchConfig extensions with
  | call req given =>
      rw [message] at plain
      have kind := kind_call built (plain req (by simp [Incoming.requests])) given world
      simp only [handleRpcCall, message, MethodResponse.isMethodCall, kind, Incoming.onlyNotifications]
      simp
  | notification notif given =>
      simp only [handleRpcCall, message, Incoming.onlyNotifications]
      exact iff_of_false Bool.false_ne_true (not_not_intro trivial)
  | batch entries =>
      simp only [handleRpcCall, message, Incoming.onlyNotifications]
      rw [← service.batch_silent_iff entries world]
      constructor
      · intro sent silent
        simp only [MethodResponse.isMethodCall, MethodResponse.isBatch, silent] at sent
        exact absurd sent (by decide)
      · exact batch_kind entries world
  | refused rp =>
      obtain ⟨id, err, rfl⟩ := readMessage_refused message
      simp only [handleRpcCall, message, Incoming.onlyNotifications]
      exact iff_of_true (loud id err) not_false

theorem batch_silent_json {entries : List Entry} {world : σ}
    (silent : (service.batch entries world).1.kind = .notification) :
    (service.batch entries world).1.json = .ofJson .null := by
  rcases service.batch_cases entries world with ⟨refused, -⟩ | ended
  · rw [refused] at silent
    cases silent
  · rw [ended, RpcService.closing] at silent ⊢
    by_cases unanswered : (service.replies entries world).1 = []
    · rw [if_pos unanswered] at silent ⊢
      cases got : entries.any Entry.isNotification with
      | true => rfl
      | false =>
          rw [got] at silent
          cases silent
    · rw [if_neg unanswered] at silent
      cases silent

/-- Notifications are answered with `null`, which HTTP sends. -/
theorem silent_json {serde : SerdeJson} {body : List UInt8} {isSingle : Bool} {batchConfig : BatchRequestConfig}
    {extensions : Extensions} (silent : (readMessage serde body isSingle batchConfig extensions).onlyNotifications)
    (world : σ) :
    (handleRpcCall serde body isSingle batchConfig service extensions world).1.json = .ofJson .null := by
  unfold handleRpcCall
  cases message : readMessage serde body isSingle batchConfig extensions with
  | call req given =>
      rw [message] at silent
      exact silent.elim
  | notification notif given => rfl
  | batch entries =>
      rw [message] at silent
      exact batch_silent_json ((service.batch_silent_iff entries world).mpr silent)
  | refused rp =>
      rw [message] at silent
      exact silent.elim

end Sent

theorem callWithService_frame {σ : Type} {request : HttpRequest} {data : List UInt8} {maxRequestSize : Nat}
    (post : request.isPost = true) (json : isJson request.contentType = true)
    (header : ∀ length, request.contentLength = some length → length = data.length)
    (frame : request.body = [.data data]) (small : data.length ≤ maxRequestSize) (serde : SerdeJson)
    (batchConfig : BatchRequestConfig) (service : RpcService σ) (world : σ) :
    (callWithService serde request batchConfig maxRequestSize service world).1.body =
      match splitMessage data with
      | some (body, isSingle) =>
          (handleRpcCall serde body isSingle batchConfig service request.extensions world).1.json.text
      | none => (errorText (.ofCode .parseError)).text := by
  have length : request.contentLength.getD 0 ≤ maxRequestSize := by
    cases given : request.contentLength with
    | none => exact Nat.zero_le _
    | some length =>
        rw [header length given]
        exact small
  simp only [callWithService, post, json, if_true, frame, readBody_frame length small]
  cases splitMessage data with
  | none => rfl
  | some read => rfl

/-- The same payload gets the same answer over HTTP and over WebSocket. When it
    consists of notifications, WebSocket sends nothing and HTTP answers `null`. -/
theorem http_ws_answer {σ : Type} {http ws : RpcService σ} (alike : Alike http ws) (serde : SerdeJson)
    (batchConfig : BatchRequestConfig) {maxRequestSize : Nat} {request : HttpRequest} {data : List UInt8}
    (post : request.isPost = true) (json : isJson request.contentType = true)
    (header : ∀ length, request.contentLength = some length → length = data.length)
    (frame : request.body = [.data data]) (small : data.length ≤ maxRequestSize) (extensions : Extensions)
    (plain : ∀ req ∈ (readData serde batchConfig data extensions).requests, NamesCall ws req) (world world' : σ) :
    ((readData serde batchConfig data extensions).onlyNotifications →
      (messageTask serde data batchConfig ws extensions world').1 = none ∧
        (callWithService serde request batchConfig maxRequestSize http world).1.body = "null") ∧
    (¬ (readData serde batchConfig data extensions).onlyNotifications →
      ∃ answer, (messageTask serde data batchConfig ws extensions world').1 = some answer ∧
        (callWithService serde request batchConfig maxRequestSize http world).1.body = answer.text) := by
  rw [callWithService_frame post json header frame small]
  unfold messageTask
  unfold readData at plain ⊢
  cases start : splitMessage data with
  | none => exact ⟨fun silent => silent.elim, fun loud => ⟨_, rfl, rfl⟩⟩
  | some read =>
      obtain ⟨body, isSingle⟩ := read
      rw [start] at plain
      have same : (handleRpcCall serde body isSingle batchConfig http request.extensions world).1.Same
          (handleRpcCall serde body isSingle batchConfig ws extensions world').1 :=
        handleRpcCall_same alike plain world world'
      have sent := sent_iff alike.built plain world'
      constructor
      · intro silent
        refine ⟨if_neg fun loud => sent.mp loud silent, ?_⟩
        show (handleRpcCall serde body isSingle batchConfig http request.extensions world).1.json.text = "null"
        rw [same.1, silent_json silent world']
        rfl
      · intro loud
        refine ⟨_, if_pos (sent.mpr loud), ?_⟩
        show (handleRpcCall serde body isSingle batchConfig http request.extensions world).1.json.text = _
        rw [same.1]

/-- A server with one method, on either transport. -/
def sumService (cfg : RpcServiceCfg Unit) : RpcService Unit :=
  { oneMethod (.ofMethod fun _ _ world => (.payload (.success (.int 3)) none, world)) with cfg }

theorem sumService_alike (cfg cfg' : RpcServiceCfg Unit) : Alike (sumService cfg) (sumService cfg') := by
  refine ⟨rfl, rfl, .registerMethod .new rfl, ?_⟩
  intro name callback found
  rw [sumService, oneMethod, Table.lookup_insert_ite] at found
  split at found
  · cases found
    exact fun _ _ _ _ _ _ _ => rfl
  · rw [Finmap.lookup_empty] at found
    cases found

theorem http_ws_sum :
    let req : Request := { id := .number 7, method := "sum", params := some (.arr [.int 1, .int 2]) }
    let request : HttpRequest :=
      { isPost := true
        contentType := some "application/json"
        contentLength := none
        body := [.data req.toJson.bytes]
        extensions := ∅ }
    ∃ answer, (messageTask (.only req.toJson) req.toJson.bytes .unlimited
        (sumService (.callsAndSubscriptions some 1)) ∅ ()).1 = some answer ∧
      (callWithService (.only req.toJson) request .unlimited req.toJson.bytes.length (sumService .onlyCalls) ()).1.body =
        answer.text := by
  intro req request
  have ok : ParamsOk req.params := by
    rintro value ⟨⟩
    trivial
  have message : readData (.only req.toJson) .unlimited req.toJson.bytes ∅ = .call req ∅ := by
    have start : splitMessage req.toJson.bytes = some (req.toJson.bytes, true) := splitMessage_obj _
    rw [readData, start]
    show readMessage (.only req.toJson) req.toJson.bytes true .unlimited ∅ = .call req ∅
    rw [readMessage_single (SerdeJson.only_reads _), readRequest_toJson ok]
  refine (http_ws_answer (sumService_alike _ _) (.only req.toJson) .unlimited rfl (by decide) (by simp [request]) rfl
    (Nat.le_refl _) ∅ ?_ () ()).2 ?_
  · rw [message]
    intro named member
    rw [List.mem_singleton.mp member]
    intro callback found
    rw [sumService, oneMethod, Finmap.lookup_insert] at found
    cases found
    rfl
  · rw [message]
    exact not_false

end Server

end Jsonrpsee
