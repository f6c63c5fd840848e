import Jsonrpsee.Server.BoundedWriter
import Jsonrpsee.Server.Http

/-! # When a response has been processed

A method may ask to be told when its response has been processed. The sending end
travels with the response: through the builder of a batch and through the code of
three transports. Two of the transports use it; HTTP and the builder drop it, and
then the method is told that the connection was closed.
-/

namespace Jsonrpsee

namespace Server

/-- A message that tells whether the response was successful or not. -/
inductive NotifyMsg where
  | ok
  | err
  deriving Repr, DecidableEq

/-- Method response error. -/
inductive MethodResponseError where
  /-- The connection was closed. -/
  | closed
  /-- The response was a JSON-RPC error. -/
  | jsonRpcError
  deriving Repr, DecidableEq

/-- Send a notify message. -/
def MethodResponseNotifyTx.notify (tx : MethodResponseNotifyTx) (isSuccess : Bool) :
    MethodResponseNotifyTx × NotifyMsg :=
  (tx, if isSuccess then .ok else .err)

/-- What a `MethodResponseFuture` resolves to: there is no message when the sending end
    was dropped. -/
def MethodResponseFuture.poll : Option NotifyMsg → Except MethodResponseError Unit
  | some .ok => .ok ()
  | some .err => .error .jsonRpcError
  | none => .error .closed

/-- What becomes of a response. -/
structure Delivery where
  /-- What the transport is given. -/
  handed : Option RawText
  /-- The sending end that is used; all others are dropped. -/
  notified : Option (MethodResponseNotifyTx × NotifyMsg)

/-- The future that belongs to a sending end, when all is done. -/
def Delivery.future (delivery : Delivery) (tx : MethodResponseNotifyTx) : Except MethodResponseError Unit :=
  MethodResponseFuture.poll ((delivery.notified.filter fun sent => sent.1 = tx).map Prod.snd)

namespace MethodResponse

/-- The end of the task of a WebSocket message. `isOpen` is about the channel of the
    connection. -/
def sendWs (rp : MethodResponse) (isOpen : Bool) : Delivery :=
  -- Subscriptions are handled by the subscription callback and "ordinary notifications"
  -- should not be sent back to the client.
  if rp.isMethodCall || rp.isBatch then
    if isOpen then
      { handed := some rp.json, notified := rp.onClose.map fun tx => tx.notify rp.isSuccess }
    else { handed := none, notified := none }
  else { handed := none, notified := none }

/-- `from_method_response`. The second part of the response is not used. -/
def sendHttp (rp : MethodResponse) : Delivery := { handed := some rp.json, notified := none }

/-- The end of `inner_call`. -/
def sendDirect (rp : MethodResponse) : Delivery :=
  { handed := some rp.json, notified := rp.onClose.map fun tx => tx.notify rp.isSuccess }

end MethodResponse

variable {σ : Type}

/-- `usize::MAX`. -/
def usizeMax : Nat := 2 ^ 64 - 1

/-- Execute a callback, without a server. -/
def Methods.innerCall (methods : Methods σ) (req : Request) (extensions : Extensions) (world : σ) :
    MethodResponse × σ :=
  let maxResponseSize := usizeMax
  let connId : ConnectionId := 0
  match methods.lookup req.method with
  | none => (.error req.id (.ofCode .methodNotFound), world)
  | some (.sync callback) => callback req.id req.params maxResponseSize extensions world
  | some (.async callback) => callback req.id req.params connId maxResponseSize extensions world
  | some (.subscription callback) => callback req.id req.params connId extensions world
  | some (.unsubscription callback) => callback req.id req.params connId maxResponseSize extensions world

/-- What the service makes of a message. -/
def RpcService.respond (service : RpcService σ) (message : Incoming) (world : σ) : MethodResponse × σ :=
  match message with
  | .call req extensions => service.call req extensions world
  | .notification _ extensions => (RpcService.notification extensions, world)
  | .batch entries => service.batch entries world
  | .refused rp => (rp, world)

/-- The ways in which a call can arrive. -/
inductive Way where
  | ws (isOpen : Bool) (message : Incoming)
  | http (message : Incoming)
  | direct (req : Request) (extensions : Extensions)

def Way.deliver (service : RpcService σ) (world : σ) : Way → Delivery
  | .ws isOpen message => (service.respond message world).1.sendWs isOpen
  | .http message => (service.respond message world).1.sendHttp
  | .direct req extensions => (Methods.innerCall service.methods req extensions world).1.sendDirect

/-! ## The transports -/

/-- On an open connection the task puts on the channel what is handed over here. -/
theorem messageTask_handed (serde : SerdeJson) (batchConfig : BatchRequestConfig) (service : RpcService σ)
    {data body : List UInt8} {isSingle : Bool} (split : splitMessage data = some (body, isSingle))
    (extensions : Extensions) (world : σ) :
    (messageTask serde data batchConfig service extensions world).1 =
      ((Way.ws true (readMessage serde body isSingle batchConfig extensions)).deliver service world).handed := by
  have responds : handleRpcCall serde body isSingle batchConfig service extensions world =
      service.respond (readMessage serde body isSingle batchConfig extensions) world := rfl
  simp only [messageTask, split, responds, Way.deliver, MethodResponse.sendWs]
  split <;> rfl

theorem callWithService_handed (serde : SerdeJson) {request : HttpRequest} (batchConfig : BatchRequestConfig)
    {maxRequestSize : Nat} (service : RpcService σ) {body : List UInt8} {isSingle : Bool}
    (post : request.isPost = true) (json : isJson request.contentType = true)
    (read : readBody request.contentLength request.body maxRequestSize = .ok (body, isSingle)) (world : σ) :
    some (callWithService serde request batchConfig maxRequestSize service world).1.body =
      ((Way.http (readMessage serde body isSingle batchConfig request.extensions)).deliver service
        world).handed.map RawText.text := by
  simp only [callWithService, post, json, if_true, read]
  rfl

/-! ## The methods that ask -/

/-- The callback is that of a method, whose function returns this result. -/
inductive MethodCallback.Returns (params : Option RawValue) (extensions : Extensions) (world : σ) :
    MethodCallback σ → Result → Prop
  | method (callback : Handler σ Result) :
      Returns params extensions world (.ofMethod callback) (callback params extensions world).1
  | asyncMethod (callback : Handler σ Result) :
      Returns params extensions world (.ofAsyncMethod callback) (callback params extensions world).1
  | blockingMethod {callback : Handler σ (Option Result)} {rp : Result}
      (joins : (callback params extensions world).1 = some rp) :
      Returns params extensions world (.ofBlockingMethod callback) rp

/-- The method of the request returns a payload with `notify_on_completion`. -/
def Asks (methods : Methods σ) (req : Request) (extensions : Extensions) (world : σ) (tx : MethodResponseNotifyTx) :
    Prop :=
  ∃ callback result, methods.lookup req.method = some callback ∧
    callback.Returns req.params extensions world result ∧ result.onExit = some tx

/-- The response is no error, as its JSON has it. -/
def MethodResponse.IsResult (rp : MethodResponse) : Prop := (member "result" rp.json.value).isSome = true

/-- The response of a call, with the sending end for its method. -/
structure MethodResponse.Carries (rp : MethodResponse) (tx : MethodResponseNotifyTx) : Prop where
  kind : rp.kind = .methodCall
  onClose : rp.onClose = some tx
  success : rp.isSuccess = true ↔ rp.IsResult

theorem MethodResponse.onClose_response (id : Id) (result : Result) (maxResponseSize : Nat) :
    (response id result maxResponseSize).onClose = result.onExit := by
  cases result with
  | payload inner onExit =>
      unfold response
      dsimp only
      split <;> rfl
  | unserializable written onExit =>
      unfold response
      dsimp only
      split <;> rfl

theorem MethodResponse.isResult_error (id : Id) (err : ErrorObject) :
    (error id err).isSuccess = true ↔ (error id err).IsResult := by
  simp [IsResult, isSuccess, error, RawText.ofJson, member, Response.toJson, Response.new, List.lookup_cons]

/-- A result that is turned into an error on the way is no success. -/
theorem MethodResponse.isResult_response (id : Id) (result : Result) (maxResponseSize : Nat) :
    (response id result maxResponseSize).isSuccess = true ↔ (response id result maxResponseSize).IsResult := by
  cases result with
  | payload inner onExit =>
      unfold response
      dsimp only
      split
      · cases inner <;>
          simp [IsResult, isSuccess, RawText.ofJson, member, Response.toJson, Response.new, List.lookup_cons,
            MethodResponseResult.ofPayload]
      · exact isResult_error id _
  | unserializable written onExit =>
      unfold response
      dsimp only
      split <;> exact isResult_error id _

theorem MethodResponse.carries_response {result : Result} {tx : MethodResponseNotifyTx} (asks : result.onExit = some tx)
    (id : Id) (maxResponseSize : Nat) (extensions : Extensions) :
    ((response id result maxResponseSize).withExtensions extensions).Carries tx :=
  ⟨kind_response id result maxResponseSize, (onClose_response id result maxResponseSize).trans asks,
    isResult_response id result maxResponseSize⟩

/-- Whoever calls the method gets the sending end with the response. -/
theorem Asks.carries_call {service : RpcService σ} {req : Request} {extensions : Extensions} {world : σ}
    {tx : MethodResponseNotifyTx} (asks : Asks service.methods req extensions world tx) :
    (service.call req extensions world).1.Carries tx := by
  obtain ⟨callback, result, found, returns, onExit⟩ := asks
  cases returns with
  | method callback =>
      simp only [RpcService.call, found, MethodCallback.ofMethod]
      exact MethodResponse.carries_response onExit ..
  | asyncMethod callback =>
      simp only [RpcService.call, found, MethodCallback.ofAsyncMethod]
      exact MethodResponse.carries_response onExit ..
  | @blockingMethod callback _ joins =>
      cases ran : callback req.params extensions world with
      | mk rp after =>
          rw [ran] at joins
          cases joins
          simp only [RpcService.call, found, MethodCallback.ofBlockingMethod, ran]
          exact MethodResponse.carries_response onExit ..

/-- A direct call of a method is that of a service without a limit. -/
def Methods.directly (methods : Methods σ) : RpcService σ :=
  { methods, maxResponseBodySize := usizeMax, connId := 0, cfg := .onlyCalls }

theorem Methods.innerCall_eq {methods : Methods σ} {req : Request} {callback : MethodCallback σ}
    (found : methods.lookup req.method = some callback) (isCall : callback.isCall = true) (extensions : Extensions)
    (world : σ) : methods.innerCall req extensions world = methods.directly.call req extensions world := by
  cases callback with
  | sync callback | async callback => simp only [innerCall, directly, RpcService.call, found]
  | subscription callback | unsubscription callback => cases isCall

theorem Asks.carries_innerCall {methods : Methods σ} {req : Request} {extensions : Extensions} {world : σ}
    {tx : MethodResponseNotifyTx} (asks : Asks methods req extensions world tx) :
    (methods.innerCall req extensions world).1.Carries tx := by
  have carries := @Asks.carries_call σ methods.directly req extensions world tx asks
  obtain ⟨callback, result, found, returns, -⟩ := asks
  have isCall : callback.isCall = true := by cases returns <;> rfl
  rwa [Methods.innerCall_eq found isCall]

/-! ## What the methods are told -/

/-- Whether a message makes a method run that asks, and with which response. A batch
    gets to a call only if the responses before it fit. -/
inductive Incoming.Asks (service : RpcService σ) (world : σ) (tx : MethodResponseNotifyTx) :
    Incoming → MethodResponse → Prop
  | call {req : Request} {extensions : Extensions} (asks : Server.Asks service.methods req extensions world tx) :
      Asks service world tx (.call req extensions) (service.call req extensions world).1
  | element {before after : List Entry} {req : Request} {extensions : Extensions}
      (reached : ∀ k, Fits service.maxResponseBodySize (service.replies (before.take k) world).1)
      (asks : Server.Asks service.methods req extensions (service.replies before world).2 tx) :
      Asks service world tx (.batch (before ++ .ok (.call req extensions) :: after))
        (service.call req extensions (service.replies before world).2).1

inductive Way.Asks (service : RpcService σ) (world : σ) (tx : MethodResponseNotifyTx) : Way → MethodResponse → Prop
  | ws {isOpen : Bool} {message : Incoming} {rp : MethodResponse} (asks : message.Asks service world tx rp) :
      Asks service world tx (.ws isOpen message) rp
  | http {message : Incoming} {rp : MethodResponse} (asks : message.Asks service world tx rp) :
      Asks service world tx (.http message) rp
  | direct {req : Request} {extensions : Extensions} (asks : Server.Asks service.methods req extensions world tx) :
      Asks service world tx (.direct req extensions) (Methods.innerCall service.methods req extensions world).1

/-- The response, or the batch response that contains it, is handed to the transport. -/
def Incoming.Hands (rp : MethodResponse) (handed : Option RawText) : Incoming → Prop
  | .batch _ => ∃ responses, rp ∈ responses ∧ handed = some (arrayOf responses)
  | .call _ _ | .notification _ _ | .refused _ => handed = some rp.json

def Way.Hands (rp : MethodResponse) (handed : Option RawText) : Way → Prop
  | .ws _ message | .http message => message.Hands rp handed
  | .direct _ _ => handed = some rp.json

/-- The future tells the truth about a response. -/
structure Truthful (handed success : Prop) (future : Except MethodResponseError Unit) : Prop where
  ok : handed → success → future = .ok ()
  jsonRpcError : handed → ¬ success → future = .error .jsonRpcError
  closed : future = .error .closed → ¬ handed

theorem truthful_closed_iff (handed success : Prop) : Truthful handed success (.error .closed) ↔ ¬ handed :=
  ⟨fun truthful => truthful.closed rfl, fun kept =>
    ⟨fun handed => absurd handed kept, fun handed => absurd handed kept, fun _ => kept⟩⟩

theorem Delivery.future_none {delivery : Delivery} (dropped : delivery.notified = none) (tx : MethodResponseNotifyTx) :
    delivery.future tx = .error .closed := by
  rw [future, dropped]
  rfl

theorem Delivery.truthful_of_notified {delivery : Delivery} {rp : MethodResponse} {tx : MethodResponseNotifyTx}
    (carries : rp.Carries tx) (notified : delivery.notified = rp.onClose.map fun tx => tx.notify rp.isSuccess)
    (handed : Prop) : Truthful handed rp.IsResult (delivery.future tx) := by
  have told : delivery.future tx = MethodResponseFuture.poll (some (if rp.isSuccess then .ok else .err)) := by
    have mine : (tx.notify rp.isSuccess).1 = tx := rfl
    rw [future, notified, carries.onClose, Option.map_some, Option.filter_some, if_pos (decide_eq_true mine)]
    rfl
  have success := carries.success
  rw [told]
  cases isSuccess : rp.isSuccess with
  | true =>
      rw [isSuccess] at success
      refine ⟨fun _ _ => rfl, fun _ fails => absurd (success.mp rfl) fails, ?_⟩
      intro closed
      cases closed
  | false =>
      rw [isSuccess] at success
      refine ⟨fun _ result => absurd (success.mpr result) Bool.false_ne_true, fun _ _ => rfl, ?_⟩
      intro closed
      cases closed

namespace RpcService

variable (service : RpcService σ)

/-- A batch response has lost the sending ends of its elements. -/
theorem onClose_batch (entries : List Entry) (world : σ) : (service.batch entries world).1.onClose = none := by
  rcases service.batch_cases entries world with ⟨refused, -⟩ | ended
  · rw [refused]
    rfl
  · rw [ended, closing]
    split
    · split <;> rfl
    · rfl

theorem mem_replies (before after : List Entry) (req : Request) (extensions : Extensions) (world : σ) :
    (service.call req extensions (service.replies before world).2).1 ∈
      (service.replies (before ++ .ok (.call req extensions) :: after) world).1 := by
  induction before generalizing world with
  | nil => exact List.mem_append_left _ (List.mem_singleton.mpr rfl)
  | cons entry rest ih =>
      rw [List.cons_append, replies_cons, replies_cons]
      exact List.mem_append_right _ (ih _)

/-- The responses of a batch are handed over, all of them or none. -/
theorem batch_json_iff {entries : List Entry} {world : σ} {rp : MethodResponse}
    (answered : rp ∈ (service.replies entries world).1) :
    (∃ responses, rp ∈ responses ∧ (service.batch entries world).1.json = arrayOf responses) ↔
      ∀ k, Fits service.maxResponseBodySize (service.replies (entries.take k) world).1 := by
  constructor
  · rintro ⟨responses, -, json⟩
    by_contra fails
    obtain ⟨before, entry, after, rfl, fits, large⟩ := exists_first
      (p := fun entries => Fits service.maxResponseBodySize (service.replies entries world).1) (.inl rfl) fails
    rw [service.batch_of_not_fits fits large] at json
    cases congrArg RawText.value json
  · intro fits
    refine ⟨(service.replies entries world).1, answered, ?_⟩
    rw [service.batch_of_fits fits, closing, if_neg (List.ne_nil_of_mem answered)]
    rfl

end RpcService

/-- The response is handed over and the sending end is not used: always over HTTP, and
    for each call of a batch. -/
def Way.Drops (service : RpcService σ) (world : σ) : Way → Prop
  | .ws isOpen (.batch entries) =>
      isOpen = true ∧ ∀ k, Fits service.maxResponseBodySize (service.replies (entries.take k) world).1
  | .http (.batch entries) => ∀ k, Fits service.maxResponseBodySize (service.replies (entries.take k) world).1
  | .http (.call _ _) | .http (.notification _ _) | .http (.refused _) => True
  | .ws _ (.call _ _) | .ws _ (.notification _ _) | .ws _ (.refused _) | .direct _ _ => False

theorem MethodResponse.sendWs_closed (rp : MethodResponse) : rp.sendWs false = { handed := none, notified := none } := by
  unfold sendWs
  split <;> rfl

/-- What is sent at all is sent as by a direct call. -/
theorem MethodResponse.sendWs_open {rp : MethodResponse} (loud : (rp.isMethodCall || rp.isBatch) = true) :
    rp.sendWs true = rp.sendDirect := by
  rw [sendWs, if_pos loud, if_pos rfl]
  rfl

theorem MethodResponse.Carries.loud {rp : MethodResponse} {tx : MethodResponseNotifyTx} (carries : rp.Carries tx) :
    (rp.isMethodCall || rp.isBatch) = true := by
  rw [isMethodCall, carries.kind]
  rfl

section Told

variable {service : RpcService σ} {world : σ} {tx : MethodResponseNotifyTx} {message : Incoming} {rp : MethodResponse}

theorem http_truthful_iff (asks : message.Asks service world tx rp) :
    Truthful (message.Hands rp ((Way.http message).deliver service world).handed) rp.IsResult
        (((Way.http message).deliver service world).future tx) ↔
      ¬ (Way.http message).Drops service world := by
  rw [Delivery.future_none rfl, truthful_closed_iff, not_iff_not]
  cases asks with
  | call asks => exact iff_of_true rfl trivial
  | @element before after req extensions reached asks =>
      have answered := service.mem_replies before after req extensions world
      rw [Way.Drops, ← service.batch_json_iff answered]
      simp only [Incoming.Hands, Way.deliver, MethodResponse.sendHttp, RpcService.respond, Option.some.injEq]

theorem ws_truthful_iff {isOpen : Bool} (asks : message.Asks service world tx rp) :
    Truthful (message.Hands rp ((Way.ws isOpen message).deliver service world).handed) rp.IsResult
        (((Way.ws isOpen message).deliver service world).future tx) ↔
      ¬ (Way.ws isOpen message).Drops service world := by
  cases isOpen with
  | false =>
      have lost : (Way.ws false message).deliver service world = { handed := none, notified := none } :=
        MethodResponse.sendWs_closed _
      rw [lost, Delivery.future_none rfl, truthful_closed_iff, not_iff_not]
      cases asks with
      | call asks => exact iff_of_false (fun handed => nomatch handed) not_false
      | element reached asks =>
          refine iff_of_false ?_ (fun drops => Bool.false_ne_true drops.1)
          rintro ⟨responses, -, handed⟩
          cases handed
  | true =>
      cases asks with
      | call asks =>
          have carries := asks.carries_call
          have sent := MethodResponse.sendWs_open carries.loud
          refine iff_of_true ?_ not_false
          simp only [Way.deliver, RpcService.respond, sent]
          exact Delivery.truthful_of_notified carries rfl _
      | @element before after req extensions reached asks =>
          have loud : (service.batch (before ++ .ok (.call req extensions) :: after) world).1.kind ≠ .notification := by
            rw [ne_eq, service.batch_silent_iff]
            rintro ⟨-, silent⟩
            exact absurd (silent (.ok (.call req extensions)) (by simp)) Bool.false_ne_true
          have sent := MethodResponse.sendWs_open (batch_kind _ _ loud)
          have answered := service.mem_replies before after req extensions world
          have lost := service.onClose_batch (before ++ .ok (.call req extensions) :: after) world
          rw [Delivery.future_none, truthful_closed_iff, not_iff_not, Way.Drops]
          · simp only [Incoming.Hands, Way.deliver, RpcService.respond, sent, MethodResponse.sendDirect,
              Option.some.injEq, true_and]
            exact service.batch_json_iff answered
          · simp only [Way.deliver, RpcService.respond, sent, MethodResponse.sendDirect, lost, Option.map_none]

end Told

/-- A method that asks learns the truth about its response, unless the response is
    handed over by code that drops the sending end. -/
theorem completion_truthful_iff (service : RpcService σ) (world : σ) (tx : MethodResponseNotifyTx) (way : Way)
    (rp : MethodResponse) (asks : way.Asks service world tx rp) :
    Truthful (way.Hands rp (way.deliver service world).handed) rp.IsResult ((way.deliver service world).future tx) ↔
      ¬ way.Drops service world := by
  cases asks with
  | ws asks => exact ws_truthful_iff asks
  | http asks => exact http_truthful_iff asks
  | direct asks =>
      refine iff_of_true ?_ not_false
      exact Delivery.truthful_of_notified asks.carries_innerCall rfl _

/-- A service whose only method asks to be notified. -/
def askingService : RpcService Unit := oneMethod (.ofMethod fun _ _ world => (.payload (.success (.int 3)) (some 0), world))

def sumRequest : Request := { id := .number 7, method := "sum", params := none }

theorem askingService_asks : Asks askingService.methods sumRequest ∅ () 0 :=
  ⟨_, _, Finmap.lookup_insert _, .method _, rfl⟩

theorem completion_truthful_ws :
    Truthful
      (((Way.ws true (.call sumRequest ∅)).deliver askingService ()).handed =
        some (askingService.call sumRequest ∅ ()).1.json)
      (askingService.call sumRequest ∅ ()).1.IsResult
      (((Way.ws true (.call sumRequest ∅)).deliver askingService ()).future 0) :=
  (completion_truthful_iff askingService () 0 (.ws true (.call sumRequest ∅)) _
    (.ws (.call askingService_asks))).mpr not_false

/-- Over HTTP the method is told that the connection was closed. -/
theorem completion_over_http :
    (Way.http (.call sumRequest ∅)).Asks askingService () 0 (askingService.call sumRequest ∅ ()).1 ∧
    ((Way.http (.call sumRequest ∅)).deliver askingService ()).handed =
      some (askingService.call sumRequest ∅ ()).1.json ∧
    (askingService.call sumRequest ∅ ()).1.IsResult ∧
    ((Way.http (.call sumRequest ∅)).deliver askingService ()).future 0 = .error .closed :=
  ⟨.http (.call askingService_asks), rfl, askingService_asks.carries_call.success.mp (by decide), rfl⟩

end Server

end Jsonrpsee
