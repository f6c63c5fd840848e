import Jsonrpsee.Client.Handlers

/-! # What a critical section can do

Both background tasks touch the shared state only while they hold the lock of
the request manager. `Op` names each such section with its input, `apply` runs
it, and `Step` lists every effect it can have together with the entry it found
in the tables. All later invariants are case analyses over `Step`; the handlers
are not unfolded again.

A received message is a sequence of such sections (`recv_ops`), so a property
of the sections carries over to whole messages and to any interleaving of the
two tasks.
-/

namespace Jsonrpsee

/-- One critical section on the request manager. -/
inductive Op where
  | front (msg : FrontToBack)
  | single (rp : Response)
  | batch (rps : List Response) (range : Range)
  | notify (response : SubscriptionResponse)
  | close (response : SubscriptionError)
  | plain (notif : PlainNotification)

/-- The sections of incoming notifications. They answer no oneshot. -/
def Op.Quiet : Op → Prop
  | .notify _ | .close _ | .plain _ => True
  | .front _ | .single _ | .batch _ _ => False

theorem Op.Quiet.back {op : Op} (quiet : op.Quiet) (msg : FrontToBack) : op ≠ .front msg := by
  rintro rfl
  exact quiet

/-- The response a received text holds when it is a single JSON object. -/
def SerdeJson.single (serde : SerdeJson) (raw : List UInt8) : Option Response :=
  match raw.find? (fun byte => !Backend.isAsciiWhitespace byte), serde.fromSlice raw with
  | some 123, .ok json => Response.fromJson json
  | _, _ => none

/-- What a section gives back: frames for the transport, messages for
    `send_task`, or the error that ends `read_task`. -/
structure Output where
  frames : List Json
  messages : List FrontToBack
  error : Option InvalidRequestId

namespace Output

def none : Output := { frames := [], messages := [], error := .none }
def frame (raw : Json) : Output := { frames := [raw], messages := [], error := .none }
def message (msg : FrontToBack) : Output := { frames := [], messages := [msg], error := .none }
def failure (e : InvalidRequestId) : Output := { frames := [], messages := [], error := some e }

end Output

/-- The unsubscribe request of a subscription. -/
def unsubscribeRequest (unsubReqId : Id) (unsub : String) (subId : SubscriptionId) : RequestMessage :=
  { raw := Request.toJson
      { id := unsubReqId, method := unsub, params := some (.arr [subId.toJson]) }
    id := unsubReqId
    sendBack := none }

namespace Backend

/-- The state with other pending requests. -/
abbrev withRequests (b : Backend) (requests : Table Id Kind) : Backend :=
  { b with manager := { b.manager with requests } }

/-- Run one critical section. -/
def apply (cfg : Config) (b : Backend) : Op → Output × Backend
  | .front msg =>
      let (frames, after) := b.handleFrontendMessages cfg msg
      ({ Output.none with frames }, after)
  | .single rp =>
      match b.processSingleResponse rp cfg.maxBufferCapacityPerSubscription with
      | (.error e, after) => (.failure e, after)
      | (.ok unsub, after) => ({ Output.none with messages := (unsub.map .request).toList }, after)
  | .batch rps range =>
      match b.processBatchResponse rps range with
      | (.error e, after) => (.failure e, after)
      | (.ok (), after) => (.none, after)
  | .notify response =>
      let (closed, after) := b.processSubscriptionResponse response
      ({ Output.none with messages := (closed.map .subscriptionClosed).toList }, after)
  | .close response => (.none, (b.processSubscriptionCloseResponse response).getD b)
  | .plain notif => (.none, b.processNotification notif)

/-- Every effect a critical section can have. -/
inductive Step (cfg : Config) (b : Backend) : Op → Output → Backend → Prop where
  | batch (free : b.manager.batches.lookup msg.ids = none) :
      Step cfg b (.front (.batch msg)) (.frame msg.raw)
        { b with
          manager := { b.manager with
            batches := b.manager.batches.insert msg.ids { sendBack := msg.sendBack } } }
  | batchOccupied (taken : b.manager.batches.lookup msg.ids = some state) :
      Step cfg b (.front (.batch msg)) .none
        { b with
          channels := b.channels.send msg.sendBack (.batch (.error (.occupied msg.ids.debug))) }
  | notification : Step cfg b (.front (.notification raw)) (.frame raw) b
  | request (free : b.manager.requests.lookup msg.id = none) :
      Step cfg b (.front (.request msg)) (.frame msg.raw)
        (b.withRequests (b.manager.requests.insert msg.id (.pendingMethodCall msg.sendBack)))
  | requestOccupied (taken : b.manager.requests.lookup msg.id = some kind)
      (waiting : msg.sendBack = some oneshot) :
      Step cfg b (.front (.request msg)) .none
        { b with channels := b.channels.send oneshot (.call (.error (.occupied msg.id.toString))) }
  | requestDenied (taken : b.manager.requests.lookup msg.id = some kind)
      (silent : msg.sendBack = none) :
      Step cfg b (.front (.request msg)) .none b
  | subscribe (free : b.manager.requests.lookup msg.subscribeId = none)
      (unsubFree : b.manager.requests.lookup msg.unsubscribeId = none)
      (distinct : msg.subscribeId ≠ msg.unsubscribeId) :
      Step cfg b (.front (.subscribe msg)) (.frame msg.raw)
        (b.withRequests ((b.manager.requests.insert msg.subscribeId
          (.pendingSubscription msg.unsubscribeId msg.sendBack msg.unsubscribeMethod)).insert
            msg.unsubscribeId (.pendingMethodCall none)))
  | subscribeOccupied (refused : ¬ (b.manager.requests.lookup msg.subscribeId = none ∧
      b.manager.requests.lookup msg.unsubscribeId = none ∧ msg.subscribeId ≠ msg.unsubscribeId))
      (error : e = .invalidRequestId (.occupied ("sub_id=" ++ msg.subscribeId.toString ++
        ":req_id=" ++ msg.unsubscribeId.toString))) :
      Step cfg b (.front (.subscribe msg)) .none
        { b with channels := b.channels.send msg.sendBack (.subscription (.error e)) }
  | unsubscribe (known : b.manager.subscriptions.lookup subId = some reqId)
      (active : b.manager.requests.lookup reqId = some (.subscription unsubReqId sink unsub)) :
      Step cfg b (.front (.subscriptionClosed subId))
        (.frame (unsubscribeRequest unsubReqId unsub subId).raw)
        { b with
          manager := { b.manager with
            requests := b.manager.requests.insert reqId (.pendingMethodCall none)
            subscriptions := b.manager.subscriptions.erase subId } }
  | closedEarlier (gone : ∀ reqId, b.manager.subscriptions.lookup subId = some reqId →
      b.manager.asSubscription reqId = none) :
      Step cfg b (.front (.subscriptionClosed subId)) .none b
  | register (free : b.manager.notificationHandlers.lookup msg.method = none) :
      Step cfg b (.front (.registerNotification msg)) .none
        { manager := { b.manager with
            notificationHandlers :=
              b.manager.notificationHandlers.insert msg.method b.channels.nextSink }
          channels := (b.channels.subscriptionChannel cfg.maxBufferCapacityPerSubscription).2.send
            msg.sendBack (.notification (.ok (b.channels.nextSink, msg.method))) }
  | registerOccupied (taken : b.manager.notificationHandlers.lookup msg.method = some sink) :
      Step cfg b (.front (.registerNotification msg)) .none
        { b with
          channels := (b.channels.subscriptionChannel cfg.maxBufferCapacityPerSubscription).2.send
            msg.sendBack (.notification (.error (.registerMethod (.alreadyRegistered msg.method)))) }
  | unregister :
      Step cfg b (.front (.unregisterNotification method)) .none
        { b with manager := b.manager.removeNotificationHandler method }
  | answerCall (pending : b.manager.requests.lookup rp.id = some (.pendingMethodCall (some oneshot))) :
      Step cfg b (.single rp) .none
        { b.withRequests (b.manager.requests.erase rp.id) with
          channels := b.channels.send oneshot (.call (.ok rp)) }
  | release (reserved : b.manager.requests.lookup rp.id = some (.pendingMethodCall none)) :
      Step cfg b (.single rp) .none (b.withRequests (b.manager.requests.erase rp.id))
  | subscribeRefused
      (pending : b.manager.requests.lookup rp.id = some (.pendingSubscription unsubReqId oneshot unsub))
      (failed : rp.trySuccess = .error e) :
      Step cfg b (.single rp) .none
        { b.withRequests (b.manager.requests.erase rp.id) with
          channels := b.channels.send oneshot (.subscription (.error (.call e))) }
  | subscribeUnreadable
      (pending : b.manager.requests.lookup rp.id = some (.pendingSubscription unsubReqId oneshot unsub))
      (success : rp.trySuccess = .ok json) (unreadable : SubscriptionId.fromJson json = none)
      (error : e = .parseError "data did not match any variant of untagged enum SubscriptionId") :
      Step cfg b (.single rp) .none
        { b.withRequests (b.manager.requests.erase rp.id) with
          channels := b.channels.send oneshot (.subscription (.error e)) }
  | subscribeDuplicate
      (pending : b.manager.requests.lookup rp.id = some (.pendingSubscription unsubReqId oneshot unsub))
      (success : rp.trySuccess = .ok json) (named : SubscriptionId.fromJson json = some subId)
      (taken : b.manager.subscriptions.lookup subId = some other) :
      Step cfg b (.single rp) .none
        { b.withRequests (b.manager.requests.erase rp.id) with
          channels := (b.channels.subscriptionChannel cfg.maxBufferCapacityPerSubscription).2.send
            oneshot (.subscription (.error .invalidSubscriptionId)) }
  | activate
      (pending : b.manager.requests.lookup rp.id = some (.pendingSubscription unsubReqId oneshot unsub))
      (success : rp.trySuccess = .ok json) (named : SubscriptionId.fromJson json = some subId)
      (fresh : b.manager.subscriptions.lookup subId = none) (waiting : b.channels.isOpen oneshot) :
      Step cfg b (.single rp) .none
        { manager := { b.manager with
            requests := b.manager.requests.insert rp.id
              (.subscription unsubReqId b.channels.nextSink unsub)
            subscriptions := b.manager.subscriptions.insert subId rp.id }
          channels := (b.channels.subscriptionChannel cfg.maxBufferCapacityPerSubscription).2.send
            oneshot (.subscription (.ok (b.channels.nextSink, subId))) }
  | abandon
      (pending : b.manager.requests.lookup rp.id = some (.pendingSubscription unsubReqId oneshot unsub))
      (success : rp.trySuccess = .ok json) (named : SubscriptionId.fromJson json = some subId)
      (fresh : b.manager.subscriptions.lookup subId = none) (gone : b.channels.isOpen oneshot = false) :
      Step cfg b (.single rp) (.message (.request (unsubscribeRequest unsubReqId unsub subId)))
        { b.withRequests (b.manager.requests.insert rp.id (.pendingMethodCall none)) with
          channels := (b.channels.subscriptionChannel cfg.maxBufferCapacityPerSubscription).2.send
            oneshot (.subscription (.ok (b.channels.nextSink, subId))) }
  | unexpected (status : b.manager.requestStatus rp.id = .invalid ∨
      b.manager.requestStatus rp.id = .subscription) :
      Step cfg b (.single rp) (.failure (.notPendingRequest rp.id.toString)) b
  | batchAnswered (pending : b.manager.batches.lookup range = some state)
      (stored : storeResponses range.start rps (List.replicate range.size placeholder) = .ok responses) :
      Step cfg b (.batch rps range) .none
        { manager := { b.manager with batches := b.manager.batches.erase range }
          channels := b.channels.send state.sendBack (.batch (.ok responses)) }
  | batchUnstorable (pending : b.manager.batches.lookup range = some state)
      (failed : storeResponses range.start rps (List.replicate range.size placeholder) = .error e) :
      Step cfg b (.batch rps range) (.failure e)
        { b with manager := { b.manager with batches := b.manager.batches.erase range } }
  | batchUnknown (unknown : b.manager.batches.lookup range = none) :
      Step cfg b (.batch rps range) (.failure (.notPendingRequest range.debug)) b
  | notified (known : b.manager.subscriptions.lookup response.params.subscription = some reqId)
      (active : b.manager.asSubscription reqId = some sink)
      (sent : (b.channels.trySend sink response.params.result).1 = .ok ()) :
      Step cfg b (.notify response) .none
        { b with channels := (b.channels.trySend sink response.params.result).2 }
  | notifyLost (known : b.manager.subscriptions.lookup response.params.subscription = some reqId)
      (active : b.manager.asSubscription reqId = some sink)
      (lost : (b.channels.trySend sink response.params.result).1 = .error e) :
      Step cfg b (.notify response) (.message (.subscriptionClosed response.params.subscription))
        { b with channels := (b.channels.trySend sink response.params.result).2 }
  | notifyUnknown (gone : ∀ reqId,
      b.manager.subscriptions.lookup response.params.subscription = some reqId →
        b.manager.asSubscription reqId = none) :
      Step cfg b (.notify response) .none b
  | closed (known : b.manager.subscriptions.lookup response.params.subscription = some reqId)
      (active : b.manager.requests.lookup reqId = some (.subscription unsubReqId sink unsub)) :
      Step cfg b (.close response) .none
        { b with
          manager := { b.manager with
            requests := b.manager.requests.erase reqId
            subscriptions := b.manager.subscriptions.erase response.params.subscription } }
  | closeIgnored (gone : ∀ reqId,
      b.manager.subscriptions.lookup response.params.subscription = some reqId →
        b.manager.asSubscription reqId = none) :
      Step cfg b (.close response) .none b
  | delivered (known : b.manager.notificationHandlers.lookup notif.method = some sink)
      (sent : (b.channels.trySend sink (notif.params.getD .null)).1 = .ok ()) :
      Step cfg b (.plain notif) .none
        { b with channels := (b.channels.trySend sink (notif.params.getD .null)).2 }
  | deliveryLost (known : b.manager.notificationHandlers.lookup notif.method = some sink)
      (lost : (b.channels.trySend sink (notif.params.getD .null)).1 = .error e) :
      Step cfg b (.plain notif) .none
        { manager := b.manager.removeNotificationHandler notif.method
          channels := (b.channels.trySend sink (notif.params.getD .null)).2 }
  | plainUnknown (unknown : b.manager.notificationHandlers.lookup notif.method = none) :
      Step cfg b (.plain notif) .none b

/-! ## The handlers take only these steps -/

section Handlers

variable (cfg : Config) (b : Backend)

private theorem front_step (msg : FrontToBack) :
    Step cfg b (.front msg) (b.apply cfg (.front msg)).1 (b.apply cfg (.front msg)).2 := by
  cases msg with
  | batch msg =>
      simp only [apply, handleFrontendMessages, RequestManager.insertPendingBatch]
      cases found : b.manager.batches.lookup msg.ids with
      | none => exact .batch found
      | some state => exact .batchOccupied found
  | notification raw => exact .notification
  | request msg =>
      simp only [apply, handleFrontendMessages, RequestManager.insertPendingCall]
      cases found : b.manager.requests.lookup msg.id with
      | none => exact .request found
      | some kind =>
          cases waiting : msg.sendBack with
          | none => exact .requestDenied found waiting
          | some oneshot => exact .requestOccupied found waiting
  | subscribe msg =>
      simp only [apply, handleFrontendMessages, RequestManager.insertPendingSubscription]
      split
      · rename_i sendBack refused
        split at refused
        · cases refused
        · rename_i denied
          obtain rfl := Except.error.inj refused
          exact .subscribeOccupied denied rfl
      · rename_i manager inserted
        split at inserted
        · rename_i accepted
          obtain rfl := Except.ok.inj inserted
          exact .subscribe accepted.1 accepted.2.1 accepted.2.2
        · cases inserted
  | registerNotification msg =>
      simp only [apply, handleFrontendMessages, RequestManager.insertNotificationHandler,
        Channels.subscriptionChannel]
      cases found : b.manager.notificationHandlers.lookup msg.method with
      | none => exact .register found
      | some sink => exact .registerOccupied found
  | unregisterNotification method => exact .unregister
  | subscriptionClosed subId =>
      simp only [apply, handleFrontendMessages, RequestManager.getRequestIdBySubscriptionId,
        buildUnsubscribeMessage, RequestManager.unsubscribe]
      cases known : b.manager.subscriptions.lookup subId with
      | none => exact .closedEarlier (by simp [known])
      | some reqId =>
          cases entry : b.manager.requests.lookup reqId with
          | none =>
              simp only [entry]
              exact .closedEarlier (by simp [known, RequestManager.asSubscription, entry])
          | some kind =>
              cases kind with
              | pendingMethodCall | pendingSubscription =>
                  simp only [entry]
                  exact .closedEarlier (by simp [known, RequestManager.asSubscription, entry])
              | subscription unsubReqId sink unsub =>
                  simp only [entry]
                  exact .unsubscribe known entry

private theorem pendingSubscription_step (rp : Response)
    (pending : b.manager.requests.lookup rp.id = some (.pendingSubscription unsubReqId oneshot unsub)) :
    Step cfg b (.single rp) (b.apply cfg (.single rp)).1 (b.apply cfg (.single rp)).2 := by
  simp only [apply, processSingleResponse, RequestManager.requestStatus,
    RequestManager.completePendingSubscription, pending]
  cases result : rp.trySuccess with
  | error e => exact .subscribeRefused pending result
  | ok json =>
      cases named : SubscriptionId.fromJson json with
      | none =>
          simp only [named]
          exact .subscribeUnreadable pending result named rfl
      | some subId =>
          simp only [named, RequestManager.insertSubscription, Finmap.lookup_erase]
          cases fresh : b.manager.subscriptions.lookup subId with
          | some other => exact .subscribeDuplicate pending result named fresh
          | none =>
              cases waiting : b.channels.isOpen oneshot with
              | true =>
                  have still : (b.channels.subscriptionChannel
                      cfg.maxBufferCapacityPerSubscription).2.isOpen oneshot = true := waiting
                  simp only [still, if_true, Table.insert_erase]
                  exact .activate pending result named fresh waiting
              | false =>
                  have gone : (b.channels.subscriptionChannel
                      cfg.maxBufferCapacityPerSubscription).2.isOpen oneshot = false := waiting
                  -- The registration is made and undone within the section.
                  simp only [gone, Bool.false_eq_true, if_false, buildUnsubscribeMessage,
                    RequestManager.unsubscribe, Finmap.lookup_insert, Finmap.insert_insert,
                    Table.insert_erase, Table.erase_insert _ _ _ fresh]
                  exact .abandon pending result named fresh waiting

private theorem single_step (rp : Response) :
    Step cfg b (.single rp) (b.apply cfg (.single rp)).1 (b.apply cfg (.single rp)).2 := by
  cases entry : b.manager.requests.lookup rp.id with
  | none =>
      have status : b.manager.requestStatus rp.id = .invalid := by
        simp only [RequestManager.requestStatus, entry]
      simp only [apply, processSingleResponse, status]
      exact .unexpected (.inl status)
  | some kind =>
      cases kind with
      | pendingMethodCall sendBack =>
          simp only [apply, processSingleResponse, RequestManager.requestStatus,
            RequestManager.completePendingCall, entry]
          cases sendBack with
          | none => exact .release entry
          | some oneshot => exact .answerCall entry
      | pendingSubscription unsubReqId oneshot unsub => exact pendingSubscription_step cfg b rp entry
      | subscription unsubReqId sink unsub =>
          have status : b.manager.requestStatus rp.id = .subscription := by
            simp only [RequestManager.requestStatus, entry]
          simp only [apply, processSingleResponse, status]
          exact .unexpected (.inr status)

private theorem batch_step (rps : List Response) (range : Range) :
    Step cfg b (.batch rps range) (b.apply cfg (.batch rps range)).1
      (b.apply cfg (.batch rps range)).2 := by
  simp only [apply, processBatchResponse, RequestManager.completePendingBatch]
  cases pending : b.manager.batches.lookup range with
  | none => exact .batchUnknown pending
  | some state =>
      cases stored : storeResponses range.start rps (List.replicate range.size placeholder) with
      | error e => exact .batchUnstorable pending stored
      | ok responses => exact .batchAnswered pending stored

private theorem notify_step (response : SubscriptionResponse) :
    Step cfg b (.notify response) (b.apply cfg (.notify response)).1
      (b.apply cfg (.notify response)).2 := by
  simp only [apply, processSubscriptionResponse, RequestManager.getRequestIdBySubscriptionId]
  cases known : b.manager.subscriptions.lookup response.params.subscription with
  | none => exact .notifyUnknown (by simp [known])
  | some reqId =>
      cases active : b.manager.asSubscription reqId with
      | none =>
          simp only [active]
          exact .notifyUnknown (by simp only [known, Option.some.injEq, forall_eq', active])
      | some sink =>
          simp only [active]
          split
          · rename_i after sent
            have step : Step cfg b (.notify response) _ _ := .notified known active (by rw [sent])
            rw [sent] at step
            exact step
          · rename_i e after lost
            have step : Step cfg b (.notify response) _ _ := .notifyLost known active (by rw [lost])
            rw [lost] at step
            exact step

private theorem close_step (response : SubscriptionError) :
    Step cfg b (.close response) (b.apply cfg (.close response)).1
      (b.apply cfg (.close response)).2 := by
  simp only [apply, processSubscriptionCloseResponse, RequestManager.getRequestIdBySubscriptionId,
    RequestManager.removeSubscription]
  cases known : b.manager.subscriptions.lookup response.params.subscription with
  | none => exact .closeIgnored (by simp [known])
  | some reqId =>
      cases entry : b.manager.requests.lookup reqId with
      | none =>
          simp only [entry]
          exact .closeIgnored (by simp [known, RequestManager.asSubscription, entry])
      | some kind =>
          cases kind with
          | pendingMethodCall | pendingSubscription =>
              simp only [entry]
              exact .closeIgnored (by simp [known, RequestManager.asSubscription, entry])
          | subscription unsubReqId sink unsub =>
              simp only [entry]
              exact .closed known entry

private theorem plain_step (notif : PlainNotification) :
    Step cfg b (.plain notif) (b.apply cfg (.plain notif)).1 (b.apply cfg (.plain notif)).2 := by
  simp only [apply, processNotification, RequestManager.asNotificationHandler]
  cases known : b.manager.notificationHandlers.lookup notif.method with
  | none => exact .plainUnknown known
  | some sink =>
      simp only
      split
      · rename_i after sent
        have step : Step cfg b (.plain notif) _ _ := .delivered known (by rw [sent])
        rw [sent] at step
        exact step
      · rename_i e after lost
        have step : Step cfg b (.plain notif) _ _ := .deliveryLost known (by rw [lost])
        rw [lost] at step
        exact step

/-- A critical section has one of the listed effects. -/
theorem apply_step (op : Op) : Step cfg b op (b.apply cfg op).1 (b.apply cfg op).2 := by
  cases op with
  | front msg => exact front_step cfg b msg
  | single rp => exact single_step cfg b rp
  | batch rps range => exact batch_step cfg b rps range
  | notify response => exact notify_step cfg b response
  | close response => exact close_step cfg b response
  | plain notif => exact plain_step cfg b notif

end Handlers

/-! ## A received message as critical sections -/

/-- Run critical sections one after the other. -/
def applyAll (cfg : Config) (b : Backend) (ops : List Op) : Backend :=
  ops.foldl (fun b op => (b.apply cfg op).2) b

theorem applyAll_append (cfg : Config) (b : Backend) (ops more : List Op) :
    b.applyAll cfg (ops ++ more) = (b.applyAll cfg ops).applyAll cfg more :=
  List.foldl_append

/-- What every critical section keeps, a sequence of them keeps. -/
theorem applyAll_keep {cfg : Config} (inv : Backend → Prop) {ops : List Op} {b : Backend}
    (keep : ∀ b op, op ∈ ops → inv b → inv (b.apply cfg op).2) (initial : inv b) :
    inv (b.applyAll cfg ops) := by
  induction ops generalizing b with
  | nil => exact initial
  | cons op rest ih =>
      exact ih (fun b op member => keep b op (List.mem_cons_of_mem _ member))
        (keep b op List.mem_cons_self initial)

private theorem elements_ops (serde : SerdeJson) (cfg : Config) (raw : List UInt8) (whole : Json)
    (elems : List Json) (st : ArrayState) :
    ∃ ops, (handleElements serde raw whole elems st).2.backend = st.backend.applyAll cfg ops ∧
      ∀ op ∈ ops, op.Quiet := by
  induction elems generalizing st with
  | nil => exact ⟨[], rfl, by simp⟩
  | cons r rest ih =>
      -- One element runs at most one section; the rest follows by induction.
      have next : ∀ op : Op, op.Quiet → ∀ st' : ArrayState,
          st'.backend = (st.backend.apply cfg op).2 →
          ∃ ops, (handleElements serde raw whole rest st').2.backend = st.backend.applyAll cfg ops ∧
            ∀ op ∈ ops, op.Quiet := by
        intro op quiet st' after
        obtain ⟨ops, ends, quiets⟩ := ih st'
        refine ⟨op :: ops, ?_, ?_⟩
        · rw [ends, after]
          rfl
        · intro other member
          rcases List.mem_cons.mp member with rfl | later
          · exact quiet
          · exact quiets other later
      unfold handleElements
      split
      · split
        · exact ⟨[], rfl, by simp⟩
        · exact ih _
      · split
        · rename_i response _
          exact next (.notify response) trivial _ rfl
        · split
          · rename_i response _
            split
            · exact ⟨[], rfl, by simp⟩
            · rename_i backend done
              exact next (.close response) trivial _ (by simp only [apply, done, Option.getD_some])
          · split
            · rename_i notif _
              exact next (.plain notif) trivial _ rfl
            · exact ⟨[], rfl, by simp⟩

/-- How the sections of one received message end: with none that answers, with
    the section of its single response, or with that of its batch. -/
inductive Closing (serde : SerdeJson) (raw : List UInt8) (quiet : List Op) : List Op → Prop where
  | none : Closing serde raw quiet []
  | single (first : quiet = []) (holds : serde.single raw = some rp) :
      Closing serde raw quiet [.single rp]
  | batch : Closing serde raw quiet [.batch rps range]

private theorem object_ops (serde : SerdeJson) (cfg : Config) (b : Backend) (raw : List UInt8)
    (json : Json) (holds : serde.single raw = Response.fromJson json) :
    ∃ quiet last, (b.handleObject serde cfg raw json).2 = b.applyAll cfg (quiet ++ last) ∧
      (∀ op ∈ quiet, op.Quiet) ∧ Closing serde raw quiet last := by
  unfold handleObject
  split
  · rename_i rp parsed
    refine ⟨[], [.single rp], ?_, by simp, .single rfl (holds.trans parsed)⟩
    simp only [List.nil_append, applyAll, List.foldl_cons, List.foldl_nil, apply]
    split <;> simp only [*]
  · split
    · rename_i response _
      exact ⟨[.notify response], [], rfl, by simp [Op.Quiet], .none⟩
    · split
      · rename_i response _
        refine ⟨[.close response], [], ?_, by simp [Op.Quiet], .none⟩
        simp only [List.append_nil, applyAll, List.foldl_cons, List.foldl_nil, apply]
        split <;> (rename_i done; simp only [done, Option.getD_none, Option.getD_some])
      · split
        · rename_i notif _
          exact ⟨[.plain notif], [], rfl, by simp [Op.Quiet], .none⟩
        · exact ⟨[], [], rfl, by simp, .none⟩

private theorem array_ops (serde : SerdeJson) (cfg : Config) (b : Backend) (raw : List UInt8)
    (elems : List Json) (st : ArrayState) (start : st.backend = b) :
    ∃ quiet last,
      (match handleElements serde raw (.arr elems) elems st with
        | (.ok (), st) => finishArray cfg st
        | (.err e, st) => (.err e, st.backend)
        | (.panic reason, st) => (.panic reason, st.backend)).2 = b.applyAll cfg (quiet ++ last) ∧
      (∀ op ∈ quiet, op.Quiet) ∧ Closing serde raw quiet last := by
  obtain ⟨quiet, ends, quiets⟩ := elements_ops serde cfg raw (.arr elems) elems st
  rw [start] at ends
  have stopped : ∀ after : Backend, after = b.applyAll cfg quiet →
      ∃ quiet last, after = b.applyAll cfg (quiet ++ last) ∧
        (∀ op ∈ quiet, op.Quiet) ∧ Closing serde raw quiet last :=
    fun after same => ⟨quiet, [], by rw [List.append_nil, same], quiets, .none⟩
  rcases handled : handleElements serde raw (.arr elems) elems st with ⟨outcome, loop⟩
  rw [handled] at ends
  cases outcome with
  | err e => exact stopped _ ends
  | panic reason => exact stopped _ ends
  | ok done =>
      simp only [finishArray]
      split
      · rename_i range _
        split
        · exact stopped _ ends
        · refine ⟨quiet, [.batch loop.batch { range with stop := range.stop + 1 }], ?_, quiets, .batch⟩
          rw [applyAll_append, ← ends]
          simp only [applyAll, List.foldl_cons, List.foldl_nil, apply]
          split <;> simp only [*]
      · split <;> exact stopped _ ends

/-- A received message runs the sections of its notifications, then at most one
    section that answers a caller. -/
theorem recv_ops (serde : SerdeJson) (cfg : Config) (b : Backend) (raw : List UInt8) :
    ∃ quiet last, (b.handleRecvMessage serde cfg raw).2 = b.applyAll cfg (quiet ++ last) ∧
      (∀ op ∈ quiet, op.Quiet) ∧ Closing serde raw quiet last := by
  have nothing : ∃ quiet last, b = b.applyAll cfg (quiet ++ last) ∧
      (∀ op ∈ quiet, op.Quiet) ∧ Closing serde raw quiet last :=
    ⟨[], [], rfl, by simp, .none⟩
  unfold handleRecvMessage
  split
  · rename_i brace
    split
    · rename_i json parsed
      exact object_ops serde cfg b raw json (by simp only [SerdeJson.single, brace, parsed])
    · exact nothing
  · split
    · exact array_ops serde cfg b raw _ _ rfl
    · exact nothing
  · exact nothing

/-- A message that holds one response runs the section of that response. -/
theorem recv_single {serde : SerdeJson} {raw : List UInt8} {rp : Response}
    (holds : serde.single raw = some rp) (cfg : Config) (b : Backend) :
    b.handleRecvMessage serde cfg raw =
      (match (b.apply cfg (.single rp)).1.error with
        | some e => .err (.invalidRequestId e)
        | none => .ok (b.apply cfg (.single rp)).1.messages,
      (b.apply cfg (.single rp)).2) := by
  unfold SerdeJson.single at holds
  split at holds
  · rename_i json brace parsed
    simp only [handleRecvMessage, brace, parsed, handleObject, holds, apply]
    split <;> simp only [*, Output.failure, Output.none]
  · cases holds

end Backend

end Jsonrpsee
