import Jsonrpsee.Client.Events

/-! # Unsubscribing what nobody waits for

When a subscription is confirmed after its caller went away, `read_task` hands
an unsubscribe request back to `send_task`, as an ordinary request under the
unsubscribe id. That id has been reserved since the subscribe call was
registered, and `insert_pending_call` refuses an id that is taken, so the
request reaches the server only if the reservation is gone by then.
-/

namespace Jsonrpsee

/-- The message of a section uses a request id, by itself or through the
    subscription it names. -/
def Op.Uses (b : Backend) (id : Id) : Op → Prop
  | .front (.request msg) => msg.id = id
  | .front (.subscribe msg) => msg.subscribeId = id ∨ msg.unsubscribeId = id
  | .front (.subscriptionClosed subId) => b.manager.subscriptions.lookup subId = some id
  | .close response => b.manager.subscriptions.lookup response.params.subscription = some id
  | .single rp => rp.id = id
  | _ => False

/-- The transition processes no message that uses the id. -/
def Unused (id : Id) (t : Transition Backend Event) : Prop :=
  ∀ op, t.action = .critical op → ¬ op.Uses t.before id

namespace Backend

variable {cfg : Config} {b after : Backend}

/-- A section whose message does not use an id leaves the id's entry alone. -/
theorem Step.lookup_of_unused {op out} (step : b.Step cfg op out after) {id : Id}
    (unused : ¬ op.Uses b id) :
    after.manager.requests.lookup id = b.manager.requests.lookup id := by
  cases step <;> grind [Op.Uses]

theorem event_lookup_of_unused {e : Event} (fired : b.event cfg e = some after) {id : Id}
    (unused : ∀ op, e = .critical op → ¬ op.Uses b id) :
    after.manager.requests.lookup id = b.manager.requests.lookup id := by
  rcases event_cases fired with ⟨op, rfl, rfl⟩ | ⟨-, same, -⟩
  · exact (apply_step cfg b op).lookup_of_unused (unused op rfl)
  · rw [same]

theorem run_lookup_of_unused {us later} (run : Run (event cfg) b us later) {id : Id}
    (unused : ∀ t ∈ us, Unused id t) :
    later.manager.requests.lookup id = b.manager.requests.lookup id := by
  refine run.invariant (fun s => s.manager.requests.lookup id = b.manager.requests.lookup id)
    (Unused id) unused rfl ?_
  intro t free before fired
  rw [← before]
  exact event_lookup_of_unused fired free

/-- A request is handed to the transport exactly when its id is free. -/
theorem request_frames (msg : RequestMessage) :
    (b.handleFrontendMessages cfg (.request msg)).1 =
      if b.manager.requests.lookup msg.id = none then [msg.raw] else [] := by
  simp only [handleFrontendMessages, RequestManager.insertPendingCall]
  cases found : b.manager.requests.lookup msg.id with
  | none => rfl
  | some kind => cases msg.sendBack <;> rfl

section Confirmed

variable {i u : Id} {oneshot : OneshotId} {m : String} {rp : Response} {json : Json}
  {s : SubscriptionId}
  (pending : b.manager.requests.lookup i = some (.pendingSubscription u oneshot m))
  (own : rp.id = i) (success : rp.trySuccess = .ok json)
  (named : SubscriptionId.fromJson json = some s) (fresh : b.manager.subscriptions.lookup s = none)
  (gone : b.channels.isOpen oneshot = false)

include pending own success named fresh gone

/-- Confirming an abandoned subscription gives the unsubscribe request back and
    leaves every entry but its own as it was. -/
theorem single_abandoned (cfg : Config) :
    (b.apply cfg (.single rp)).1 = .message (.request (unsubscribeRequest u m s)) ∧
    (b.apply cfg (.single rp)).2.manager.requests =
      b.manager.requests.insert i (.pendingMethodCall none) := by
  subst own
  generalize result : b.apply cfg (.single rp) = applied
  have step := apply_step cfg b (.single rp)
  rw [result] at step
  obtain ⟨out, after⟩ := applied
  generalize shape : Op.single rp = op at step
  cases step <;> grind [RequestManager.requestStatus, Output.message]

/-- The unsubscribe request of an abandoned subscription reaches the transport
    exactly when its id had no entry at the time of the confirmation. -/
theorem abandoned_unsubscribe_iff {serde : SerdeJson} {raw : List UInt8}
    (holds : serde.single raw = some rp) :
    ∃ msg after, b.handleRecvMessage serde cfg raw = (.ok [msg], after) ∧
      ∀ us later, Run (event cfg) after us later → (∀ t ∈ us, Unused u t) →
        ((later.handleFrontendMessages cfg msg).1 =
            [Request.toJson { id := u, method := m, params := some (.arr [s.toJson]) }] ↔
          b.manager.requests.lookup u = none) := by
  obtain ⟨out, requests⟩ := single_abandoned pending own success named fresh gone cfg
  refine ⟨.request (unsubscribeRequest u m s), (b.apply cfg (.single rp)).2, ?_, ?_⟩
  · rw [recv_single holds, out]
    rfl
  · intro us later run unused
    -- The id of the subscription itself is taken, so the two ids differ or both sides fail.
    have entry : (later.manager.requests.lookup u = none) ↔ b.manager.requests.lookup u = none := by
      rw [run_lookup_of_unused run unused, requests, Table.lookup_insert_ite]
      split
      · rename_i same
        rw [same, pending]
        simp only [reduceCtorEq]
      · rfl
    rw [request_frames, ← entry]
    by_cases free : later.manager.requests.lookup u = none
    · simp only [unsubscribeRequest, free, if_true]
    · simp only [unsubscribeRequest, free, if_false, List.nil_eq, reduceCtorEq]

end Confirmed

/-- The response to the abandoned subscribe call of the exchange. -/
private def confirmed : Response :=
  { jsonrpc := some .mk, payload := .success (.int 7), id := .number 0 }

/-- After a response to the unsubscribe id, which the server was never asked
    for, the unsubscribe request goes out. -/
theorem abandoned_unsubscribe_iff_released :
    let serde := Exchange.reader [Exchange.success 1 0, Exchange.success 0 7]
    let cfg : Config := { maxBufferCapacityPerSubscription := 1, overflowChecks := true }
    ∃ ts w, Run (World.step serde cfg) .new ts w ∧
      w.backend.manager.requests.lookup (.number 1) = none ∧
      ∃ msg after, w.backend.handleRecvMessage serde cfg (Exchange.bytes (Exchange.success 0 7).1) =
          (.ok [msg], after) ∧
        (after.handleFrontendMessages cfg msg).1 =
          [Request.toJson
            { id := .number 1
              method := "unsubscribe_hello"
              params := some (.arr [SubscriptionId.toJson (.num 7)]) }] := by
  intro serde cfg
  obtain ⟨ts, w, run, -, state⟩ := Run.reaches (World.step serde cfg) .new
    [.front (Exchange.subscribe 0 1 0), .dropOneshot 0, Exchange.received (Exchange.success 1 0)]
    (fun w => w.backend.manager.requests.lookup (.number 0) =
        some (.pendingSubscription (.number 1) 0 "unsubscribe_hello") ∧
      w.backend.manager.requests.lookup (.number 1) = none ∧
      w.backend.manager.subscriptions.lookup (.num 7) = none ∧
      w.backend.channels.isOpen 0 = false) (by decide)
  obtain ⟨pending, released, fresh, gone⟩ := of_decide_eq_true state
  have holds : serde.single (Exchange.bytes (Exchange.success 0 7).1) = some confirmed := by rfl
  have success : confirmed.trySuccess = .ok (.int 7) := rfl
  obtain ⟨msg, after, received, sent⟩ :=
    @abandoned_unsubscribe_iff cfg _ _ _ _ _ _ _ _ pending rfl success rfl fresh gone _ _ holds
  exact ⟨ts, w, run, released, msg, after, received, (sent [] after .nil (by simp)).mpr released⟩

/-- An abandoned subscription of a server that answers only what it was asked:
    the unsubscribe request is swallowed. -/
theorem abandoned_unsubscribe_swallowed :
    let serde := Exchange.reader [Exchange.success 0 7]
    let cfg : Config := { maxBufferCapacityPerSubscription := 1, overflowChecks := true }
    ∃ ts w, Run (World.step serde cfg) .new ts w ∧
      w.backend.manager.requests.lookup (.number 0) =
        some (.pendingSubscription (.number 1) 0 "unsubscribe_hello") ∧
      w.backend.manager.subscriptions.lookup (.num 7) = none ∧ w.backend.channels.isOpen 0 = false ∧
      serde.single (Exchange.bytes (Exchange.success 0 7).1) = some confirmed ∧
      ∃ msg after, w.backend.handleRecvMessage serde cfg (Exchange.bytes (Exchange.success 0 7).1) =
          (.ok [msg], after) ∧
        (after.handleFrontendMessages cfg msg).1 = [] := by
  intro serde cfg
  obtain ⟨ts, w, run, -, state⟩ := Run.reaches (World.step serde cfg) .new
    [.front (Exchange.subscribe 0 1 0), .dropOneshot 0]
    (fun w => w.backend.manager.requests.lookup (.number 0) =
        some (.pendingSubscription (.number 1) 0 "unsubscribe_hello") ∧
      w.backend.manager.requests.lookup (.number 1) = some (.pendingMethodCall none) ∧
      w.backend.manager.subscriptions.lookup (.num 7) = none ∧
      w.backend.channels.isOpen 0 = false) (by decide)
  obtain ⟨pending, reserved, fresh, gone⟩ := of_decide_eq_true state
  have holds : serde.single (Exchange.bytes (Exchange.success 0 7).1) = some confirmed := by rfl
  obtain ⟨out, requests⟩ := single_abandoned pending (rfl : confirmed.id = _)
    (rfl : confirmed.trySuccess = .ok (.int 7)) rfl fresh gone cfg
  refine ⟨ts, w, run, pending, fresh, gone, holds,
    .request (unsubscribeRequest (.number 1) "unsubscribe_hello" (.num 7)),
    (w.backend.apply cfg (.single confirmed)).2, ?_, ?_⟩
  · rw [recv_single holds, out]
    rfl
  · have taken : (w.backend.apply cfg (.single confirmed)).2.manager.requests.lookup (.number 1) =
        some (.pendingMethodCall none) := by
      rw [requests, Finmap.lookup_insert_of_ne _ (by decide), reserved]
    rw [request_frames, unsubscribeRequest, taken]
    rfl

end Backend

end Jsonrpsee
