import Jsonrpsee.Client.Events

/-! # The subscription table

`subscriptions` and the active entries of `requests` are two views of one set
of subscriptions. Several operations of the manager take a request id together
with a subscription id and do not check that the two belong together; that they
always do is an invariant of the callers.
-/

namespace Jsonrpsee

/-- The reverse lookup names exactly the active subscriptions, each once. -/
structure SubscriptionTable (m : RequestManager) : Prop where
  injective : ∀ {s s' r},
    m.subscriptions.lookup s = some r → m.subscriptions.lookup s' = some r → s = s'
  active : ∀ {s r}, m.subscriptions.lookup s = some r →
    ∃ unsubReqId sink unsub, m.requests.lookup r = some (.subscription unsubReqId sink unsub)
  named : ∀ {r unsubReqId sink unsub},
    m.requests.lookup r = some (.subscription unsubReqId sink unsub) →
      ∃ s, m.subscriptions.lookup s = some r

namespace SubscriptionTable

theorem new : SubscriptionTable .new where
  injective found := by cases found
  active found := by cases found
  named found := by cases found

/-- Whatever the reverse lookup finds, `remove_subscription` can remove. -/
theorem removes {m : RequestManager} (table : SubscriptionTable m) {s r}
    (known : m.subscriptions.lookup s = some r) : m.removeSubscription r s ≠ none := by
  obtain ⟨unsubReqId, sink, unsub, active⟩ := table.active known
  simp only [RequestManager.removeSubscription, active, known, ne_eq, reduceCtorEq, not_false_eq_true]

end SubscriptionTable

theorem RequestManager.requestStatus_subscription_iff {m : RequestManager} {r : Id} :
    m.requestStatus r = .subscription ↔
      ∃ unsubReqId sink unsub, m.requests.lookup r = some (.subscription unsubReqId sink unsub) := by
  unfold requestStatus
  split <;> simp [*]

theorem RequestManager.asSubscription_iff {m : RequestManager} {r : Id} {c : SinkId} :
    m.asSubscription r = some c ↔
      ∃ unsubReqId unsub, m.requests.lookup r = some (.subscription unsubReqId c unsub) := by
  unfold asSubscription
  split
  · rename_i unsubReqId sink unsub found
    rw [found]
    simp only [Option.some.injEq, Kind.subscription.injEq]
    exact ⟨fun same => ⟨unsubReqId, unsub, rfl, same, rfl⟩, fun ⟨_, _, _, same, _⟩ => same⟩
  · rename_i inactive
    simp only [reduceCtorEq, false_iff, not_exists]
    exact fun unsubReqId unsub found => inactive unsubReqId c unsub found

namespace Backend

variable {serde : SerdeJson} {cfg : Config} {b : Backend}

/-- Every critical section keeps the table. -/
theorem Step.subscriptionTable {op out after} (step : b.Step cfg op out after)
    (table : SubscriptionTable b.manager) : SubscriptionTable after.manager := by
  obtain ⟨injective, active, named⟩ := table
  cases step with
  | batch | batchOccupied | notification | requestOccupied | requestDenied | subscribeOccupied
  | closedEarlier | register | registerOccupied | unregister | unexpected | batchAnswered
  | batchUnstorable | batchUnknown | notified | notifyLost | notifyUnknown | closeIgnored
  | delivered | deliveryLost | plainUnknown =>
      exact ⟨injective, active, named⟩
  | request | subscribe | answerCall | release | subscribeRefused | subscribeUnreadable
  | subscribeDuplicate | abandon =>
      constructor <;> grind
  | unsubscribe known found | closed known found =>
      refine ⟨by grind, by grind, ?_⟩
      intro r unsubReqId sink unsub left
      have before : b.manager.requests.lookup r = some (.subscription unsubReqId sink unsub) := by
        grind
      obtain ⟨s, still⟩ := named before
      exact ⟨s, by grind⟩
  | @activate unsubReqId oneshot unsub json subId rp pending success stands fresh waiting =>
      refine ⟨by grind, ?_, ?_⟩
      · intro s r known
        by_cases here : r = rp.id
        · exact ⟨unsubReqId, b.channels.nextSink, unsub, by grind⟩
        · obtain ⟨_, _, _, found⟩ := active (s := s) (r := r) (by grind)
          exact ⟨_, _, _, (Finmap.lookup_insert_of_ne _ here).trans found⟩
      · intro r unsubReqId sink unsub found
        by_cases here : r = rp.id
        · exact ⟨subId, by grind⟩
        · obtain ⟨s, still⟩ := named ((Finmap.lookup_insert_of_ne _ here).symm.trans found)
          exact ⟨s, by grind⟩

theorem apply_subscriptionTable (cfg : Config) (op : Op) (table : SubscriptionTable b.manager) :
    SubscriptionTable (b.apply cfg op).2.manager :=
  (apply_step cfg b op).subscriptionTable table

/-- With the table intact the `expect` of a close notification holds. -/
theorem closeResponse_isSome (table : SubscriptionTable b.manager) (response : SubscriptionError) :
    b.processSubscriptionCloseResponse response ≠ none := by
  simp only [processSubscriptionCloseResponse, RequestManager.getRequestIdBySubscriptionId]
  split
  · simp only [ne_eq, reduceCtorEq, not_false_eq_true]
  · rename_i requestId known
    split
    · rename_i missing
      exact absurd missing (table.removes known)
    · simp only [ne_eq, reduceCtorEq, not_false_eq_true]

/-- The loop over an array keeps the table, so no element meets a broken one. -/
theorem handleElements_expect (serde : SerdeJson) (cfg : Config) (raw : List UInt8)
    (whole : Json) (elems : List Json) (st : ArrayState) (table : SubscriptionTable st.backend.manager) :
    (handleElements serde raw whole elems st).1 ≠ .panic .subscriptionMissing := by
  fun_induction handleElements serde raw whole elems st with
  | case1 | case2 | case8 => simp only [ne_eq, reduceCtorEq, not_false_eq_true]
  | case3 st r rest response parsed id numeric ih => exact ih table
  | case4 st r rest _ response parsed closed backend handled messages ih =>
      apply ih
      have kept := apply_subscriptionTable cfg (.notify response) table
      simpa only [apply, handled] using kept
  | case5 st r rest _ _ response parsed missing =>
      exact absurd missing (closeResponse_isSome table response)
  | case6 st r rest _ _ response parsed backend handled ih =>
      apply ih
      have kept := apply_subscriptionTable cfg (.close response) table
      simpa only [apply, handled, Option.getD_some] using kept
  | case7 st r rest _ _ _ notif parsed backend ih =>
      exact ih (apply_subscriptionTable cfg (.plain notif) table)

/-- With the table intact no received bytes reach the panic. -/
theorem recv_expect (cfg : Config) (raw : List UInt8) (table : SubscriptionTable b.manager) :
    (b.handleRecvMessage serde cfg raw).1 ≠ .panic .subscriptionMissing := by
  unfold handleRecvMessage
  split
  · split
    · unfold handleObject
      split
      · split <;> simp only [ne_eq, reduceCtorEq, not_false_eq_true]
      · split
        · simp only [ne_eq, reduceCtorEq, not_false_eq_true]
        · split
          · rename_i response _
            split
            · rename_i missing
              exact absurd missing (closeResponse_isSome table response)
            · simp only [ne_eq, reduceCtorEq, not_false_eq_true]
          · split <;> simp only [ne_eq, reduceCtorEq, not_false_eq_true]
    · simp only [ne_eq, reduceCtorEq, not_false_eq_true]
  · split
    · rename_i elems _
      have expect := handleElements_expect serde cfg raw (.arr elems) elems
        { backend := b, batch := [], range := none, gotNotif := false, messages := [] } table
      dsimp only
      split
      · unfold finishArray
        split
        · split
          · simp
          · split <;> simp only [ne_eq, reduceCtorEq, not_false_eq_true]
        · split <;> simp only [ne_eq, reduceCtorEq, not_false_eq_true]
      · simp only [ne_eq, reduceCtorEq, not_false_eq_true]
      · rename_i reason st handled
        rw [handled] at expect
        simpa only [ne_eq, Outcome.panic.injEq] using expect
    · simp only [ne_eq, reduceCtorEq, not_false_eq_true]
  · simp only [ne_eq, reduceCtorEq, not_false_eq_true]

theorem run_subscriptionTable {cfg : Config} {us b} (run : Run (event cfg) .new us b) : SubscriptionTable b.manager := by
  refine run.invariant (fun b => SubscriptionTable b.manager) (fun _ => True) (fun _ _ => trivial) .new ?_
  rintro t - table fired
  rcases event_cases fired with ⟨op, -, after⟩ | ⟨-, same, -⟩
  · rw [after]
    exact apply_subscriptionTable cfg op table
  · rw [same]
    exact table

end Backend

namespace World

variable {serde : SerdeJson} {cfg : Config}

theorem subscriptionTable {ts w} (run : Run (World.step serde cfg) .new ts w) :
    SubscriptionTable w.backend.manager := by
  obtain ⟨us, events⟩ := run_events run
  exact Backend.run_subscriptionTable events

/-- In every reachable state the reverse lookup is a bijection with the active
    subscriptions, and a close notification never panics. -/
theorem subscriptions_bijective {ts w} (run : Run (World.step serde cfg) .new ts w) :
    (∀ s s' r, w.backend.manager.subscriptions.lookup s = some r →
      w.backend.manager.subscriptions.lookup s' = some r → s = s') ∧
    (∀ s r, w.backend.manager.subscriptions.lookup s = some r →
      w.backend.manager.requestStatus r = .subscription) ∧
    (∀ r, w.backend.manager.requestStatus r = .subscription →
      ∃! s, w.backend.manager.subscriptions.lookup s = some r) ∧
    (∀ response, w.backend.processSubscriptionCloseResponse response ≠ none) ∧
    ∀ raw, (w.backend.handleRecvMessage serde cfg raw).1 ≠ .panic .subscriptionMissing := by
  have table := subscriptionTable run
  refine ⟨fun _ _ _ => table.injective, ?_, ?_, Backend.closeResponse_isSome table,
    fun raw => Backend.recv_expect cfg raw table⟩
  · intro s r known
    exact RequestManager.requestStatus_subscription_iff.mpr (table.active known)
  · intro r active
    obtain ⟨unsubReqId, sink, unsub, found⟩ :=
      RequestManager.requestStatus_subscription_iff.mp active
    obtain ⟨s, known⟩ := table.named found
    exact ⟨s, known, fun s' again => table.injective again known⟩

/-- The run in which one subscribe call is answered. -/
theorem subscriptions_bijective_subscribed :
    let serde := Exchange.reader [Exchange.success 0 7]
    let cfg : Config := { maxBufferCapacityPerSubscription := 1, overflowChecks := true }
    ∃ ts w, Run (World.step serde cfg) .new ts w ∧
      w.backend.manager.requestStatus (.number 0) = .subscription ∧
      ∃! s, w.backend.manager.subscriptions.lookup s = some (.number 0) := by
  intro serde cfg
  obtain ⟨ts, w, run, -, active⟩ := Run.reaches (World.step serde cfg) .new
    [.front (Exchange.subscribe 0 1 0), Exchange.received (Exchange.success 0 7)]
    (fun w => w.backend.manager.requestStatus (.number 0) = .subscription) (by decide)
  have active := of_decide_eq_true active
  exact ⟨ts, w, run, active, (subscriptions_bijective run).2.2.1 _ active⟩

end World

end Jsonrpsee
