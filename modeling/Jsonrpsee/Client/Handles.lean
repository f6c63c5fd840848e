import Jsonrpsee.Client.Streams

/-! # Closing a subscription handle

A handle names its registration only by the method or by the id the server
chose. The registration may be removed behind the handle's back, because the
consumer lags, the receiver is gone or the server closes it, and the same name
may be registered again while the old handle is alive or its message is queued.
-/

namespace Jsonrpsee

/-- The kind of a subscription handle. -/
inductive SubscriptionKind where
  | subscription (id : SubscriptionId)
  | method (name : String)
  deriving Repr, DecidableEq

/-- A `Subscription` in the hands of a caller. Its receiving end tells which
    registration it belongs to. -/
structure Handle where
  kind : SubscriptionKind
  sink : SinkId
  deriving Repr, DecidableEq

/-- The message sent when a handle is dropped or unsubscribed. -/
def Handle.closeMessage (h : Handle) : FrontToBack :=
  match h.kind with
  | .method name => .unregisterNotification name
  | .subscription id => .subscriptionClosed id

/-- The handle made of a reply that reached its caller. -/
def Answer.handle (answer : Answer) : Option Handle :=
  if answer.delivered then
    match answer.reply with
    | .subscription (.ok (sink, id)) => some { kind := .subscription id, sink }
    | .notification (.ok (sink, name)) => some { kind := .method name, sink }
    | _ => none
  else none

/-- The channel of the current registration under a name. -/
def RequestManager.registered (m : RequestManager) : SubscriptionKind → Option SinkId
  | .subscription id => (m.subscriptions.lookup id).bind m.asSubscription
  | .method name => m.notificationHandlers.lookup name

/-- The background tasks with the handles of the callers. -/
structure Frontend where
  backend : Backend
  /-- Handles that are alive. -/
  handles : List Handle
  /-- Handles whose close message is queued. -/
  closing : List Handle

inductive FrontAction where
  | event (e : Event)
  /-- Drop or unsubscribe a handle. Its receiver goes by an event of its own. -/
  | close (h : Handle)
  /-- The queue is full when the handle is dropped. -/
  | lose (h : Handle)
  /-- `send_task` processes the queued message of a handle. -/
  | deliver (h : Handle)

namespace Frontend

def new : Frontend := { backend := .new, handles := [], closing := [] }

/-- The handles the callers get by an event. -/
def newHandles (b after : Backend) : List Handle :=
  (after.channels.answers.drop b.channels.answers.length).filterMap Answer.handle

def step (cfg : Config) (f : Frontend) : FrontAction → Option Frontend
  | .event e =>
      (f.backend.event cfg e).map fun after =>
        { f with backend := after, handles := f.handles ++ newHandles f.backend after }
  | .close h =>
      if h ∈ f.handles then
        some { f with handles := f.handles.erase h, closing := h :: f.closing }
      else none
  | .lose h => if h ∈ f.handles then some { f with handles := f.handles.erase h } else none
  | .deliver h =>
      if h ∈ f.closing then
        some { f with
          backend := (f.backend.apply cfg (.front h.closeMessage)).2
          closing := f.closing.erase h }
      else none

end Frontend

/-- The section registers a name. -/
inductive Op.Registers (b : Backend) : Op → SubscriptionKind → Prop where
  | method (free : b.manager.notificationHandlers.lookup msg.method = none) :
      Registers b (.front (.registerNotification msg)) (.method msg.method)
  | subscription
      (pending : b.manager.requests.lookup rp.id = some (.pendingSubscription unsubReqId oneshot unsub))
      (success : rp.trySuccess = .ok json) (named : SubscriptionId.fromJson json = some subId)
      (free : b.manager.subscriptions.lookup subId = none) :
      Registers b (.single rp) (.subscription subId)

theorem Handle.closeMessage_registers (h : Handle) (b : Backend) (kind : SubscriptionKind) :
    ¬ (Op.front h.closeMessage).Registers b kind := by
  obtain ⟨name, sink⟩ := h
  cases name <;> rintro ⟨⟩

theorem RequestManager.registered_subscription {m : RequestManager} {s : SubscriptionId} {c : SinkId} :
    m.registered (.subscription s) = some c ↔ ∃ r unsubReqId unsub, m.subscriptions.lookup s = some r ∧
      m.requests.lookup r = some (.subscription unsubReqId c unsub) := by
  simp only [registered, Option.bind_eq_some_iff, asSubscription_iff]
  exact ⟨fun ⟨r, known, u, n, found⟩ => ⟨r, u, n, known, found⟩,
    fun ⟨r, u, n, known, found⟩ => ⟨r, known, u, n, found⟩⟩

namespace Backend

variable {cfg : Config} {b after : Backend} {op : Op} {out : Output}

/-- A registration found after a section was there before, or the section made it. -/
theorem Step.registered (step : b.Step cfg op out after) (table : SubscriptionTable b.manager)
    {kind : SubscriptionKind} {c : SinkId} (found : after.manager.registered kind = some c) :
    b.manager.registered kind = some c ∨ op.Registers b kind ∧ c = b.channels.nextSink := by
  cases kind with
  | method name =>
      simp only [RequestManager.registered] at found ⊢
      cases step with
      | @register msg free =>
          by_cases here : name = msg.method
          · subst here
            exact .inr ⟨.method free, by grind⟩
          · exact .inl (by grind)
      | _ => exact .inl (by grind)
  | subscription s =>
      obtain ⟨r, unsubReqId, unsub, known, entry⟩ := RequestManager.registered_subscription.mp found
      cases step with
      | @activate u o n json subId rp pending success named fresh waiting =>
          by_cases here : s = subId
          · subst here
            exact .inr ⟨.subscription pending success named fresh, by grind⟩
          · have before := (Finmap.lookup_insert_of_ne _ here).symm.trans known
            obtain ⟨_, _, _, active⟩ := table.active before
            exact .inl (RequestManager.registered_subscription.mpr
              ⟨r, unsubReqId, unsub, before, by grind⟩)
      | _ =>
          refine .inl (RequestManager.registered_subscription.mpr ⟨r, unsubReqId, unsub, ?_, ?_⟩)
          all_goals grind

/-- A section makes at most one handle, for what it has just registered. -/
theorem Step.newHandles (step : b.Step cfg op out after) {h : Handle}
    (made : h ∈ Frontend.newHandles b after) {c : SinkId}
    (found : after.manager.registered h.kind = some c) : c = h.sink := by
  have only : ∀ {answer : Answer}, after.channels.answers = b.channels.answers ++ [answer] →
      answer.handle = some h := by
    intro answer grown
    obtain ⟨source, member, handle⟩ := List.mem_filterMap.mp made
    rw [grown, List.drop_left, List.mem_singleton] at member
    rwa [← member]
  have silent : after.channels.answers = b.channels.answers → False := by
    intro same
    simp only [Frontend.newHandles, same, List.drop_length, List.filterMap_nil, List.not_mem_nil] at made
  cases step with
  | batch | notification | request | requestDenied | subscribe | unsubscribe | closedEarlier
  | unregister | release | unexpected | batchUnstorable | batchUnknown | notifyUnknown | closed
  | closeIgnored | plainUnknown =>
      exact (silent rfl).elim
  | notified | notifyLost | delivered | deliveryLost =>
      exact (silent (Channels.trySend_answers _ _ _)).elim
  | batchOccupied | requestOccupied | subscribeOccupied | registerOccupied | answerCall
  | subscribeRefused | subscribeUnreadable | subscribeDuplicate | batchAnswered =>
      have handle := only (Channels.send_answers _ _ _)
      simp only [Answer.handle, ite_self, reduceCtorEq] at handle
  | abandon pending success named fresh gone =>
      have handle := only (Channels.send_answers _ _ _)
      have closed : Channels.isOpen
          (b.channels.subscriptionChannel cfg.maxBufferCapacityPerSubscription).2 _ = false := gone
      simp only [Answer.handle, closed, Bool.false_eq_true, if_false, reduceCtorEq] at handle
  | register free =>
      have handle := only (Channels.send_answers _ _ _)
      simp only [Answer.handle] at handle
      split at handle
      · obtain rfl := Option.some.inj handle
        grind [RequestManager.registered]
      · cases handle
  | activate pending success named fresh waiting =>
      have handle := only (Channels.send_answers _ _ _)
      simp only [Answer.handle] at handle
      split at handle
      · obtain rfl := Option.some.inj handle
        obtain ⟨r, unsubReqId, unsub, known, entry⟩ := RequestManager.registered_subscription.mp found
        grind
      · cases handle

end Backend

/-- Whatever is registered under the name of a handle is the handle's own. -/
structure Separate (f : Frontend) : Prop where
  table : SubscriptionTable f.backend.manager
  own : ∀ h ∈ f.handles ++ f.closing, ∀ c, f.backend.manager.registered h.kind = some c → c = h.sink

/-- A name is registered while an earlier handle for it is alive or its close
    message is queued. -/
def Reregisters (t : Transition Frontend FrontAction) : Prop :=
  ∃ op h, t.action = .event (.critical op) ∧ h ∈ t.before.handles ++ t.before.closing ∧
    op.Registers t.before.backend h.kind

namespace Frontend

variable {cfg : Config} {f f' : Frontend}

theorem step_separate {a : FrontAction} (taken : f.step cfg a = some f') (separate : Separate f)
    (fresh : ¬ Reregisters ⟨f, a, f'⟩) : Separate f' := by
  obtain ⟨table, own⟩ := separate
  cases a with
  | event e =>
      obtain ⟨after, fired, rfl⟩ := Option.map_eq_some_iff.mp taken
      rcases Backend.event_cases fired with ⟨op, rfl, rfl⟩ | ⟨-, same, silent, -⟩
      · have step := Backend.apply_step cfg f.backend op
        refine ⟨step.subscriptionTable table, ?_⟩
        intro h member c found
        by_cases made : h ∈ newHandles f.backend (f.backend.apply cfg op).2
        · exact step.newHandles made found
        · have old : h ∈ f.handles ++ f.closing := by
            simp only [List.mem_append] at member ⊢
            tauto
          rcases step.registered table found with before | ⟨registers, -⟩
          · exact own h old c before
          · exact absurd ⟨op, h, rfl, old, registers⟩ fresh
      · have none_ : newHandles f.backend after = [] := by
          rw [newHandles, silent, List.drop_length, List.filterMap_nil]
        rw [none_, List.append_nil]
        exact ⟨same ▸ table, by rw [same]; exact own⟩
  | close h =>
      obtain ⟨held, stepped⟩ := Option.ite_none_right_eq_some.mp taken
      obtain rfl := Option.some.inj stepped
      refine ⟨table, fun h' member => own h' ?_⟩
      simp only [List.mem_append, List.mem_cons] at member ⊢
      rcases member with alive | rfl | queued
      · exact .inl (List.mem_of_mem_erase alive)
      · exact .inl held
      · exact .inr queued
  | lose h =>
      obtain ⟨-, stepped⟩ := Option.ite_none_right_eq_some.mp taken
      obtain rfl := Option.some.inj stepped
      refine ⟨table, fun h' member => own h' ?_⟩
      simp only [List.mem_append] at member ⊢
      exact member.imp_left List.mem_of_mem_erase
  | deliver h =>
      obtain ⟨-, stepped⟩ := Option.ite_none_right_eq_some.mp taken
      obtain rfl := Option.some.inj stepped
      have step := Backend.apply_step cfg f.backend (.front h.closeMessage)
      refine ⟨step.subscriptionTable table, ?_⟩
      intro h' member c found
      have old : h' ∈ f.handles ++ f.closing := by
        simp only [List.mem_append] at member ⊢
        exact member.imp_right List.mem_of_mem_erase
      rcases step.registered table found with before | ⟨registers, -⟩
      · exact own h' old c before
      · exact absurd registers (Handle.closeMessage_registers h _ _)

/-- Processing the message of a handle leaves every registration with another
    channel in place. -/
theorem deliver_frame (separate : Separate f) {h : Handle} (taken : f.step cfg (.deliver h) = some f') :
    (∀ r unsubReqId c unsub, f.backend.manager.requests.lookup r = some (.subscription unsubReqId c unsub) →
      c ≠ h.sink → f'.backend.manager.requests.lookup r = some (.subscription unsubReqId c unsub)) ∧
    ∀ kind c, f.backend.manager.registered kind = some c → c ≠ h.sink →
      f'.backend.manager.registered kind = some c := by
  obtain ⟨queued, stepped⟩ := Option.ite_none_right_eq_some.mp taken
  obtain rfl := Option.some.inj stepped
  have own := separate.own h (List.mem_append_right _ queued)
  obtain ⟨name, sink⟩ := h
  have step := Backend.apply_step cfg f.backend (.front (Handle.closeMessage ⟨name, sink⟩))
  dsimp only at own ⊢
  generalize (f.backend.apply cfg (.front (Handle.closeMessage ⟨name, sink⟩))).1 = out at step
  generalize (f.backend.apply cfg (.front (Handle.closeMessage ⟨name, sink⟩))).2 = after at *
  cases name with
  | method name =>
      cases step
      refine ⟨fun _ _ _ _ found _ => found, ?_⟩
      intro kind c found other
      cases kind with
      | subscription s => exact found
      | method another =>
          have different : another ≠ name := by
            rintro rfl
            exact other (own c found)
          simpa only [RequestManager.registered, RequestManager.removeNotificationHandler,
            Finmap.lookup_erase_ne different] using found
  | subscription id =>
      cases step with
      | closedEarlier => exact ⟨fun _ _ _ _ found _ => found, fun _ _ found _ => found⟩
      | unsubscribe known active =>
          have mine := own _ (RequestManager.registered_subscription.mpr ⟨_, _, _, known, active⟩)
          refine ⟨by grind, ?_⟩
          intro kind c found other
          cases kind with
          | method another => exact found
          | subscription s =>
              obtain ⟨r, unsubReqId, unsub, listed, entry⟩ :=
                RequestManager.registered_subscription.mp found
              refine RequestManager.registered_subscription.mpr ⟨r, unsubReqId, unsub, ?_, ?_⟩
              all_goals grind

/-- In every run in which no name is registered while an earlier handle for it
    is alive or closing, closing a handle removes nothing but its own
    registration. -/
theorem close_removes_own {ts f} (run : Run (step cfg) .new ts f)
    (separate : ∀ t ∈ ts, ¬ Reregisters t) :
    ∀ t ∈ ts, ∀ h, t.action = .deliver h →
      (∀ r unsubReqId c unsub,
        t.before.backend.manager.requests.lookup r = some (.subscription unsubReqId c unsub) →
          c ≠ h.sink →
            t.after.backend.manager.requests.lookup r = some (.subscription unsubReqId c unsub)) ∧
      ∀ kind c, t.before.backend.manager.registered kind = some c → c ≠ h.sink →
        t.after.backend.manager.registered kind = some c := by
  intro t member h delivers
  obtain ⟨pre, post, rfl, earlier, taken, -⟩ := run.split member
  have before : Separate t.before := by
    refine earlier.invariant Separate (fun t => ¬ Reregisters t)
      (fun t member => separate t (List.mem_append_left _ member)) ⟨.new, by simp [new]⟩ ?_
    exact fun t fresh separate taken => step_separate taken separate fresh
  rw [delivers] at taken
  exact deliver_frame before taken

/-! ## An old handle -/

/-- Register a handler for a method. -/
private def listen (name : String) (oneshot : OneshotId) : FrontAction :=
  .event (.critical (.front (.registerNotification { method := name, sendBack := oneshot })))

/-- A plain notification. -/
private def hello : FrontAction := .event (.critical (.plain { method := "hello", params := none }))

/-- Closing one of two handles leaves the registration of the other. -/
theorem close_removes_own_first :
    let cfg : Config := { maxBufferCapacityPerSubscription := 1, overflowChecks := true }
    ∃ ts f t, Run (step cfg) .new ts f ∧ t ∈ ts ∧
      t.action = .deliver { kind := .method "hello", sink := 0 } ∧
      t.before.backend.manager.registered (.method "bye") = some 1 ∧
      t.after.backend.manager.registered (.method "bye") = some 1 := by
  intro cfg
  let h : Handle := { kind := .method "hello", sink := 0 }
  let f₁ := ((Frontend.new.step cfg (listen "hello" 0)).get rfl)
  let f₂ := ((f₁.step cfg (listen "bye" 1)).get rfl)
  let f₃ := ((f₂.step cfg (.close h)).get rfl)
  let f₄ := ((f₃.step cfg (.deliver h)).get rfl)
  have run : Run (step cfg) .new [⟨.new, listen "hello" 0, f₁⟩, ⟨f₁, listen "bye" 1, f₂⟩,
      ⟨f₂, .close h, f₃⟩, ⟨f₃, .deliver h, f₄⟩] f₄ :=
    .snoc (.snoc (.snoc (.snoc .nil rfl) rfl) rfl) rfl
  have separate : ∀ t ∈ [⟨.new, listen "hello" 0, f₁⟩, ⟨f₁, listen "bye" 1, f₂⟩,
      ⟨f₂, .close h, f₃⟩, ⟨f₃, .deliver h, f₄⟩], ¬ Reregisters t := by
    intro t member
    simp only [List.mem_cons, List.not_mem_nil, or_false] at member
    rcases member with rfl | rfl | rfl | rfl <;> rintro ⟨op, other, acts, held, registers⟩
    · cases held
    · obtain rfl : other = h := List.mem_singleton.mp held
      cases acts
      generalize named : h.kind = kind at registers
      cases registers
      exact absurd named (by decide)
    · cases acts
    · cases acts
  have kept := close_removes_own run separate ⟨f₃, .deliver h, f₄⟩ (by simp) h rfl
  exact ⟨_, f₄, ⟨f₃, .deliver h, f₄⟩, run, by simp, rfl, by decide, kept.2 _ 1 (by decide) (by decide)⟩

/-- A lagging handler is removed and the method registered again; dropping the
    first handle then removes the second registration. -/
theorem close_removes_other :
    let cfg : Config := { maxBufferCapacityPerSubscription := 1, overflowChecks := true }
    let h : Handle := { kind := .method "hello", sink := 0 }
    ∃ ts f f', Run (step cfg) .new ts f ∧
      ts.map Transition.action =
        [listen "hello" 0, hello, hello, listen "hello" 1, .close h] ∧
      f.step cfg (.deliver h) = some f' ∧
      f.backend.manager.registered (.method "hello") = some 1 ∧
      f'.backend.manager.registered (.method "hello") = none := by
  intro cfg h
  obtain ⟨ts, f, run, labels, state⟩ := Run.reaches (step cfg) .new
    [listen "hello" 0, hello, hello, listen "hello" 1, .close h]
    (fun f => f.backend.manager.registered (.method "hello") = some 1 ∧ f.closing = [h]) (by decide)
  obtain ⟨current, queued⟩ := of_decide_eq_true state
  have member : h ∈ f.closing := by
    rw [queued]
    exact List.mem_cons_self
  exact ⟨ts, f, _, run, labels, if_pos member, current, Finmap.lookup_erase _ _⟩

end Frontend

end Jsonrpsee
