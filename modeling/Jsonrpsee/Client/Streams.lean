import Jsonrpsee.Client.Events
import Jsonrpsee.Client.Subscriptions

/-! # The items of one subscription

A lagging subscription is closed in two steps: `read_task` drops the item that
does not fit and queues a message, and `send_task` removes the subscription
when it gets to the message. In between the consumer can make room, and the
next notification is delivered behind the gap.
-/

namespace Jsonrpsee

/-- Some active subscription sends into the channel. -/
def RequestManager.Serving (m : RequestManager) (c : SinkId) : Prop :=
  ∃ r unsubReqId unsub, m.requests.lookup r = some (.subscription unsubReqId c unsub)

/-- Every channel in use has been created. -/
structure SinksCreated (b : Backend) : Prop where
  subscription : ∀ {r unsubReqId c unsub},
    b.manager.requests.lookup r = some (.subscription unsubReqId c unsub) → c < b.channels.nextSink
  handler : ∀ {method c}, b.manager.notificationHandlers.lookup method = some c →
    c < b.channels.nextSink

/-- The channel of one registration of a subscription id: if anything sends
    into it, the subscription with that id does. -/
structure Owned (s : SubscriptionId) (c : SinkId) (b : Backend) : Prop where
  table : SubscriptionTable b.manager
  old : c < b.channels.nextSink
  owner : ∀ {r unsubReqId unsub},
    b.manager.requests.lookup r = some (.subscription unsubReqId c unsub) →
      b.manager.subscriptions.lookup s = some r
  unhandled : ∀ {method}, b.manager.notificationHandlers.lookup method ≠ some c

namespace Backend

variable {cfg : Config} {b after : Backend} {s : SubscriptionId} {c : SinkId}

/-- Sinks are numbered in the order of their creation. -/
theorem Step.nextSink_le {op out} (step : b.Step cfg op out after) :
    b.channels.nextSink ≤ after.channels.nextSink := by
  cases step <;>
    simp only [Channels.send_nextSink, Channels.trySend_nextSink,
      Channels.subscriptionChannel_nextSink, Nat.le_refl, Nat.le_add_right]

theorem Step.sinksCreated {op out} (step : b.Step cfg op out after) (created : SinksCreated b) :
    SinksCreated after := by
  have later := step.nextSink_le
  obtain ⟨subscription, handler⟩ := created
  constructor
  · intro r unsubReqId c unsub found
    cases step <;> grind
  · intro method c found
    cases step <;> grind

/-- A subscription that sends into an existing channel is an old one. -/
theorem Step.serving_old {op out} (step : b.Step cfg op out after) (old : c < b.channels.nextSink)
    {r unsubReqId unsub}
    (found : after.manager.requests.lookup r = some (.subscription unsubReqId c unsub)) :
    b.manager.requests.lookup r = some (.subscription unsubReqId c unsub) := by
  cases step <;> grind

theorem Step.owned {op out} (step : b.Step cfg op out after) (owned : Owned s c b) :
    Owned s c after := by
  obtain ⟨table, old, owner, unhandled⟩ := owned
  refine ⟨step.subscriptionTable table, Nat.lt_of_lt_of_le old step.nextSink_le, ?_, ?_⟩
  · intro r unsubReqId unsub found
    have before := step.serving_old old found
    have known := owner before
    cases step <;> grind
  · intro method
    cases step <;> grind

/-- Only notifications of a subscription write into an owned channel. -/
theorem Step.sink_frame {op out} (step : b.Step cfg op out after) (owned : Owned s c b)
    (other : ∀ response, op ≠ .notify response) :
    after.channels.sinks.lookup c = b.channels.sinks.lookup c := by
  have created : ∀ {oneshot reply}, (Reply.receiver reply = some b.channels.nextSink ∨
      Reply.receiver reply = none) →
      ((b.channels.subscriptionChannel cfg.maxBufferCapacityPerSubscription).2.send oneshot
        reply).sinks.lookup c = b.channels.sinks.lookup c := by
    intro oneshot reply carried
    rw [Channels.send_lookup, Channels.subscriptionChannel_lookup _ owned.old]
    rcases carried with new | nothing
    · rw [new]
      exact fun same => Nat.ne_of_gt owned.old (Option.some.inj same)
    · rw [nothing]
      exact Option.some_ne_none _ |>.symm
  cases step with
  | batch | notification | request | requestDenied | subscribe | unsubscribe | closedEarlier
  | unregister | release | unexpected | batchUnstorable | batchUnknown | closed | closeIgnored
  | plainUnknown =>
      rfl
  | batchOccupied | requestOccupied | subscribeOccupied | answerCall | subscribeRefused
  | subscribeUnreadable | batchAnswered =>
      exact Channels.send_lookup _ (by simp only [Reply.receiver, ne_eq, reduceCtorEq, not_false_eq_true])
  | register | activate | abandon => exact created (.inl rfl)
  | registerOccupied | subscribeDuplicate => exact created (.inr rfl)
  | notified | notifyLost | notifyUnknown => exact absurd rfl (other _)
  | delivered known | deliveryLost known =>
      refine Channels.trySend_lookup_of_ne _ _ ?_
      rintro rfl
      exact owned.unhandled known

end Backend

/-- The result that an event brings for a subscription id. -/
def Event.item (s : SubscriptionId) : Event → Option RawValue
  | .critical (.notify response) =>
      if response.params.subscription = s then some response.params.result else none
  | _ => none

/-- What an event does to the record of an owned channel. -/
inductive Sink.Moves (s : SubscriptionId) (c : SinkId) (b : Backend) (e : Event) (record : Sink) :
    Sink → Prop where
  | same (idle : (e.item s).isSome → b.manager.Serving c → record.receiverDropped = true) :
      Moves s c b e record record
  | taken (reads : e = .read c) (next : record.buffer = item :: rest) :
      Moves s c b e record { record with buffer := rest, taken := record.taken ++ [item] }
  | closed (drops : e = .dropReceiver c) :
      Moves s c b e record { record with receiverDropped := true }
  | stored (arrives : e.item s = some item) (serving : b.manager.Serving c)
      (alive : record.receiverDropped = false) (room : record.buffer.length < record.capacity) :
      Moves s c b e record { record with buffer := record.buffer ++ [item] }
  | lost (arrives : e.item s = some item) (serving : b.manager.Serving c)
      (alive : record.receiverDropped = false) (full : ¬ record.buffer.length < record.capacity) :
      Moves s c b e record { record with lagged := true }

namespace Backend

variable {cfg : Config} {b after : Backend} {s : SubscriptionId} {c : SinkId} {record : Sink}

private theorem trySend_moves {response : SubscriptionResponse} {r : Id} (owned : Owned s c b)
    (found : b.channels.sinks.lookup c = some record)
    (known : b.manager.subscriptions.lookup response.params.subscription = some r)
    (active : b.manager.asSubscription r = some sink) :
    ∃ record', (b.channels.trySend sink response.params.result).2.sinks.lookup c = some record' ∧
      Sink.Moves s c b (.critical (.notify response)) record record' := by
  obtain ⟨unsubReqId, unsub, entry⟩ := RequestManager.asSubscription_iff.mp active
  by_cases here : sink = c
  · subst here
    have named : response.params.subscription = s := owned.table.injective known (owned.owner entry)
    have serving : b.manager.Serving sink := ⟨r, unsubReqId, unsub, entry⟩
    have arrives : (Event.critical (.notify response)).item s = some response.params.result := by
      simp only [Event.item, named, if_true]
    simp only [Channels.trySend, found]
    cases dropped : record.receiverDropped with
    | true => exact ⟨record, found, .same fun _ _ => dropped⟩
    | false =>
        by_cases room : record.buffer.length < record.capacity
        · refine ⟨_, ?_, .stored arrives serving dropped room⟩
          simp only [room, if_true, Bool.false_eq_true, if_false, Channels.updateSink_lookup, found,
            Option.map_some]
        · refine ⟨_, ?_, .lost arrives serving dropped room⟩
          simp only [room, Bool.false_eq_true, if_false, Channels.updateSink_lookup, found,
            Option.map_some]
  · refine ⟨record, ?_, .same ?_⟩
    · rw [Channels.trySend_lookup_of_ne _ _ (Ne.symm here), found]
    · rintro arrives ⟨r', unsubReqId', unsub', entry'⟩
      -- The id cannot name two subscriptions at once.
      simp only [Event.item] at arrives
      split at arrives
      · rename_i named
        rw [named, owned.owner entry'] at known
        obtain rfl := Option.some.inj known
        rw [entry'] at entry
        cases entry
        exact absurd rfl here
      · cases arrives

/-- Every event moves an owned channel in one of these ways. -/
theorem event_moves {e : Event} (fired : b.event cfg e = some after) (owned : Owned s c b)
    (found : b.channels.sinks.lookup c = some record) :
    ∃ record', after.channels.sinks.lookup c = some record' ∧ Sink.Moves s c b e record record' := by
  have unnoticed : e.item s = none → after.channels.sinks.lookup c = b.channels.sinks.lookup c →
      ∃ record', after.channels.sinks.lookup c = some record' ∧ Sink.Moves s c b e record record' := by
    intro silent unchanged
    refine ⟨record, unchanged.trans found, .same ?_⟩
    rw [silent]
    rintro ⟨⟩
  cases e with
  | critical op =>
      obtain rfl := Option.some.inj fired
      have step := apply_step cfg b op
      by_cases quiet : ∀ response, op ≠ .notify response
      · refine unnoticed ?_ (step.sink_frame owned quiet)
        cases op with
        | notify response => exact absurd rfl (quiet response)
        | front | single | batch | close | plain => rfl
      · obtain ⟨response, rfl⟩ := not_forall_not.mp quiet
        generalize (b.apply cfg (.notify response)).1 = out at step
        generalize (b.apply cfg (.notify response)).2 = after at *
        cases step with
        | notified known active | notifyLost known active =>
            exact trySend_moves owned found known active
        | notifyUnknown gone =>
            refine ⟨record, found, .same ?_⟩
            rintro arrives ⟨r, unsubReqId, unsub, entry⟩
            simp only [Event.item] at arrives
            split at arrives
            · rename_i named
              have missing := gone r (named ▸ owned.owner entry)
              rw [RequestManager.asSubscription_iff.mpr ⟨_, _, entry⟩] at missing
              cases missing
            · cases arrives
  | dropOneshot oneshot =>
      obtain rfl := Option.some.inj fired
      exact unnoticed rfl rfl
  | dropReceiver sink =>
      obtain rfl := Option.some.inj fired
      by_cases here : c = sink
      · subst here
        refine ⟨_, ?_, .closed rfl⟩
        simp only [Channels.dropReceiver, Channels.updateSink_lookup, found, Option.map_some]
      · exact unnoticed rfl (Channels.updateSink_lookup_of_ne _ _ here)
  | read sink =>
      obtain ⟨channels, got, rfl⟩ := Option.map_eq_some_iff.mp fired
      obtain ⟨read, item, rest, present, next, rfl⟩ := Channels.read_cases _ _ got
      by_cases here : c = sink
      · subst here
        obtain rfl := Option.some.inj (found.symm.trans present)
        refine ⟨_, ?_, .taken rfl next⟩
        simp only [Channels.updateSink_lookup, found, Option.map_some]
      · exact unnoticed rfl (Channels.updateSink_lookup_of_ne _ _ here)

theorem event_owned {e : Event} (fired : b.event cfg e = some after) (owned : Owned s c b) :
    Owned s c after := by
  rcases event_cases fired with ⟨op, rfl, rfl⟩ | ⟨-, same, -, next⟩
  · exact (apply_step cfg b op).owned owned
  · obtain ⟨table, old, owner, unhandled⟩ := owned
    exact ⟨same ▸ table, next ▸ old, same ▸ owner, same ▸ unhandled⟩

/-- A channel nothing sends into any more stays like that. -/
theorem event_serving {e : Event} (fired : b.event cfg e = some after) (owned : Owned s c b)
    (serving : after.manager.Serving c) : b.manager.Serving c := by
  rcases event_cases fired with ⟨op, rfl, rfl⟩ | ⟨-, same, -⟩
  · obtain ⟨r, unsubReqId, unsub, found⟩ := serving
    exact ⟨r, unsubReqId, unsub, (apply_step cfg b op).serving_old owned.old found⟩
  · exact same ▸ serving

end Backend

/-- The results received for a subscription id. -/
def received (s : SubscriptionId) (us : List (Transition Backend Event)) : List RawValue :=
  us.filterMap fun t => t.action.item s

/-- A notification arrives when the channel of its subscription has lost an
    item and has room again. -/
def Overtakes (s : SubscriptionId) (c : SinkId) (t : Transition Backend Event) : Prop :=
  (t.action.item s).isSome ∧
  (∃ r, t.before.manager.subscriptions.lookup s = some r ∧
    t.before.manager.asSubscription r = some c) ∧
  ∃ record, t.before.channels.sinks.lookup c = some record ∧ record.lagged = true ∧
    record.receiverDropped = false ∧ record.buffer.length < record.capacity

/-- What has been put into a channel, in order. -/
def Sink.content (record : Sink) : List RawValue := record.taken ++ record.buffer

/-- The channel holds the received results up to the first loss. -/
structure Gapless (s : SubscriptionId) (c : SinkId) (us : List (Transition Backend Event))
    (b : Backend) (record : Sink) : Prop where
  found : b.channels.sinks.lookup c = some record
  prefix_ : record.content <+: received s us
  complete : record.lagged = false → record.receiverDropped = false → b.manager.Serving c →
    record.content = received s us

theorem received_snoc (s : SubscriptionId) (us : List (Transition Backend Event)) (t) :
    received s (us ++ [t]) = received s us ++ (t.action.item s).toList := by
  cases arrives : t.action.item s <;>
    simp only [received, List.filterMap_append, List.filterMap_cons, List.filterMap_nil, arrives,
      Option.toList]

section Stream

variable {cfg : Config} {s : SubscriptionId} {c : SinkId} {us : List (Transition Backend Event)}
  {t : Transition Backend Event} {record record' : Sink}

/-- Storing behind a loss is overtaking. -/
private theorem overtakes (owned : Owned s c t.before)
    (found : t.before.channels.sinks.lookup c = some record)
    (arrives : t.action.item s = some item) (serving : t.before.manager.Serving c)
    (alive : record.receiverDropped = false) (room : record.buffer.length < record.capacity)
    (lagged : record.lagged = true) : Overtakes s c t := by
  obtain ⟨r, unsubReqId, unsub, entry⟩ := serving
  refine ⟨by rw [arrives]; rfl, ⟨r, owned.owner entry, ?_⟩, record, found, lagged, alive, room⟩
  exact RequestManager.asSubscription_iff.mpr ⟨unsubReqId, unsub, entry⟩

/-- One event keeps the channel gapless unless it overtakes a lost item. -/
theorem Gapless.event (gapless : Gapless s c us t.before record) (owned : Owned s c t.before)
    (fired : t.before.event cfg t.action = some t.after) (ordered : ¬ Overtakes s c t) :
    ∃ record', Gapless s c (us ++ [t]) t.after record' := by
  obtain ⟨record', found', moves⟩ := Backend.event_moves fired owned gapless.found
  have grown : record.content <+: received s (us ++ [t]) := by
    rw [received_snoc]
    exact gapless.prefix_.trans (List.prefix_append _ _)
  have back := Backend.event_serving fired owned
  have complete : t.action.item s = none → record.lagged = false → record.receiverDropped = false →
      t.after.manager.Serving c → record.content = received s (us ++ [t]) := by
    intro silent kept alive serving
    rw [received_snoc, silent, Option.toList, List.append_nil]
    exact gapless.complete kept alive (back serving)
  cases moves with
  | same idle =>
      refine ⟨record, found', grown, fun kept alive serving => ?_⟩
      cases arrives : t.action.item s with
      | none => exact complete arrives kept alive serving
      | some item =>
          have dropped := idle (by rw [arrives]; rfl) (back serving)
          rw [alive] at dropped
          cases dropped
  | @taken item rest reads next =>
      have content : record.content = Sink.content
          { record with buffer := rest, taken := record.taken ++ [item] } := by
        simp only [Sink.content, next, List.append_assoc, List.singleton_append]
      exact ⟨_, found', content ▸ grown, fun kept alive serving =>
        content ▸ complete (by rw [reads]; rfl) kept alive serving⟩
  | closed drops => exact ⟨_, found', grown, fun _ alive => by cases alive⟩
  | lost => exact ⟨_, found', grown, fun kept => by cases kept⟩
  | @stored item arrives serving alive room =>
      have kept : record.lagged = false := by
        cases lagged : record.lagged with
        | false => rfl
        | true => exact absurd (overtakes owned gapless.found arrives serving alive room lagged) ordered
      have all : Sink.content { record with buffer := record.buffer ++ [item] } =
          received s (us ++ [t]) := by
        rw [received_snoc, arrives, ← gapless.complete kept alive serving]
        exact (List.append_assoc _ _ _).symm
      exact ⟨_, found', all ▸ List.prefix_refl _, fun _ _ _ => all⟩

/-- Over a run from the registration the channel stays gapless. -/
theorem Gapless.run {b later} (run : Run (Backend.event cfg) b us later) (owned : Owned s c b)
    (start : Gapless s c [] b record) (ordered : ∀ t ∈ us, ¬ Overtakes s c t) :
    Owned s c later ∧ ∃ record', Gapless s c us later record' := by
  induction run with
  | nil => exact ⟨owned, record, start⟩
  | snoc earlier fired ih =>
      obtain ⟨still, before, gapless⟩ := ih fun t member => ordered t (List.mem_append_left _ member)
      exact ⟨Backend.event_owned fired still,
        Gapless.event gapless still fired (ordered _ (List.mem_append_right _ List.mem_cons_self))⟩

/-- After a loss nothing is put into the channel any more. -/
theorem content_of_lagged {b later} (run : Run (Backend.event cfg) b us later) (owned : Owned s c b)
    (found : b.channels.sinks.lookup c = some record) (lagged : record.lagged = true)
    (ordered : ∀ t ∈ us, ¬ Overtakes s c t) :
    ∃ record', later.channels.sinks.lookup c = some record' ∧ record'.content = record.content := by
  have kept := run.invariant (fun b => Owned s c b ∧ ∃ record', b.channels.sinks.lookup c = some record' ∧
      record'.lagged = true ∧ record'.content = record.content) (fun t => ¬ Overtakes s c t) ordered
      ⟨owned, record, found, lagged, rfl⟩ ?_
  · obtain ⟨-, record', found', -, same⟩ := kept
    exact ⟨record', found', same⟩
  · rintro t ordered ⟨owned, before, found, lagged, same⟩ fired
    obtain ⟨after, found', moves⟩ := Backend.event_moves fired owned found
    refine ⟨Backend.event_owned fired owned, after, found', ?_⟩
    cases moves with
    | same | closed => exact ⟨lagged, same⟩
    | lost => exact ⟨rfl, same⟩
    | taken reads next =>
        refine ⟨lagged, ?_⟩
        rw [← same]
        simp only [Sink.content, next, List.append_assoc, List.singleton_append]
    | stored arrives serving alive room =>
        exact absurd (overtakes owned found arrives serving alive room lagged) ordered

/-- Registering a subscription id opens a channel of its own. -/
theorem owned_of_registered {b after : Backend} {op out} (step : b.Step cfg op out after)
    (table : SubscriptionTable b.manager) (created : SinksCreated b) {r : Id}
    (unknown : b.manager.subscriptions.lookup s = none)
    (registered : after.manager.subscriptions.lookup s = some r)
    (sink : after.manager.asSubscription r = some c) :
    Owned s c after ∧ ∃ record, Gapless s c [] after record := by
  obtain ⟨unsubReqId, unsub, entry⟩ := RequestManager.asSubscription_iff.mp sink
  have kept := step.subscriptionTable table
  cases step with
  | @activate _ oneshot _ _ subId rp pending success named fresh waiting =>
      have own : s = subId ∧ r = rp.id := by grind
      obtain ⟨rfl, rfl⟩ := own
      obtain rfl : c = b.channels.nextSink := by grind
      refine ⟨⟨kept, by simp only [Channels.send_nextSink, Channels.subscriptionChannel_nextSink,
        Nat.lt_succ_self], ?_, ?_⟩, ?_⟩
      · intro r unsubReqId unsub found
        by_cases here : r = rp.id
        · rw [here, registered]
        · have earlier := (Finmap.lookup_insert_of_ne _ here).symm.trans found
          exact absurd (created.subscription earlier) (Nat.lt_irrefl _)
      · intro method handled
        exact Nat.lt_irrefl _ (created.handler handled)
      · have opened : ((b.channels.subscriptionChannel cfg.maxBufferCapacityPerSubscription).2.send
            oneshot (.subscription (.ok (b.channels.nextSink, s)))).sinks.lookup b.channels.nextSink =
            some { capacity := cfg.maxBufferCapacityPerSubscription, buffer := [], taken := []
                   lagged := false, receiverDropped := false } := by
          have still : (b.channels.subscriptionChannel cfg.maxBufferCapacityPerSubscription).2.isOpen
              oneshot = true := waiting
          rw [Channels.send_sinks_of_open _ still]
          exact Finmap.lookup_insert _
        exact ⟨_, opened, List.nil_prefix, fun _ _ _ => rfl⟩
  | _ => exfalso; grind

end Stream

namespace Backend

variable {cfg : Config}

/-- The states a run of events can reach. -/
theorem run_created {us b} (run : Run (event cfg) .new us b) :
    SubscriptionTable b.manager ∧ SinksCreated b := by
  refine ⟨run_subscriptionTable run, run.invariant SinksCreated (fun _ => True) (fun _ _ => trivial)
    ⟨fun found => (by cases found), fun found => by cases found⟩ ?_⟩
  rintro t - created fired
  rcases event_cases fired with ⟨op, -, after⟩ | ⟨-, same, -, next⟩
  · rw [after]
    exact (apply_step cfg _ op).sinksCreated created
  · obtain ⟨subscription, handler⟩ := created
    refine ⟨?_, ?_⟩ <;> rw [same, next]
    · exact subscription
    · exact handler

/-- From the registration of a subscription id on, as long as no notification
    overtakes a lost one, the consumer obtains a prefix of what was received,
    and nothing is put into the channel after a loss. -/
theorem stream_prefix {pre b e b'} (run : Run (event cfg) .new pre b)
    (fired : b.event cfg e = some b') {s r c} (unknown : b.manager.subscriptions.lookup s = none)
    (registered : b'.manager.subscriptions.lookup s = some r)
    (sink : b'.manager.asSubscription r = some c) {us later}
    (after : Run (event cfg) b' us later) (ordered : ∀ t ∈ us, ¬ Overtakes s c t) :
    (∃ record, later.channels.sinks.lookup c = some record ∧ record.taken <+: received s us) ∧
    ∀ mid rest middle record, us = mid ++ rest → Run (event cfg) b' mid middle →
      Run (event cfg) middle rest later → middle.channels.sinks.lookup c = some record →
        record.lagged = true → ∃ record', later.channels.sinks.lookup c = some record' ∧
          record'.taken ++ record'.buffer = record.taken ++ record.buffer := by
  obtain ⟨table, created⟩ := run_created run
  have start : Owned s c b' ∧ ∃ record, Gapless s c [] b' record := by
    rcases event_cases fired with ⟨op, -, rfl⟩ | ⟨-, same, -⟩
    · exact owned_of_registered (apply_step cfg b op) table created unknown registered sink
    · rw [same, unknown] at registered
      cases registered
  obtain ⟨owned, record, gapless⟩ := start
  constructor
  · obtain ⟨-, record', held⟩ := gapless.run after owned ordered
    exact ⟨record', held.found, (List.prefix_append _ _).trans held.prefix_⟩
  · rintro mid rest middle record' rfl first second found lagged
    obtain ⟨still, -⟩ := gapless.run first owned
      fun t member => ordered t (List.mem_append_left _ member)
    exact content_of_lagged second still found lagged
      fun t member => ordered t (List.mem_append_right _ member)

/-! ## A consumer that is too slow -/

/-- The confirmation of the exchange's subscribe call. -/
private def accepted : Event :=
  .critical (.single { jsonrpc := some .mk, payload := .success (.int 7), id := .number 0 })

/-- A notification of the exchange's subscription. -/
private def arrival (n : Nat) : Event :=
  .critical (.notify { method := "hello", params := { subscription := .num 7, result := .int n } })

/-- The state in which the exchange's subscribe call is pending. -/
private def subscribing (cfg : Config) : Backend :=
  (Backend.new.apply cfg (.front (Exchange.subscribe 0 1 0))).2

/-- Two notifications for a channel of one item: the second is lost. -/
theorem stream_prefix_full :
    let cfg : Config := { maxBufferCapacityPerSubscription := 1, overflowChecks := true }
    ∃ b b' us later, (subscribing cfg).event cfg accepted = some b ∧
      b.event cfg (arrival 1) = some b' ∧ Run (event cfg) b us later ∧
      us.map Transition.action = [arrival 1, arrival 2] ∧
      ∃ record, later.channels.sinks.lookup 0 = some record ∧
        record.taken <+: received (.num 7) us := by
  intro cfg
  let b := (((subscribing cfg).event cfg accepted).get rfl)
  let b₁ := ((b.event cfg (arrival 1)).get rfl)
  let b₂ := ((b₁.event cfg (arrival 2)).get rfl)
  have pending : Run (event cfg) .new [⟨.new, .critical (.front (Exchange.subscribe 0 1 0)), subscribing cfg⟩]
      (subscribing cfg) := .snoc .nil rfl
  have run : Run (event cfg) b [⟨b, arrival 1, b₁⟩, ⟨b₁, arrival 2, b₂⟩] b₂ := .snoc (.snoc .nil rfl) rfl
  have ordered : ∀ t ∈ [⟨b, arrival 1, b₁⟩, ⟨b₁, arrival 2, b₂⟩], ¬ Overtakes (.num 7) 0 t := by
    have fine : ∀ {state : Backend} {e after},
        (state.channels.sinks.lookup 0).map Sink.lagged = some false → ¬ Overtakes (.num 7) 0 ⟨state, e, after⟩ := by
      rintro state e after kept ⟨-, -, record, found, lagged, -⟩
      rw [found, Option.map_some, lagged] at kept
      cases kept
    intro t member
    rcases List.mem_cons.mp member with rfl | member
    · exact fine rfl
    · rw [List.mem_singleton.mp member]
      exact fine rfl
  have held := stream_prefix pending (rfl : (subscribing cfg).event cfg accepted = some b)
    (s := .num 7) (r := .number 0) (c := 0) (by decide) (by decide) (by decide) run ordered
  exact ⟨b, b₁, _, b₂, rfl, rfl, run, rfl, held.1⟩

/-- The first item is buffered and the second lost; the consumer makes room
    before `send_task` has closed the subscription, and gets the third. -/
theorem stream_gap :
    let cfg : Config := { maxBufferCapacityPerSubscription := 1, overflowChecks := true }
    ∃ b us later, (subscribing cfg).event cfg accepted = some b ∧
      (subscribing cfg).manager.subscriptions.lookup (.num 7) = none ∧
      b.manager.subscriptions.lookup (.num 7) = some (.number 0) ∧
      b.manager.asSubscription (.number 0) = some 0 ∧ Run (event cfg) b us later ∧
      us.map Transition.action = [arrival 1, arrival 2, .read 0, arrival 3, .read 0] ∧
      ∃ record, later.channels.sinks.lookup 0 = some record ∧
        ¬ record.taken <+: received (.num 7) us := by
  intro cfg
  let b := (((subscribing cfg).event cfg accepted).get rfl)
  obtain ⟨us, later, run, labels, state⟩ := Run.reaches (event cfg) b
    [arrival 1, arrival 2, .read 0, arrival 3, .read 0]
    (fun b => (b.channels.sinks.lookup 0).map (fun record => record.taken.map Json.asU64) =
      some [some 1, some 3]) (by decide)
  obtain ⟨record, found, taken⟩ := Option.map_eq_some_iff.mp (of_decide_eq_true state)
  refine ⟨b, us, later, rfl, by decide, by decide, by decide, run, labels, record, found, ?_⟩
  intro isPrefix
  have all : (received (.num 7) us).map Json.asU64 = [some 1, some 2, some 3] := by
    have shape : received (.num 7) us = (us.map Transition.action).filterMap (Event.item (.num 7)) := by
      rw [received, List.filterMap_map]
      rfl
    rw [shape, labels]
    rfl
  have numbers := isPrefix.map Json.asU64
  rw [taken, all] at numbers
  exact absurd numbers (by decide)

end Backend

end Jsonrpsee
