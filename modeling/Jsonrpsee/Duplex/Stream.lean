import Jsonrpsee.Client.Notices
import Jsonrpsee.Duplex.Session
import Jsonrpsee.Server.Responses

/-! # A subscription from end to end

What a handler sends through its sink goes to the channel of the connection,
from there to the client, and into the channel that the subscribe call has
returned.
-/

namespace Jsonrpsee

open Server

/-! ## The client's part as events -/

/-- A text is not read by another part of the client than `read_task`. -/
theorem Client.event_of_step {serde : SerdeJson} {cfg : Config} {c c' : Client} {a : ClientAction}
    (taken : c.step serde cfg a = some c') (other : ∀ raw, a ≠ .receive raw) :
    c'.backend = c.backend ∨
      ∃ e, c.backend.event cfg e = some c'.backend ∧ ∀ s, e.item s = none := by
  cases a with
  | receive raw => exact absurd rfl (other raw)
  | send position =>
      simp only [step] at taken
      split at taken
      · cases taken
      · rename_i msg found
        obtain rfl := Option.some.inj taken
        exact .inr ⟨.critical (.front msg), rfl, fun _ => rfl⟩
  | dropOneshot oneshot =>
      obtain rfl := Option.some.inj taken
      exact .inr ⟨.dropOneshot oneshot, rfl, fun _ => rfl⟩
  | dropReceiver sink =>
      obtain rfl := Option.some.inj taken
      exact .inr ⟨.dropReceiver sink, rfl, fun _ => rfl⟩
  | read sink =>
      obtain ⟨channels, got, rfl⟩ := Option.map_eq_some_iff.mp taken
      exact .inr ⟨.read sink, by simp only [Backend.event, got, Option.map_some], fun _ => rfl⟩
  | subscribeToMethod | closeSubscription | closeMethod =>
      obtain rfl := Option.some.inj taken
      exact .inl rfl
  | request | notification | skipId =>
      simp only [step] at taken
      obtain ⟨-, rfl⟩ := draw_eq_some taken
      exact .inl rfl
  | batchRequest batch =>
      simp only [step] at taken
      split at taken
      · obtain rfl := Option.some.inj taken
        exact .inl rfl
      · obtain ⟨-, rfl⟩ := draw_eq_some taken
        split <;> exact .inl rfl
  | subscribe =>
      simp only [step] at taken
      split at taken
      · obtain rfl := Option.some.inj taken
        exact .inl rfl
      · obtain ⟨-, rfl⟩ := draw_eq_some taken
        exact .inl rfl
  | drawUnsubscribeId position =>
      simp only [step] at taken
      split at taken
      · cases taken
      · obtain ⟨-, rfl⟩ := draw_eq_some taken
        exact .inl rfl

theorem Client.receive_backend {serde : SerdeJson} {cfg : Config} {c c' : Client} {raw : List UInt8}
    (taken : c.step serde cfg (.receive raw) = some c') : c'.backend = (c.backend.handleRecvMessage serde cfg raw).2 := by
  simp only [step] at taken
  split at taken <;> rename_i handled <;> obtain rfl := Option.some.inj taken <;> rw [handled]

/-- The section of a notification that is received alone brings what the object does. -/
theorem Notice.item_single {json : Json} {n : Notice} (read : ofJson json = some n) (s : SubscriptionId) :
    (Event.critical n.single).item s = itemOf s json := by
  unfold ofJson at read
  unfold itemOf
  split at read
  · rename_i response item
    obtain rfl := Option.some.inj read
    rw [item]
    rfl
  · rename_i item
    rw [item]
    split at read
    · obtain ⟨notif, -, rfl⟩ := Option.map_eq_some_iff.mp read
      rfl
    · obtain ⟨notif, -, rfl⟩ := Option.map_eq_some_iff.mp read
      rfl

namespace Duplex

variable {link : Link} {d d' : Duplex}

/-- What has reached the client of a subscription. -/
def obtained (link : Link) (s : SubscriptionId) (d : Duplex) : List RawValue :=
  ((link.messages d).take d.read).filterMap fun message => itemOf s message.2.value

/-- A notification reaches the client when the channel of its subscription has lost
    one and has room again. -/
def Overtakes (link : Link) (s : SubscriptionId) (c : SinkId) (t : Transition Duplex DuplexAction) : Prop :=
  t.action = .down ∧
  (∃ message, (link.messages t.before)[t.before.read]? = some message ∧ (itemOf s message.2.value).isSome) ∧
  ∃ record, t.before.client.backend.channels.sinks.lookup c = some record ∧ record.lagged = true ∧
    record.receiverDropped = false ∧ record.buffer.length < record.capacity

/-- Each message of the server is one event of the client, or none. -/
theorem Matched.event_of_down (matched : Matched link d) {message : Origin × RawText}
    (next : (link.messages d)[d.read]? = some message)
    (reads : link.serde.fromSlice message.2.bytes = .ok message.2.value) {client : Client}
    (taken : d.client.step link.serde link.cfg (.receive message.2.bytes) = some client) :
    (client.backend = d.client.backend ∧ ∀ s, itemOf s message.2.value = none) ∨
      ∃ e, d.client.backend.event link.cfg e = some client.backend ∧ ∀ s, e.item s = itemOf s message.2.value := by
  obtain ⟨us, run, built⟩ := matched.serving
  have spoken := (Serving.formed run built).hub.channels (List.mem_of_getElem? next)
  have after := Client.receive_backend taken
  obtain ⟨origin, json⟩ := message
  rcases spoken.forms with ⟨rp, formed, rfl⟩ | ⟨rps, nonempty, formed, rfl⟩ | notice
  · have unread := itemOf_spoken (.response formed)
    obtain ⟨r, built, same⟩ := formed
    obtain ⟨single, -⟩ := reads_response built same reads
    rw [Backend.recv_single single] at after
    exact .inr ⟨.critical (.single r.reread), congrArg some after.symm, fun s => (unread s).symm⟩
  · have unread := itemOf_spoken (.batch nonempty formed)
    obtain ⟨rs, responses, -⟩ := reads_batch formed reads
    rcases Backend.recv_responses_state responses link.cfg d.client.backend with same | ⟨-, range, -, same⟩
    · exact .inl ⟨after.trans same, unread⟩
    · exact .inr ⟨.critical (.batch rs { range with stop := range.stop + 1 }), congrArg some (after.trans same).symm,
        fun s => (unread s).symm⟩
  · obtain ⟨value, starts, parsed, noResponse, accepted⟩ := reads_notice notice reads
    obtain rfl := Except.ok.inj (reads.symm.trans parsed)
    have isNotice : IsNotice json.value := by
      refine ⟨?_, noResponse, accepted⟩
      obtain ⟨method, subId, member, value, -, rfl⟩ := notice
      exact ⟨_, rfl⟩
    obtain ⟨n, read, -⟩ := Notice.read_of_isNotice isNotice
    rw [Backend.recv_notice ⟨starts, parsed⟩ isNotice read matched.client.balanced.table] at after
    exact .inr ⟨.critical n.single, congrArg some after.symm, fun s => Notice.item_single read s⟩

theorem obtained_down {message : Origin × RawText} (next : (link.messages d)[d.read]? = some message) (client : Client)
    (s : SubscriptionId) : Duplex.obtained link s { d with client, read := d.read + 1 } =
      d.obtained link s ++ (itemOf s message.2.value).toList := by
  have later : (link.messages d).take (d.read + 1) = (link.messages d).take d.read ++ [message] := by
    rw [List.take_add_one, next, Option.toList_some]
  show ((link.messages d).take (d.read + 1)).filterMap _ = _
  rw [later, List.filterMap_append, filterMap_toList]
  rfl

/-- What a step of the link is for a subscription of the client. -/
theorem Matched.events_of_step (matched : Matched link d) {a : DuplexAction} (fair : link.Fair ⟨d, a, d'⟩)
    (taken : link.step d a = some d') (s : SubscriptionId) :
    ∃ us, Run (Backend.event link.cfg) d.client.backend us d'.client.backend ∧
      d'.obtained link s = d.obtained link s ++ received s us ∧
      ∀ u ∈ us, ∀ c, Jsonrpsee.Overtakes s c u → Overtakes link s c ⟨d, a, d'⟩ := by
  have quiet : d'.client.backend = d.client.backend → d'.obtained link s = d.obtained link s →
      ∃ us, Run (Backend.event link.cfg) d.client.backend us d'.client.backend ∧
        d'.obtained link s = d.obtained link s ++ received s us ∧
        ∀ u ∈ us, ∀ c, Jsonrpsee.Overtakes s c u → Overtakes link s c ⟨d, a, d'⟩ := by
    intro same unread
    exact ⟨[], same ▸ .nil, by rw [unread]; exact (List.append_nil _).symm, by simp⟩
  cases Link.move_of_step taken with
  | client front moved =>
      rcases Client.event_of_step moved front with same | ⟨e, fired, silent⟩
      · exact quiet same rfl
      · refine ⟨_, Run.nil.snoc fired, ?_, ?_⟩
        · rw [received_snoc, silent]
          exact (List.append_nil _).symm
        · intro u member c overtakes
          obtain rfl := List.mem_singleton.mp member
          have item := overtakes.1
          dsimp only at item
          rw [silent] at item
          cases item
  | server genuine moved =>
      refine quiet rfl ?_
      unfold obtained
      rw [messages_kept matched.read (Serving.outgoing_prefix moved)]
  | @up extensions frame serving next moved =>
      refine quiet rfl ?_
      have same : Duplex.obtained link s { d with serving, arrived := d.arrived + 1 } =
        Duplex.obtained link s { d with serving } := rfl
      rw [same]
      unfold obtained
      rw [messages_kept matched.read (Serving.outgoing_prefix moved)]
  | @down message client next moved =>
      have one := obtained_down next client s
      rcases matched.event_of_down next (fair.down _ rfl next) moved with ⟨same, unread⟩ | ⟨e, fired, item⟩
      · refine quiet same ?_
        rw [one, unread]
        exact List.append_nil _
      · refine ⟨_, Run.nil.snoc fired, ?_, ?_⟩
        · rw [one, received_snoc, item]
          rfl
        · intro u member c overtakes
          obtain rfl := List.mem_singleton.mp member
          obtain ⟨arrives, -, lost⟩ := overtakes
          exact ⟨rfl, ⟨message, next, item s ▸ arrives⟩, lost⟩

/-- A part of a run, in which the client's part is a run of events. -/
theorem events_of_run {ts : List (Transition Duplex DuplexAction)} (run : Run link.step d ts d') (matched : Matched link d)
    (fair : ∀ t ∈ ts, link.Fair t) (s : SubscriptionId) :
    Matched link d' ∧ ∃ us, Run (Backend.event link.cfg) d.client.backend us d'.client.backend ∧
      d'.obtained link s = d.obtained link s ++ received s us ∧
      ∀ u ∈ us, ∀ c, Jsonrpsee.Overtakes s c u → ∃ t ∈ ts, Overtakes link s c t := by
  induction run with
  | nil => exact ⟨matched, [], .nil, (List.append_nil _).symm, by simp⟩
  | snoc earlier taken ih =>
      obtain ⟨before, us, events, obtained, overtaken⟩ := ih fun t member => fair t (List.mem_append_left _ member)
      have own := fair _ (List.mem_append_right _ List.mem_cons_self)
      obtain ⟨vs, more, gained, late⟩ := before.events_of_step own taken s
      refine ⟨before.of_step own taken, us ++ vs, events.trans more, ?_, ?_⟩
      · rw [gained, obtained, List.append_assoc, received, received, received, List.filterMap_append]
      · intro u member c overtakes
        rcases List.mem_append.mp member with old | new
        · obtain ⟨t, there, here⟩ := overtaken u old c overtakes
          exact ⟨t, List.mem_append_left _ there, here⟩
        · exact ⟨_, List.mem_append_right _ List.mem_cons_self, late u new c overtakes⟩

end Duplex

/-! ## The subscription that is accepted -/

/-- Subscription ids are registered when they are read in a response. -/
theorem Backend.Step.registered_name {cfg : Config} {b after : Backend} {op : Op} {out : Output} {s : SubscriptionId}
    (step : b.Step cfg op out after) (unknown : b.manager.subscriptions.lookup s = none) {r : Id}
    (registered : after.manager.subscriptions.lookup s = some r) :
    ∃ rp json, op = .single rp ∧ rp.trySuccess = .ok json ∧ SubscriptionId.fromJson json = some s := by
  cases step with
  | @activate _ _ _ json subId rp pending success named =>
      have own : s = subId := by grind
      subst own
      exact ⟨rp, json, rfl, success, named⟩
  | _ => exfalso; grind

/-- The response of `accept` is one of two objects. -/
theorem Server.Subscription.acceptResponse_json (cfg : ServerConfig) (sub : Server.Subscription) :
    ∃ r : Response, r.Built ∧ (sub.acceptResponse cfg).json = .ofJson r.toJson ∧
      ∀ result, r.payload = .success result → result = sub.uniqSub.subId.toJson := by
  unfold Server.Subscription.acceptResponse MethodResponse.subscriptionResponse MethodResponse.response
  dsimp only
  split
  · refine ⟨.new (.success sub.uniqSub.subId.toJson) sub.id, ?_, rfl, ?_⟩
    · rintro e ⟨⟩
    · rintro result ⟨⟩
      rfl
  · refine ⟨.new (.error (exceeded (-32008) "Response is too big" cfg.maxSinkResponseSize)) sub.id, ?_, rfl, ?_⟩
    · rintro e ⟨⟩
      exact built_exceeded _ _ (by decide)
    · rintro result ⟨⟩

namespace Duplex

variable {link : Link} {d d' : Duplex} {s : SubscriptionId}

/-- The response of `accept` tells the client the id of its subscription. -/
theorem named_by_accept {sub : Server.Subscription} {origin : Origin}
    (next : (link.messages d)[d.read]? = some (origin, (sub.acceptResponse link.service.cfg).json))
    (fair : link.Fair ⟨d, .down, d'⟩) (taken : link.step d .down = some d')
    (unknown : d.client.backend.manager.subscriptions.lookup s = none) {r : Id}
    (registered : d'.client.backend.manager.subscriptions.lookup s = some r) : sub.uniqSub.subId = s := by
  obtain ⟨response, built, same, named⟩ := Server.Subscription.acceptResponse_json link.service.cfg sub
  have reads := fair.down _ rfl next
  cases Link.move_of_step taken with
  | @down message client next' moved =>
      obtain rfl := Option.some.inj (next.symm.trans next')
      obtain ⟨single, -⟩ := reads_response built same reads
      have after := Client.receive_backend moved
      rw [Backend.recv_single single] at after
      have registered : client.backend.manager.subscriptions.lookup s = some r := registered
      rw [after] at registered
      obtain ⟨rp, json, op, success, name⟩ :=
        (Backend.apply_step link.cfg d.client.backend (.single response.reread)).registered_name unknown registered
      obtain rfl := Op.single.inj op
      cases payload : response.payload with
      | error e => simp [Response.trySuccess, Response.reread, payload, ResponsePayload.reread] at success
      | success result =>
          simp only [Response.trySuccess, Response.reread, payload, ResponsePayload.reread, Except.ok.injEq] at success
          rw [← success, named result payload, SubscriptionId.fromJson_toJson] at name
          exact Option.some.inj name

/-- The id provider gives no id twice on the connection. -/
def Distinct (link : Link) (ts : List (Transition Duplex DuplexAction)) : Prop :=
  ∀ t ∈ ts, ∀ u ∈ ts, ∀ {m k sub sub'}, t.before.serving.hub.subs.lookup m = some sub →
    u.before.serving.hub.subs.lookup k = some sub' → sub.uniqSub.connId = link.conn → sub'.uniqSub.connId = link.conn →
      sub.uniqSub.subId = sub'.uniqSub.subId → m = k

/-- Complete messages are about the subscription whose sink sends them. -/
def Honest (t : Transition Duplex DuplexAction) : Prop :=
  ∀ m msg sub, t.action = .server (.hub (.send m msg)) → t.before.serving.hub.subs.lookup m = some sub →
    msg.Own sub.uniqSub.subId

/-- What a run sends to the subscriber of the sink. -/
def sentThrough (link : Link) (n : Server.SinkId) (ts : List (Transition Duplex DuplexAction)) : List RawValue :=
  (ts.filterMap link.serverStep).filterMap (Serving.resultThrough link.conn n)

section Runs

variable {ts : List (Transition Duplex DuplexAction)} {n : Server.SinkId} {sub : Server.Subscription}

theorem honest_of_trace (honest : ∀ t ∈ ts, Honest t) : ∀ u ∈ link.serverTrace ts, Serving.Honest u := by
  rintro u seen m msg sub action found
  rcases Link.of_serverTrace seen with ⟨start, -⟩ | ⟨t, member, same, acts⟩
  · rw [start] at found
    cases found
  · rw [same] at found
    rcases acts with acts | ⟨data, extensions, acts⟩
    · exact honest t member m msg sub (acts.trans (congrArg _ action)) found
    · cases acts.symm.trans action

/-- A subscription of the connection has its id for itself. -/
theorem isNamed_of_trace (run : Run link.step link.new ts d) (distinct : Distinct link ts)
    {t : Transition Serving ServingAction} (seen : t ∈ link.serverTrace ts) (found : t.before.hub.subs.lookup n = some sub)
    (here : sub.uniqSub.connId = link.conn) :
    ∀ u ∈ link.serverTrace ts, u.before.IsNamed link.conn n sub.uniqSub.subId := by
  intro u seen' m sub' found' here'
  constructor
  · intro same
    rcases Link.of_serverTrace seen with ⟨start, -⟩ | ⟨τ, member, before, -⟩
    · rw [start] at found
      cases found
    · rcases Link.of_serverTrace seen' with ⟨start, -⟩ | ⟨τ', member', before', -⟩
      · rw [start] at found'
        cases found'
      · rw [before] at found
        rw [before'] at found'
        exact distinct τ' member' τ member found' found here' here same
  · rintro rfl
    rw [(Serving.named (Link.server_run run)).same t seen u seen' found found']

theorem items_of_trace (run : Run link.step link.new ts d) (fair : ∀ t ∈ ts, link.Fair t) (honest : ∀ t ∈ ts, Honest t)
    (named : ∀ u ∈ link.serverTrace ts, u.before.IsNamed link.conn n s) :
    (link.messages d).filterMap (fun message => itemOf s message.2.value) = sentThrough link n ts := by
  have built : ∀ u ∈ link.serverTrace ts, u.action.Built := by
    intro u seen
    rcases Link.of_serverTrace seen with ⟨-, action⟩ | ⟨t, member, -, acts | ⟨data, extensions, action⟩⟩
    · rw [action]
      trivial
    · exact (fair t member).built _ acts
    · rw [action]
      trivial
  have items := Serving.items_of_run (Link.server_run run) built named (honest_of_trace honest)
  rw [Link.serverTrace, List.filterMap_cons_none rfl] at items
  exact items

/-- What has reached the client before the response of `accept` is not for the
    subscription. -/
theorem unheard_of_accept (run : Run link.step link.new ts d) (matched : Matched link d) (honest : ∀ t ∈ ts, Honest t)
    (named : ∀ u ∈ link.serverTrace ts, u.before.IsNamed link.conn n s) {json : RawText}
    (next : (link.messages d)[d.read]? = some (.accept n, json)) : d.obtained link s = [] := by
  have serverRun := Link.server_run run
  obtain ⟨us, formedRun, built⟩ := matched.serving
  refine List.filterMap_eq_nil_iff.mpr ?_
  rintro ⟨origin, text⟩ earlier
  have member := List.mem_of_mem_take earlier
  have spoken := (Serving.formed formedRun built).hub.channels member
  cases origin with
  | accept m | reject m | task t => exact itemOf_spoken spoken s
  | sink m =>
      have other : m ≠ n := by
        rintro rfl
        exact (Serving.led serverRun).behind next _ earlier rfl
      obtain ⟨u, seen, sub, msg, action, found, here, rfl⟩ := (Serving.named serverRun).sent member
      have own := honest_of_trace honest u seen m msg sub action found
      rw [itemOf_message own, if_neg fun same => other ((named u seen found here).mp same)]

end Runs

/-- Reading the response of `accept` opens a channel for the subscription alone. -/
theorem Matched.opened (matched : Matched link d) {us : List (Transition Backend Event)}
    (events : Run (Backend.event link.cfg) .new us d.client.backend) (fair : link.Fair ⟨d, .down, d'⟩)
    (taken : link.step d .down = some d') (unknown : d.client.backend.manager.subscriptions.lookup s = none) {r : Id}
    (registered : d'.client.backend.manager.subscriptions.lookup s = some r) {c : SinkId}
    (sink : d'.client.backend.manager.asSubscription r = some c) :
    Owned s c d'.client.backend ∧ ∃ record, Gapless s c [] d'.client.backend record := by
  obtain ⟨table, created⟩ := Backend.run_created events
  cases Link.move_of_step taken with
  | @down message client next moved =>
      have registered : client.backend.manager.subscriptions.lookup s = some r := registered
      rcases matched.event_of_down next (fair.down _ rfl next) moved with ⟨same, -⟩ | ⟨e, fired, -⟩
      · rw [same, unknown] at registered
        cases registered
      · rcases Backend.event_cases fired with ⟨op, -, after⟩ | ⟨-, same, -⟩
        · have step := Backend.apply_step link.cfg d.client.backend op
          rw [← after] at step
          exact owned_of_registered step table created unknown registered sink
        · rw [same, unknown] at registered
          cases registered

/-- What the consumer of a subscription gets, and what still waits for it, is a prefix
    of what the handler has sent through its sink, from its first notification on. While
    nothing has been lost and everything has been read, it is all of it. -/
theorem stream_of_sink {pre ts : List (Transition Duplex DuplexAction)} {later : Duplex} {n : Server.SinkId}
    (before : Run link.step link.new pre d) (taken : link.step d .down = some d') (after : Run link.step d' ts later)
    (fair : ∀ t ∈ pre ++ [⟨d, .down, d'⟩] ++ ts, link.Fair t)
    (honest : ∀ t ∈ pre ++ [⟨d, .down, d'⟩] ++ ts, Honest t)
    (distinct : Distinct link (pre ++ [⟨d, .down, d'⟩] ++ ts)) {json : RawText}
    (next : (link.messages d)[d.read]? = some (.accept n, json))
    (unknown : d.client.backend.manager.subscriptions.lookup s = none) {r : Id}
    (registered : d'.client.backend.manager.subscriptions.lookup s = some r) {c : SinkId}
    (sink : d'.client.backend.manager.asSubscription r = some c) (ordered : ∀ t ∈ ts, ¬ Overtakes link s c t) :
    ∃ record, later.client.backend.channels.sinks.lookup c = some record ∧
      record.content <+: sentThrough link n (pre ++ [⟨d, .down, d'⟩] ++ ts) ∧
      (record.lagged = false → record.receiverDropped = false → later.client.backend.manager.Serving c →
        later.read = (link.messages later).length →
          record.content = sentThrough link n (pre ++ [⟨d, .down, d'⟩] ++ ts)) := by
  have first : ∀ t ∈ pre, t ∈ pre ++ [⟨d, .down, d'⟩] ++ ts := fun t member =>
    List.mem_append_left _ (List.mem_append_left _ member)
  have middle : (⟨d, .down, d'⟩ : Transition Duplex DuplexAction) ∈ pre ++ [⟨d, .down, d'⟩] ++ ts :=
    List.mem_append_left _ (List.mem_append_right _ List.mem_cons_self)
  have last : ∀ t ∈ ts, t ∈ pre ++ [⟨d, .down, d'⟩] ++ ts := fun t member => List.mem_append_right _ member
  have whole : Run link.step link.new (pre ++ [⟨d, .down, d'⟩] ++ ts) later := (before.snoc taken).trans after
  -- The three parts of the run, on the side of the client.
  obtain ⟨matched, us, events, -⟩ := events_of_run before (.new link) (fun t member => fair t (first t member)) s
  have matched' := matched.of_step (fair _ middle) taken
  obtain ⟨owned, record, gapless⟩ := matched.opened events (fair _ middle) taken unknown registered sink
  obtain ⟨matchedLater, vs, later_, gained, overtaken⟩ :=
    events_of_run after matched' (fun t member => fair t (last t member)) s
  obtain ⟨-, record', held⟩ := gapless.run later_ owned fun v member overtakes => by
    obtain ⟨t, there, here⟩ := overtaken v member c overtakes
    exact ordered t there here
  -- The side of the server.
  obtain ⟨t, seen, sub, found, here, rfl⟩ := (Serving.named (Link.server_run before)).accepted (List.mem_of_getElem? next)
  obtain rfl := named_by_accept next (fair _ middle) taken unknown registered
  have inWhole : ∀ u ∈ link.serverTrace pre, u ∈ link.serverTrace (pre ++ [⟨d, .down, d'⟩] ++ ts) := by
    intro u member
    rw [Link.serverTrace, List.filterMap_append, List.filterMap_append, List.append_assoc, ← List.cons_append]
    exact List.mem_append_left _ member
  have named := isNamed_of_trace whole distinct (inWhole t seen) found here
  have items := items_of_trace whole fair honest named
  have nothing : d'.obtained link sub.uniqSub.subId = [] := by
    have earlier := unheard_of_accept before matched (fun t member => honest t (first t member))
      (fun u member => named u (inWhole u member)) next
    have answer := itemOf_spoken (.response (sub.formed_acceptResponse link.service.cfg)) sub.uniqSub.subId
    cases Link.move_of_step taken with
    | @down message client next' moved =>
        obtain rfl := Option.some.inj (next.symm.trans next')
        rw [obtained_down next, earlier, answer]
        rfl
  have arrived : later.obtained link sub.uniqSub.subId = received sub.uniqSub.subId vs := by
    rw [gained, nothing, List.nil_append]
  refine ⟨record', held.found, ?_, fun kept alive serving all => ?_⟩
  · refine held.prefix_.trans ?_
    rw [← arrived, ← items]
    exact (List.take_prefix _ _).filterMap _
  · rw [held.complete kept alive serving, ← arrived, ← items, obtained, all, List.take_length]

/-! ## Two notifications -/

def newsRequest : Request := { id := .number 0, method := "subscribe_hello", params := none }

def news (text : String) : Json := noticeJson "hello" (.num 7) "result" (.str text)

/-- What the server of the run says. -/
def newsTexts : List Json := [(Response.new (.success (.int 7)) (.number 0)).toJson, news "a", news "b"]

/-- A client that knows these texts, and a server with one subscription method. -/
def newsLink : Link where
  serde :=
    { fromSlice := fun raw =>
        match newsTexts.find? fun value => value.bytes = raw with
        | some value => .ok value
        | none => .error "expected value at line 1 column 1"
      toString := Json.render }
  cfg := { maxBufferCapacityPerSubscription := 1, overflowChecks := true }
  idKind := .number
  service := { Serving.hello with serde := .only newsRequest.toJson }
  conn := 0

/-- A client subscribes, and reads what is sent. -/
def newsRun : List DuplexAction :=
  [.client (.subscribe "subscribe_hello" none "unsubscribe_hello"), .client (.drawUnsubscribeId 0), .client (.send 0),
    .up ∅, .server (.task 0 (.call (.payload (.success .null) none) (.num 7))), .server (.hub (.acceptSend 0)),
    .server (.hub (.acceptComplete 0)), .server (.hub (.acceptInsert 0)),
    .server (.hub (.send 0 (.needsData (.str "a")))), .down, .down, .client (.read 0),
    .server (.hub (.send 0 (.needsData (.str "b")))), .down]

/-- A handler that sends results only. -/
theorem honest_of_isPlain {t : Transition Duplex DuplexAction} (plain : isPlain t.action = true) : Honest t := by
  intro m msg sub action found
  rw [action] at plain
  cases msg with
  | complete => cases plain
  | needsData => trivial

/-- There is one sink only. -/
theorem distinct_of_few {ts : List (Transition Duplex DuplexAction)} (run : Run link.step link.new ts d)
    (few : ∀ t ∈ ts, t.before.serving.hub.next ≤ 1) : Distinct link ts := by
  have first : ∀ t ∈ ts, ∀ {m sub}, t.before.serving.hub.subs.lookup m = some sub → m = 0 := by
    intro t member m sub found
    obtain ⟨pre, post, -, before, -⟩ := run.split member
    by_contra other
    have late : t.before.serving.hub.next ≤ m := (few t member).trans (Nat.one_le_iff_ne_zero.mpr other)
    cases found.symm.trans ((Serving.balanced (Link.server_run before)).sound.fresh late)
  intro t member u member' m k sub sub' found found' _ _ _
  exact (first t member found).trans (first u member' found').symm

/-- The test that the client opens its subscription in this step. -/
def opensNews (t : Transition Duplex DuplexAction) : Bool :=
  (t.action matches .down) && (newsLink.messages t.before)[t.before.read]?.any (fun message => message.1 = .accept 0) &&
    t.before.client.backend.manager.subscriptions.lookup (.num 7) = none &&
    t.after.client.backend.manager.subscriptions.lookup (.num 7) = some (.number 0) &&
    t.after.client.backend.manager.asSubscription (.number 0) = some 0

/-- The test that the subscription is open and its consumer keeps up. -/
def keepsUp (d : Duplex) : Bool :=
  (d.client.backend.channels.sinks.lookup 0).all fun record => !record.lagged && !record.receiverDropped

/-- The consumer gets both notifications. -/
theorem stream_of_sink_news :
    ∃ ts d record, Run newsLink.step newsLink.new ts d ∧ ts.map Transition.action = newsRun ∧
      d.client.backend.channels.sinks.lookup 0 = some record ∧ record.content = [.str "a", .str "b"] := by
  obtain ⟨ts, d, run, labels, state⟩ := Run.records newsLink.step newsLink.new newsRun
    (fun ts d => isFair newsLink ts ∧ ts.all (fun t => t.before.serving.hub.next ≤ 1 && keepsUp t.before) ∧
      ts.any opensNews ∧ keepsUp d ∧ d.client.backend.manager.asSubscription (.number 0) = some 0 ∧
      d.read = (newsLink.messages d).length ∧ sentThrough newsLink 0 ts = [.str "a", .str "b"])
    (by decide +kernel)
  obtain ⟨tests, steps, opens, up, active, all, sent⟩ := of_decide_eq_true state
  have few : ∀ t ∈ ts, t.before.serving.hub.next ≤ 1 ∧ keepsUp t.before = true := by
    intro t member
    have test := List.all_eq_true.mp steps t member
    rw [Bool.and_eq_true, decide_eq_true_iff] at test
    exact test
  have honest : ∀ t ∈ ts, Honest t := by
    intro t member
    have test := List.all_eq_true.mp tests t member
    simp only [Bool.and_eq_true] at test
    exact honest_of_isPlain test.1.2
  obtain ⟨t, member, test⟩ := List.any_eq_true.mp opens
  obtain ⟨pre, post, rfl, before, taken, after⟩ := run.split member
  obtain ⟨b, action, b'⟩ := t
  simp only [opensNews, Bool.and_eq_true, decide_eq_true_iff, Option.any_eq_true] at test
  obtain ⟨⟨⟨⟨down, message, next, origin⟩, unknown⟩, registered⟩, sink⟩ := test
  obtain rfl : action = .down := by
    cases action with
    | down => rfl
    | _ => cases down
  obtain ⟨origin', json⟩ := message
  obtain rfl : origin' = .accept 0 := origin
  rw [List.append_cons] at tests honest few sent run labels
  have kept := stream_of_sink before taken after (fair_of_isFair rfl tests) honest
    (distinct_of_few run fun t member => (few t member).1) next unknown registered sink ?_
  · obtain ⟨record, found, -, complete⟩ := kept
    rw [keepsUp, found, Option.all_some, Bool.and_eq_true, Bool.not_eq_true', Bool.not_eq_true'] at up
    obtain ⟨unsubReqId, unsub, entry⟩ := RequestManager.asSubscription_iff.mp active
    exact ⟨_, d, record, run, labels, found, (complete up.1 up.2 ⟨_, _, _, entry⟩ all).trans sent⟩
  · rintro t member ⟨-, -, record, found, lagged, -⟩
    have up := (few t (List.mem_append_right _ member)).2
    rw [keepsUp, found, Option.all_some, lagged] at up
    cases up

end Duplex

end Jsonrpsee
