import Jsonrpsee.Server.Forms

/-! # What goes through a sink

The notifications of a sink stand on the channel of its connection in the order
in which they were sent, and behind the response of `accept`. They carry the
subscription id that the response has told the client.
-/

namespace Jsonrpsee

/-- The text of a subscription notification. -/
abbrev noticeJson (method : String) (subId : SubscriptionId) (member : String) (value : Json) : Json :=
  .obj [("jsonrpc", .str "2.0"), ("method", .str method),
    ("params", .obj [("subscription", subId.toJson), (member, value)])]

theorem fields_noticeJson (method : String) (subId : SubscriptionId) (member : String) (value : Json) :
    (noticeJson method subId member value).fields ["jsonrpc", "method", "params"] =
      some [some (.str "2.0"), some (.str method), some (.obj [("subscription", subId.toJson), (member, value)])] := by
  simp [Json.fields, List.lookup_cons]

theorem notice_result (method : String) (subId : SubscriptionId) (value : Json) :
    SubscriptionResponse.fromJson (noticeJson method subId "result" value) =
      some { method, params := { subscription := subId, result := value } } := by
  have inner : (Json.obj [("subscription", subId.toJson), ("result", value)]).fields ["subscription", "result"] =
      some [some subId.toJson, some value] := by
    simp [Json.fields, List.lookup_cons]
  simp only [SubscriptionResponse.fromJson, Notification.fromJson, fields_noticeJson, SubscriptionPayload.fromJson, inner,
    SubscriptionId.fromJson_toJson, TwoPointZero.fromJson, Json.asStr, Option.bind_eq_bind, Option.bind_some,
    Option.map_some]

theorem notice_error (method : String) (subId : SubscriptionId) (value : Json) :
    SubscriptionError.fromJson (noticeJson method subId "error" value) =
      some { method, params := { subscription := subId, error := value } } := by
  have inner : (Json.obj [("subscription", subId.toJson), ("error", value)]).fields ["subscription", "error"] =
      some [some subId.toJson, some value] := by
    simp [Json.fields, List.lookup_cons]
  simp only [SubscriptionError.fromJson, Notification.fromJson, fields_noticeJson, SubscriptionPayloadError.fromJson, inner,
    SubscriptionId.fromJson_toJson, TwoPointZero.fromJson, Json.asStr, Option.bind_eq_bind, Option.bind_some,
    Option.map_some]

namespace Server

/-- The result that a message brings the subscriber. -/
def itemOf (subId : SubscriptionId) (json : Json) : Option RawValue :=
  (SubscriptionResponse.fromJson json).bind fun response =>
    if response.params.subscription = subId then some response.params.result else none

/-- The result that is given to `SubscriptionSink::send`. -/
def SubscriptionMessage.result (subId : SubscriptionId) : SubscriptionMessage → Option RawValue
  | .needsData result => some result
  | .complete msg => itemOf subId msg.value

/-- A complete message is about the subscription that it is sent for. -/
def SubscriptionMessage.Own (subId : SubscriptionId) : SubscriptionMessage → Prop
  | .needsData _ => True
  | .complete msg => ∃ method member value, (member = "result" ∨ member = "error") ∧
      msg = .ofJson (noticeJson method subId member value)

theorem itemOf_result (s : SubscriptionId) (method : String) (subId : SubscriptionId) (value : Json) :
    itemOf s (noticeJson method subId "result" value) = if subId = s then some value else none := by
  rw [itemOf, notice_result, Option.bind_some]

/-- An error notification is no item. -/
theorem response_of_error (method : String) (subId : SubscriptionId) (value : Json) :
    SubscriptionResponse.fromJson (noticeJson method subId "error" value) = none := by
  have inner : (Json.obj [("subscription", subId.toJson), ("error", value)]).fields ["subscription", "result"] =
      some [some subId.toJson, none] := by
    simp [Json.fields, List.lookup_cons]
  simp only [SubscriptionResponse.fromJson, Notification.fromJson, fields_noticeJson, SubscriptionPayload.fromJson, inner,
    TwoPointZero.fromJson, Json.asStr, Option.bind_eq_bind, Option.bind_some, Option.bind_none]

theorem itemOf_error (s : SubscriptionId) (method : String) (subId : SubscriptionId) (value : Json) :
    itemOf s (noticeJson method subId "error" value) = none := by
  rw [itemOf, response_of_error, Option.bind_none]

/-- Another subscriber gets nothing out of a message. -/
theorem itemOf_message {msg : SubscriptionMessage} {subId : SubscriptionId} (own : msg.Own subId) (s : SubscriptionId)
    (method : String) :
    itemOf s (subMessageToJson msg subId method).value = if subId = s then msg.result subId else none := by
  cases msg with
  | needsData result => exact itemOf_result s method subId result
  | complete msg =>
      obtain ⟨method, member, value, either, rfl⟩ := own
      show itemOf s (noticeJson method subId member value) =
        if subId = s then itemOf subId (noticeJson method subId member value) else none
      rcases either with rfl | rfl
      · simp only [itemOf_result, if_true]
      · simp only [itemOf_error, ite_self]

/-- An answer is no notification. -/
theorem itemOf_spoken {json : RawText} (spoken : Spoken json) (s : SubscriptionId) : itemOf s json.value = none := by
  have unread : SubscriptionResponse.fromJson json.value = none := by
    cases spoken with
    | response formed =>
        obtain ⟨⟨jsonrpc, payload, id⟩, -, same⟩ := formed
        rw [same]
        cases jsonrpc <;> cases payload <;>
          simp [RawText.ofJson, Response.toJson, SubscriptionResponse.fromJson, Notification.fromJson, Json.fields,
            List.lookup_cons]
    | @batch rps nonempty formed =>
        obtain ⟨rp, rest, rfl⟩ := List.exists_cons_of_ne_nil nonempty
        obtain ⟨r, -, same⟩ := formed rp List.mem_cons_self
        -- An array of three would be read by position, and a version is no object.
        have version : TwoPointZero.fromJson rp.json.value = none := by
          rw [same]
          rfl
        rcases rest with _ | ⟨second, _ | ⟨third, _ | ⟨fourth, rest⟩⟩⟩
        · simp [arrayOf, SubscriptionResponse.fromJson, Notification.fromJson, Json.fields]
        · simp [arrayOf, SubscriptionResponse.fromJson, Notification.fromJson, Json.fields]
        · simp [arrayOf, SubscriptionResponse.fromJson, Notification.fromJson, Json.fields, version]
        · simp [arrayOf, SubscriptionResponse.fromJson, Notification.fromJson, Json.fields]
  rw [itemOf, unread, Option.bind_none]

/-! ## Behind the response -/

/-- A subscription that has been accepted stays so. -/
theorem Stage.Next.late {response : MethodResponse} {stage stage' : Stage} (next : stage.Next response stage')
    (late : ¬ stage.Early) : ¬ stage'.Early := by
  cases next with
  | refl => exact late
  | clones => exact id
  | release early => exact absurd early late
  | _ => exact absurd trivial late

/-- A sink that has sent has been accepted, and its messages are behind the response
    of `accept`. -/
structure Hub.Led (h : Hub) : Prop where
  late : ∀ {conn n json}, (Origin.sink n, json) ∈ h.outgoing conn →
    n < h.next ∧ ∀ s, h.subs.lookup n = some s → ¬ s.stage.Early
  behind : ∀ {conn n json i}, (h.outgoing conn)[i]? = some (.accept n, json) →
    ∀ message ∈ (h.outgoing conn).take i, message.1 ≠ .sink n

namespace Hub.Led

variable {cfg : ServerConfig} {h h' : Hub} {n : SinkId} {conn : ConnectionId}

theorem new : Hub.Led .new where
  late member := by cases member
  behind found := by cases found

/-- What a sink has sent is there when its response comes. -/
theorem behind_of_grown (led : h.Led) {entry : Origin × RawText}
    (late : ∀ {n json}, (Origin.sink n, json) ∈ h'.outgoing conn → ∀ s, h'.subs.lookup n = some s → ¬ s.stage.Early)
    (grown : h'.outgoing conn = h.outgoing conn ++ [entry])
    (early : ∀ n json, entry = (.accept n, json) → ∃ s, h'.subs.lookup n = some s ∧ s.stage.Early) {json : RawText}
    {i : Nat} (found : (h'.outgoing conn)[i]? = some (.accept n, json)) :
    ∀ message ∈ (h'.outgoing conn).take i, message.1 ≠ .sink n := by
  rcases Nat.lt_or_ge i (h.outgoing conn).length with inside | behind
  · rw [grown, List.getElem?_append_left inside] at found
    rw [grown, List.take_append_of_le_length (Nat.le_of_lt inside)]
    exact led.behind found
  · rw [grown, List.getElem?_append_right behind] at found
    obtain ⟨s, known, pending⟩ := early n json (List.mem_singleton.mp (List.mem_of_getElem? found)).symm
    rintro ⟨origin, text⟩ earlier rfl
    exact late (List.mem_of_mem_take earlier) s known pending

theorem of_move (led : h.Led) (sound : Hub.Sound cfg h) {a : HubAction} (move : Move cfg h a h') : h'.Led := by
  have kept : ∀ {n}, n < h.next → (∀ s, h.subs.lookup n = some s → ¬ s.stage.Early) →
      n < h'.next ∧ ∀ s, h'.subs.lookup n = some s → ¬ s.stage.Early := by
    intro n old late
    refine ⟨Nat.lt_of_lt_of_le old move.next_le, fun s found' => ?_⟩
    obtain ⟨s, stage, found, rfl, next⟩ := move.follows old found'
    exact next.late (late s found)
  have late : ∀ {conn n json}, (Origin.sink n, json) ∈ h'.outgoing conn →
      n < h'.next ∧ ∀ s, h'.subs.lookup n = some s → ¬ s.stage.Early := by
    intro conn n json member
    have before : (Origin.sink n, json) ∈ h.outgoing conn → n < h'.next ∧
        ∀ s, h'.subs.lookup n = some s → ¬ s.stage.Early := fun sent => kept (led.late sent).1 (led.late sent).2
    rcases move.outgoing conn with same | ⟨m, s, origin, text, acts, known, here, grown, cases⟩
    · exact before (same ▸ member)
    · rw [grown] at member
      rcases List.mem_append.mp member with earlier | last
      · exact before earlier
      · cases List.mem_singleton.mp last
        rcases cases with ⟨other, -⟩ | other | ⟨own, up, -⟩
        · cases other
        · cases other
        · cases own
          -- Only sinks with an entry in the table may send.
          rw [isClosed, Bool.or_eq_false_iff, Bool.not_eq_false', Bool.not_eq_false'] at up
          obtain ⟨s₁, handles, leaving, found₁, -, -, stage, -⟩ := sound.table (of_decide_eq_true up.2)
          refine kept (move.sink_lt sound acts) fun s₂ found₂ => ?_
          obtain rfl := Option.some.inj (found₁.symm.trans found₂)
          rw [stage]
          exact id
  refine ⟨late, ?_⟩
  intro conn n json i found
  rcases move.outgoing conn with same | ⟨m, s, origin, text, acts, known, here, grown, cases⟩
  · rw [same] at found ⊢
    exact led.behind found
  · refine led.behind_of_grown (fun sent => (late sent).2) grown ?_ found
    rintro n json ⟨⟩
    rcases cases with ⟨own, -, after⟩ | other | ⟨other, -⟩
    · cases own
      exact ⟨_, after, trivial⟩
    · cases other
    · cases other

/-- A task says something. -/
theorem push_task (led : h.Led) (conn : ConnectionId) (t : Nat) (json : RawText) : (h.push conn (.task t) json).Led := by
  have late : ∀ {conn' n text}, (Origin.sink n, text) ∈ (h.push conn (.task t) json).outgoing conn' →
      n < (h.push conn (.task t) json).next ∧
        ∀ s, (h.push conn (.task t) json).subs.lookup n = some s → ¬ s.stage.Early := by
    intro conn' n text member
    rw [push_subs, push_next]
    rw [outgoing_push] at member
    rcases List.mem_append.mp member with earlier | last
    · exact led.late earlier
    · split at last
      · cases List.mem_singleton.mp last
      · cases last
  refine ⟨late, ?_⟩
  intro conn' n text i found
  have grown := h.outgoing_push conn (.task t) json conn'
  split at grown
  · exact led.behind_of_grown (fun sent => (late sent).2) grown (by rintro n text ⟨⟩) found
  · rw [List.append_nil] at grown
    rw [grown] at found ⊢
    exact led.behind found

end Hub.Led

namespace Serving

variable {service : Service} {w w' : Serving} {ts : List (Transition Serving ServingAction)} {conn : ConnectionId}
  {n : SinkId}

/-- What a step does to the hub. -/
inductive Stirs (service : Service) (w : Serving) (a : ServingAction) : Hub → Prop where
  | none (other : ∀ c, a ≠ .hub c) : Stirs service w a w.hub
  | move {b : HubAction} {hub : Hub} (moved : Hub.Move service.cfg w.hub b hub)
      (own : a = .hub b ∨ b.sink = .none ∧ ∀ c, a ≠ .hub c) : Stirs service w a hub
  | push {conn : ConnectionId} {t : TaskId} {json : RawText} (other : ∀ c, a ≠ .hub c) :
      Stirs service w a (w.hub.push conn (.task t) json)

theorem stirs_of_step {a : ServingAction} (taken : w.step service a = some w') : Stirs service w a w'.hub := by
  cases a with
  | hub a =>
      simp only [step] at taken
      obtain ⟨-, taken⟩ := Option.ite_none_right_eq_some.mp taken
      obtain ⟨hub, moved, rfl⟩ := Option.map_eq_some_iff.mp taken
      exact .move (Hub.move_of_step moved) (.inl rfl)
  | receive conn data extensions =>
      simp only [step] at taken
      obtain ⟨-, taken⟩ := Option.ite_none_right_eq_some.mp taken
      obtain rfl := Option.some.inj taken
      exact .none (by simp)
  | task t a =>
      obtain ⟨task, found, taken⟩ := Option.bind_eq_some_iff.mp taken
      obtain ⟨⟨hub, task'⟩, moved, rfl⟩ := Option.map_eq_some_iff.mp taken
      obtain ⟨-, -, effect⟩ := Task.stepTask_effect moved
      cases effect with
      | none => exact .none (by simp)
      | move moved nobody => exact .move moved (.inr ⟨nobody, by simp⟩)
      | push => exact .push (by simp)

theorem led (run : Run (step service) .new ts w) : w.hub.Led := by
  induction run with
  | nil => exact .new
  | @snoc ts w a w' earlier taken ih =>
      have stirs := stirs_of_step taken
      generalize w'.hub = hub at stirs ⊢
      cases stirs with
      | none => exact ih
      | move moved => exact ih.of_move (balanced earlier).sound moved
      | push => exact ih.push_task _ _ _

/-! ## Who it is for -/

/-- What a step puts on the channel of the connection. -/
inductive Adds (service : Service) (w : Serving) (conn : ConnectionId) (a : ServingAction) :
    List (Origin × RawText) → Prop where
  | nothing (silent : ∀ m msg s, a = .hub (.send m msg) → w.hub.subs.lookup m = some s →
      w.hub.isClosed m s = false → s.uniqSub.connId ≠ conn) : Adds service w conn a []
  | accept {n : SinkId} {s : Subscription} (found : w.hub.subs.lookup n = some s) (here : s.uniqSub.connId = conn)
      (other : ∀ m msg, a ≠ .hub (.send m msg)) :
      Adds service w conn a [(.accept n, (s.acceptResponse service.cfg).json)]
  | answer {origin : Origin} {json : RawText} (origin_ : ∀ n, origin ≠ .accept n ∧ origin ≠ .sink n)
      (other : ∀ m msg, a ≠ .hub (.send m msg)) : Adds service w conn a [(origin, json)]
  | sent {n : SinkId} {s : Subscription} {msg : SubscriptionMessage} (found : w.hub.subs.lookup n = some s)
      (here : s.uniqSub.connId = conn) (up : w.hub.isClosed n s = false) (acts : a = .hub (.send n msg)) :
      Adds service w conn a [(.sink n, subMessageToJson msg s.uniqSub.subId s.notif)]

theorem adds_of_step {a : ServingAction} (taken : w.step service a = some w') (conn : ConnectionId) :
    ∃ more, w'.hub.outgoing conn = w.hub.outgoing conn ++ more ∧ Adds service w conn a more := by
  have stirs := stirs_of_step taken
  generalize w'.hub = hub at stirs ⊢
  cases stirs with
  | none other =>
      refine ⟨[], (List.append_nil _).symm, .nothing ?_⟩
      rintro m msg s rfl
      exact absurd rfl (other _)
  | @move b hub moved own =>
      by_cases sends : ∃ m msg, b = .send m msg
      · obtain ⟨m, msg, rfl⟩ := sends
        obtain rfl := own.resolve_right fun inside => by cases inside.1
        cases moved with
        | @unsent _ s _ found closed =>
            refine ⟨[], (List.append_nil _).symm, .nothing ?_⟩
            rintro m msg s₁ ⟨⟩ found₁ up
            obtain rfl := Option.some.inj (found.symm.trans found₁)
            cases closed.symm.trans up
        | @send _ s _ found up =>
            refine ⟨_, Hub.outgoing_push .., ?_⟩
            split
            · rename_i here
              exact .sent found here.1.symm up rfl
            · rename_i elsewhere
              refine .nothing ?_
              rintro m msg s₁ ⟨⟩ found₁ -
              obtain rfl := Option.some.inj (found.symm.trans found₁)
              rw [Hub.isClosed, Bool.or_eq_false_iff, Bool.not_eq_false'] at up
              exact fun here => elsewhere ⟨here.symm, up.1⟩
      · have other : ∀ m msg, a ≠ .hub (.send m msg) := by
          rintro m msg rfl
          rcases own with same | ⟨-, outside⟩
          · exact sends ⟨m, msg, (ServingAction.hub.inj same).symm⟩
          · exact outside _ rfl
        rcases moved.outgoing conn with same | ⟨n, s, origin, json, -, found, here, grown, cases⟩
        · exact ⟨[], by rw [same, List.append_nil], .nothing fun m msg s acts => absurd acts (other m msg)⟩
        · refine ⟨_, grown, ?_⟩
          rcases cases with ⟨rfl, rfl, -⟩ | rfl | ⟨-, -, msg, acts, -⟩
          · exact .accept found here other
          · exact .answer (by simp) other
          · exact absurd ⟨n, msg, acts⟩ sends
  | @push conn' t json other =>
      refine ⟨_, Hub.outgoing_push .., ?_⟩
      split
      · exact .answer (by simp) fun m msg => other _
      · refine .nothing ?_
        rintro m msg s rfl
        exact absurd rfl (other _)

theorem subs_of_step {a : ServingAction} (taken : w.step service a = some w') {s' : Subscription}
    (old : n < w.hub.next) (found' : w'.hub.subs.lookup n = some s') :
    ∃ s, w.hub.subs.lookup n = some s ∧ s'.uniqSub = s.uniqSub := by
  have stirs := stirs_of_step taken
  generalize w'.hub = hub at stirs found'
  cases stirs with
  | none => exact ⟨s', found', rfl⟩
  | move moved =>
      obtain ⟨s, stage, found, rfl, -⟩ := moved.follows old found'
      exact ⟨s, found, rfl⟩
  | push =>
      rw [Hub.push_subs] at found'
      exact ⟨s', found', rfl⟩

/-- The subscriptions that a run has had keep their keys, and have made the responses
    of `accept` and the notifications. -/
structure Named (service : Service) (ts : List (Transition Serving ServingAction)) (w : Serving) : Prop where
  kept : ∀ t ∈ ts, ∀ {n s}, t.before.hub.subs.lookup n = some s →
    n < w.hub.next ∧ ∀ s', w.hub.subs.lookup n = some s' → s'.uniqSub = s.uniqSub
  same : ∀ t ∈ ts, ∀ u ∈ ts, ∀ {n s s'}, t.before.hub.subs.lookup n = some s →
    u.before.hub.subs.lookup n = some s' → s'.uniqSub = s.uniqSub
  accepted : ∀ {conn n json}, (Origin.accept n, json) ∈ w.hub.outgoing conn → ∃ t ∈ ts, ∃ s,
    t.before.hub.subs.lookup n = some s ∧ s.uniqSub.connId = conn ∧ json = (s.acceptResponse service.cfg).json
  sent : ∀ {conn n json}, (Origin.sink n, json) ∈ w.hub.outgoing conn → ∃ t ∈ ts, ∃ s msg,
    t.action = .hub (.send n msg) ∧ t.before.hub.subs.lookup n = some s ∧ s.uniqSub.connId = conn ∧
      json = subMessageToJson msg s.uniqSub.subId s.notif

theorem Named.of_step (named : Named service ts w) (sound : Hub.Sound service.cfg w.hub) {a : ServingAction}
    (taken : w.step service a = some w') : Named service (ts ++ [⟨w, a, w'⟩]) w' := by
  have grows : w.hub.next ≤ w'.hub.next := by
    have stirs := stirs_of_step taken
    generalize w'.hub = hub at stirs ⊢
    cases stirs with
    | none => exact Nat.le_refl _
    | move moved => exact moved.next_le
    | push => exact Nat.le_of_eq (Hub.push_next ..).symm
  have old : ∀ {n s}, w.hub.subs.lookup n = some s → n < w.hub.next := by
    intro n s found
    by_contra late
    cases found.symm.trans (sound.fresh (Nat.le_of_not_lt late))
  refine ⟨?_, ?_, ?_, ?_⟩
  · intro t member n s found
    rcases List.mem_append.mp member with earlier | last
    · obtain ⟨known, same⟩ := named.kept t earlier found
      refine ⟨Nat.lt_of_lt_of_le known grows, fun s' found' => ?_⟩
      obtain ⟨s₁, found₁, key⟩ := subs_of_step taken known found'
      exact key.trans (same s₁ found₁)
    · obtain rfl := List.mem_singleton.mp last
      refine ⟨Nat.lt_of_lt_of_le (old found) grows, fun s' found' => ?_⟩
      obtain ⟨s₁, found₁, key⟩ := subs_of_step taken (old found) found'
      obtain rfl := Option.some.inj (found.symm.trans found₁)
      exact key
  · intro t first u second n s s' found found'
    rcases List.mem_append.mp first with first | last <;> rcases List.mem_append.mp second with second | final
    · exact named.same t first u second found found'
    · obtain rfl := List.mem_singleton.mp final
      exact (named.kept t first found).2 s' found'
    · obtain rfl := List.mem_singleton.mp last
      exact ((named.kept u second found').2 s found).symm
    · obtain rfl := List.mem_singleton.mp last
      obtain rfl := List.mem_singleton.mp final
      obtain rfl := Option.some.inj (found.symm.trans found')
      rfl
  · intro conn n json said
    obtain ⟨more, grown, adds⟩ := adds_of_step taken conn
    rw [grown] at said
    rcases List.mem_append.mp said with earlier | new
    · obtain ⟨t, member, rest⟩ := named.accepted earlier
      exact ⟨t, List.mem_append_left _ member, rest⟩
    · cases adds with
      | nothing => cases new
      | accept found here =>
          cases List.mem_singleton.mp new
          exact ⟨_, List.mem_append_right _ List.mem_cons_self, _, found, here, rfl⟩
      | answer origin_ =>
          cases List.mem_singleton.mp new
          exact absurd rfl (origin_ n).1
      | sent =>
          cases List.mem_singleton.mp new
  · intro conn n json said
    obtain ⟨more, grown, adds⟩ := adds_of_step taken conn
    rw [grown] at said
    rcases List.mem_append.mp said with earlier | new
    · obtain ⟨t, member, rest⟩ := named.sent earlier
      exact ⟨t, List.mem_append_left _ member, rest⟩
    · cases adds with
      | nothing => cases new
      | accept =>
          cases List.mem_singleton.mp new
      | answer origin_ =>
          cases List.mem_singleton.mp new
          exact absurd rfl (origin_ n).2
      | @sent _ s msg found here up acts =>
          cases List.mem_singleton.mp new
          exact ⟨_, List.mem_append_right _ List.mem_cons_self, s, msg, acts, found, here, rfl⟩

theorem named (run : Run (step service) .new ts w) : Named service ts w := by
  induction run with
  | nil => exact ⟨by simp, by simp, fun said => (by cases said), fun said => by cases said⟩
  | snoc earlier taken ih => exact ih.of_step (balanced earlier).sound taken

/-! ## What it gets -/

/-- What a step sends to the subscriber of the sink. -/
def resultThrough (conn : ConnectionId) (n : SinkId) (t : Transition Serving ServingAction) : Option RawValue :=
  match t.action with
  | .hub (.send m msg) =>
      (t.before.hub.subs.lookup m).bind fun s =>
        if m = n ∧ s.uniqSub.connId = conn ∧ t.before.hub.isClosed m s = false then msg.result s.uniqSub.subId else none
  | .hub _ | .receive _ _ _ | .task _ _ => none

/-- Among the subscriptions of the connection the sink's alone has the id. -/
def IsNamed (conn : ConnectionId) (n : SinkId) (subId : SubscriptionId) (w : Serving) : Prop :=
  ∀ {m s}, w.hub.subs.lookup m = some s → s.uniqSub.connId = conn → (s.uniqSub.subId = subId ↔ m = n)

/-- Complete messages are about the subscription whose sink sends them. -/
def Honest (t : Transition Serving ServingAction) : Prop :=
  ∀ m msg s, t.action = .hub (.send m msg) → t.before.hub.subs.lookup m = some s → msg.Own s.uniqSub.subId

theorem resultThrough_of_other {a : ServingAction} (other : ∀ m msg, a ≠ .hub (.send m msg)) :
    resultThrough conn n ⟨w, a, w'⟩ = none := by
  unfold resultThrough
  dsimp only
  split
  · exact absurd rfl (other _ _)
  all_goals rfl

theorem items_of_adds {subId : SubscriptionId} {a : ServingAction} {more : List (Origin × RawText)}
    (adds : Adds service w conn a more) (named : w.IsNamed conn n subId) (honest : Honest ⟨w, a, w'⟩)
    (spoken : ∀ message ∈ more, message.1.Says message.2) :
    more.filterMap (fun message => itemOf subId message.2.value) = (resultThrough conn n ⟨w, a, w'⟩).toList := by
  have answer : ∀ {origin : Origin} {json : RawText}, (∀ k, origin ≠ .sink k) → origin.Says json →
      itemOf subId json.value = none := by
    intro origin json other spoken
    cases origin with
    | sink k => exact absurd rfl (other k)
    | accept k | reject k | task t => exact itemOf_spoken spoken subId
  cases adds with
  | nothing silent =>
      have none : resultThrough conn n ⟨w, a, w'⟩ = none := by
        unfold resultThrough
        dsimp only
        split
        · rename_i m msg
          cases found : w.hub.subs.lookup m with
          | none => rfl
          | some s =>
              rw [Option.bind_some, if_neg]
              rintro ⟨-, here, up⟩
              exact silent m msg s rfl found up here
        all_goals rfl
      rw [none]
      rfl
  | accept found here other =>
      have unread := answer (by simp) (spoken _ List.mem_cons_self)
      rw [resultThrough_of_other other]
      simp [unread]
  | answer origin_ other =>
      have unread := answer (fun k => (origin_ k).2) (spoken _ List.mem_cons_self)
      rw [resultThrough_of_other other]
      simp [unread]
  | @sent m s msg found here up acts =>
      subst acts
      have item := itemOf_message (honest m msg s rfl found) subId s.notif
      have through : resultThrough conn n ⟨w, .hub (.send m msg), w'⟩ =
          if m = n then msg.result s.uniqSub.subId else none := by
        simp only [resultThrough, found, Option.bind_some, here, up, and_self, and_true]
      rw [through]
      simp only [named found here] at item
      cases value : (if m = n then msg.result s.uniqSub.subId else none) <;> simp [item, value]

/-- What the subscriber can read on the channel is what has been sent to it, in order. -/
theorem items_of_run {subId : SubscriptionId} (run : Run (step service) .new ts w)
    (built : ∀ t ∈ ts, t.action.Built) (named : ∀ t ∈ ts, t.before.IsNamed conn n subId) (honest : ∀ t ∈ ts, Honest t) :
    (w.hub.outgoing conn).filterMap (fun message => itemOf subId message.2.value) =
      ts.filterMap (resultThrough conn n) := by
  induction run with
  | nil => rfl
  | @snoc ts w a w' earlier taken ih =>
      have last : (⟨w, a, w'⟩ : Transition Serving ServingAction) ∈ ts ++ [⟨w, a, w'⟩] :=
        List.mem_append_right _ List.mem_cons_self
      obtain ⟨more, grown, adds⟩ := adds_of_step taken conn
      have spoken : ∀ message ∈ more, message.1.Says message.2 := by
        intro message member
        have said : message ∈ w'.hub.outgoing conn := by
          rw [grown]
          exact List.mem_append_right _ member
        exact (formed (earlier.snoc taken) built).hub.channels said
      rw [grown, List.filterMap_append, List.filterMap_append, items_of_adds adds (named _ last) (honest _ last) spoken,
        ih (fun t member => built t (List.mem_append_left _ member))
          (fun t member => named t (List.mem_append_left _ member))
          (fun t member => honest t (List.mem_append_left _ member))]
      cases sent : resultThrough conn n ⟨w, a, w'⟩ <;> simp [sent]

end Serving

end Server

end Jsonrpsee
