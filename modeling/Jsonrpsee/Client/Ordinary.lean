import Jsonrpsee.Client.World

/-! # Ordinary notifications

The kind of a message is found by trying four deserializers in turn. A plain
notification reaches its handler when the three before it refuse it. They are
meant to accept objects, but a derived one also accepts an array of its fields:
params that are a pair with a subscription id in front are taken for the payload
of a subscription.
-/

namespace Jsonrpsee

namespace Json

/-- A derived struct deserializer does not see the order of the members. -/
theorem fields_perm (names : List String) {members members' : List (String × Json)}
    (same : members.Perm members') : fields names (.obj members) = fields names (.obj members') := by
  have filtered : ∀ name : String, (members.filter (·.1 = name)).Perm (members'.filter (·.1 = name)) :=
    fun name => same.filter _
  simp only [fields, (filtered _).length_eq]
  split
  · rename_i once
    congr 1
    refine List.map_congr_left fun name member => ?_
    have single : (members'.filter (·.1 = name)).length ≤ 1 := by
      simpa using List.all_eq_true.mp once name member
    exact lookup_perm (same.filter _) single
  · rfl

end Json

/-- Params that are not meant for a subscription: an array, or an object that
    does not have both the id and the value of a subscription payload. -/
def Ordinary : Json → Prop
  | .arr _ => True
  | .obj members =>
      ¬ ((members.lookup "subscription").isSome ∧
        ((members.lookup "result").isSome ∨ (members.lookup "error").isSome))
  | _ => False

/-- An array that the deserializer of a subscription payload accepts. -/
def PairWithId (params : Json) : Prop :=
  ∃ subscription value, params = .arr [subscription, value] ∧
    (SubscriptionId.fromJson subscription).isSome

/-- The members of a notification object, in any order. -/
def NotificationMembers (method : String) (params : Json) (members : List (String × Json)) : Prop :=
  members.Perm [("jsonrpc", .str "2.0"), ("method", .str method), ("params", params)]

namespace NotificationMembers

variable {method : String} {params : Json} {members : List (String × Json)}

/-- Such an object has no id. -/
theorem no_response (shape : NotificationMembers method params members) :
    Response.fromJson (.obj members) = none := by
  have missing : members.lookup "id" = none := by
    have none : members.filter (·.1 = "id") = [] := (shape.filter _).eq_nil
    rw [Json.lookup_eq_filter, none]
    rfl
  simp only [Response.fromJson, missing, Option.bind_none]
  split
  · cases Json.optionField TwoPointZero.fromJson (members.lookup "jsonrpc") <;> rfl
  · rfl

/-- A derived notification deserializer reads the params. -/
theorem notification {τ : Type} (shape : NotificationMembers method params members)
    (readParams : Option Json → Option τ) :
    Notification.fromJson readParams (.obj members) = (readParams (some params)).map (⟨method, ·⟩) := by
  rw [Notification.fromJson, Json.fields_perm _ shape]
  cases read : readParams (some params) <;>
    simp [Json.fields, List.lookup_cons, List.filter_cons, TwoPointZero.fromJson, Json.asStr, read]

end NotificationMembers

namespace Ordinary

variable {params : Json}

/-- Only an array gives ordinary params both fields of a payload. -/
theorem pair_of_fields (ordinary : Ordinary params) {name : String} (payload : name = "result" ∨ name = "error")
    {subscription value : Json}
    (read : params.fields ["subscription", name] = some [some subscription, some value]) :
    params = .arr [subscription, value] := by
  unfold Json.fields at read
  split at read
  · rename_i members
    obtain ⟨-, read⟩ := Option.ite_none_right_eq_some.mp read
    simp only [List.map_cons, List.map_nil, Option.some.injEq, List.cons.injEq, and_true] at read
    have both : (members.lookup "subscription").isSome ∧
        ((members.lookup "result").isSome ∨ (members.lookup "error").isSome) := by
      rcases payload with rfl | rfl <;> simp [read.1, read.2]
    exact absurd both ordinary
  · rename_i elems
    obtain ⟨-, read⟩ := Option.ite_none_right_eq_some.mp read
    have mapped : elems.map some = [subscription, value].map some := Option.some.inj read
    rw [List.map_inj_right (fun _ _ => Option.some.inj) |>.mp mapped]
  · cases read

/-- Ordinary params that are no pair with an id are refused as the payload of an
    item. -/
theorem no_item (ordinary : Ordinary params) (noPair : ¬ PairWithId params) :
    SubscriptionPayload.fromJson params = none := by
  unfold SubscriptionPayload.fromJson
  split
  · rename_i subscription result read
    cases named : SubscriptionId.fromJson subscription with
    | none => rfl
    | some subId => exact absurd ⟨_, _, ordinary.pair_of_fields (.inl rfl) read, by rw [named]; rfl⟩ noPair
  · rfl

/-- They are refused as the payload of a close as well. -/
theorem no_close (ordinary : Ordinary params) (noPair : ¬ PairWithId params) :
    SubscriptionPayloadError.fromJson params = none := by
  unfold SubscriptionPayloadError.fromJson
  split
  · rename_i subscription error read
    cases named : SubscriptionId.fromJson subscription with
    | none => rfl
    | some subId => exact absurd ⟨_, _, ordinary.pair_of_fields (.inr rfl) read, by rw [named]; rfl⟩ noPair
  · rfl

/-- `Option<&RawValue>` keeps ordinary params as they are. -/
theorem kept (ordinary : Ordinary params) : Json.optionField some (some params) = some (some params) := by
  cases params with
  | arr | obj => rfl
  | null | bool | int | float | str => exact ordinary.elim

end Ordinary

namespace Backend

variable {serde : SerdeJson} {cfg : Config} {b : Backend} {raw : List UInt8} {method : String} {params : Json}
  {members : List (String × Json)} {sink : SinkId} {record : Sink}

/-- The first three deserializers refuse an ordinary notification without a
    pair. -/
theorem recv_ordinary (brace : raw.find? (fun byte => !isAsciiWhitespace byte) = some 123)
    (parsed : serde.fromSlice raw = .ok (.obj members)) (shape : NotificationMembers method params members)
    (ordinary : Ordinary params) (noPair : ¬ PairWithId params) :
    b.handleRecvMessage serde cfg raw = (.ok [], b.processNotification ⟨method, some params⟩) := by
  simp only [handleRecvMessage, brace, parsed, handleObject, shape.no_response, SubscriptionResponse.fromJson,
    SubscriptionError.fromJson, PlainNotification.fromJson, shape.notification, Option.bind_some,
    ordinary.no_item noPair, ordinary.no_close noPair, ordinary.kept, Option.map_none, Option.map_some]

/-- A pair with an id is an item of the subscription with that id. -/
theorem recv_pair (brace : raw.find? (fun byte => !isAsciiWhitespace byte) = some 123)
    (parsed : serde.fromSlice raw = .ok (.obj members)) {subscription value : Json}
    (shape : NotificationMembers method (.arr [subscription, value]) members) {subId : SubscriptionId}
    (named : SubscriptionId.fromJson subscription = some subId) :
    (b.handleRecvMessage serde cfg raw).2 =
      (b.processSubscriptionResponse ⟨method, ⟨subId, value⟩⟩).2 := by
  have payload : SubscriptionPayload.fromJson (.arr [subscription, value]) = some ⟨subId, value⟩ := by
    simp [SubscriptionPayload.fromJson, Json.fields, named]
  simp only [handleRecvMessage, brace, parsed, handleObject, shape.no_response, SubscriptionResponse.fromJson,
    shape.notification, Option.bind_some, payload, Option.map_some]

/-- An open channel with room takes an item. -/
theorem trySend_room {ch : Channels} (found : ch.sinks.lookup sink = some record)
    (alive : record.receiverDropped = false) (room : record.buffer.length < record.capacity) (msg : RawValue) :
    ch.trySend sink msg =
      (.ok (), ch.updateSink sink fun record => { record with buffer := record.buffer ++ [msg] }) := by
  simp only [Channels.trySend, found, alive, Bool.false_eq_true, if_false, room, if_true]

/-- No value is a component of itself. -/
theorem ne_pair (subscription value : Json) : value ≠ .arr [subscription, value] := by
  intro same
  have size := congrArg sizeOf same
  simp only [Json.arr.sizeOf_spec, List.cons.sizeOf_spec, List.nil.sizeOf_spec] at size
  omega

/-- An item of a subscription, whatever its channel, is not the pair it came in. -/
theorem item_undelivered (found : b.channels.sinks.lookup sink = some record)
    (alive : record.receiverDropped = false) (room : record.buffer.length < record.capacity)
    (subId : SubscriptionId) (subscription value : Json) :
    (b.processSubscriptionResponse ⟨method, ⟨subId, value⟩⟩).2.channels.sinks.lookup sink ≠
      some { record with buffer := record.buffer ++ [.arr [subscription, value]] } := by
  have untouched : some record ≠
      some { record with buffer := record.buffer ++ [.arr [subscription, value]] } := by
    intro same
    have longer := congrArg (fun r => r.buffer.length) (Option.some.inj same)
    simp only [List.length_append, List.length_singleton] at longer
    omega
  have sent : ∀ other, (b.channels.trySend other value).2.sinks.lookup sink ≠
      some { record with buffer := record.buffer ++ [.arr [subscription, value]] } := by
    intro other
    by_cases same : sink = other
    · subst same
      rw [trySend_room found alive room, Channels.updateSink_lookup, found]
      intro delivered
      have buffers := congrArg Sink.buffer (Option.some.inj delivered)
      exact ne_pair subscription value (List.singleton_inj.mp (List.append_cancel_left buffers))
    · rw [Channels.trySend_lookup_of_ne _ _ same, found]
      exact untouched
  rw [← found] at untouched
  unfold processSubscriptionResponse
  dsimp only
  split
  · exact untouched
  · split
    · exact untouched
    · rename_i other _
      have delivered := sent other
      split <;> (rename_i handed; rw [handed] at delivered; exact delivered)

/-- An ordinary notification reaches its handler exactly when its params are no
    pair with a subscription id in front. -/
theorem ordinary_delivered_iff (brace : raw.find? (fun byte => !isAsciiWhitespace byte) = some 123)
    (parsed : serde.fromSlice raw = .ok (.obj members)) (shape : NotificationMembers method params members)
    (ordinary : Ordinary params) (handler : b.manager.notificationHandlers.lookup method = some sink)
    (found : b.channels.sinks.lookup sink = some record) (alive : record.receiverDropped = false)
    (room : record.buffer.length < record.capacity) :
    (b.handleRecvMessage serde cfg raw).2.channels.sinks.lookup sink =
        some { record with buffer := record.buffer ++ [params] } ↔ ¬ PairWithId params := by
  constructor
  · rintro delivered ⟨subscription, value, rfl, named⟩
    obtain ⟨subId, named⟩ := Option.isSome_iff_exists.mp named
    rw [recv_pair brace parsed shape named] at delivered
    exact item_undelivered found alive room subId subscription value delivered
  · intro noPair
    rw [recv_ordinary brace parsed shape ordinary noPair]
    simp only [processNotification, RequestManager.asNotificationHandler, handler,
      trySend_room found alive room, Channels.updateSink_lookup, found, Option.map_some, Option.getD_some]

end Backend

namespace Exchange

/-- The registration of a notification handler. -/
def register (sendBack : OneshotId) : FrontToBack :=
  .registerNotification { method := "hello", sendBack }

/-- A plain notification. -/
def event (params : String × Json) : String × Json :=
  ("\x7b\"jsonrpc\":\"2.0\",\"method\":\"hello\",\"params\":" ++ params.1 ++ "\x7d",
    .obj [("jsonrpc", .str "2.0"), ("method", .str "hello"), ("params", params.2)])

/-- The client after the registration. -/
def listening (cfg : Config) : World :=
  { backend := (Backend.new.handleFrontendMessages cfg (register 0)).2
    handed := (∅ : Table OneshotId Registration).insert 0 (.notification "hello") }

theorem listening_run (serde : SerdeJson) (cfg : Config) :
    Run (World.step serde cfg) .new [⟨.new, .front (register 0), listening cfg⟩] (listening cfg) :=
  .snoc .nil rfl

/-- The channel of the handler. -/
def handlerSink (cfg : Config) : Sink :=
  { capacity := cfg.maxBufferCapacityPerSubscription
    buffer := []
    taken := []
    lagged := false
    receiverDropped := false }

theorem listening_sink (cfg : Config) :
    (listening cfg).backend.channels.sinks.lookup 0 = some (handlerSink cfg) := rfl

end Exchange

/-- A handler that waits for pairs never gets one that starts with a number. -/
theorem ordinary_swallowed :
    let params : String × Json := ("[7,1]", .arr [.int 7, .int 1])
    let text := Exchange.event params
    let serde := Exchange.reader [text]
    let cfg : Config := { maxBufferCapacityPerSubscription := 1, overflowChecks := true }
    ∃ ts w, Run (World.step serde cfg) .new ts w ∧ Ordinary params.2 ∧
      w.backend.manager.notificationHandlers.lookup "hello" = some 0 ∧
      w.backend.channels.sinks.lookup 0 = some (Exchange.handlerSink cfg) ∧
      (w.backend.handleRecvMessage serde cfg (Exchange.bytes text.1)).2.channels.sinks.lookup 0 =
        some (Exchange.handlerSink cfg) := by
  intro params text serde cfg
  refine ⟨_, _, Exchange.listening_run serde cfg, trivial, rfl, Exchange.listening_sink cfg, ?_⟩
  rw [Backend.recv_pair (by decide +kernel) (Exchange.reader_head text []) (.refl _) rfl]
  rfl

/-- Three numbers are delivered. -/
theorem ordinary_delivered_iff_triple :
    let params : String × Json := ("[7,1,2]", .arr [.int 7, .int 1, .int 2])
    let text := Exchange.event params
    let serde := Exchange.reader [text]
    let cfg : Config := { maxBufferCapacityPerSubscription := 1, overflowChecks := true }
    ∃ ts w, Run (World.step serde cfg) .new ts w ∧
      (w.backend.handleRecvMessage serde cfg (Exchange.bytes text.1)).2.channels.sinks.lookup 0 =
        some { Exchange.handlerSink cfg with buffer := [params.2] } := by
  intro params text serde cfg
  refine ⟨_, _, Exchange.listening_run serde cfg, ?_⟩
  refine (Backend.ordinary_delivered_iff (by decide +kernel) (Exchange.reader_head text []) (.refl _) trivial
    rfl (Exchange.listening_sink cfg) rfl (by decide)).mpr ?_
  rintro ⟨subscription, value, pair, -⟩
  simp [params] at pair

end Jsonrpsee
