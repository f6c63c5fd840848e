import Jsonrpsee.Client.Streams

/-! # Notifications, batched and one by one

An array of notifications should do what its elements do one after the other.
In an array the close notification is looked for in the whole text, where it is
never found, so a close goes on to the next deserializer: it is delivered, as a
plain notification, to the handler of its method. The two ways agree when every
close of the list is without effect on its own and every such delivery would be
refused anyway.
-/

namespace Jsonrpsee

/-- The members of a notification before its params are read. -/
def Notification.header (value : Json) : Option (String × Option Json) :=
  match value.fields ["jsonrpc", "method", "params"] with
  | some [some jsonrpc, some method, params] => do
      let _ ← TwoPointZero.fromJson jsonrpc
      let method ← method.asStr
      some (method, params)
  | _ => none

/-- The derived deserializers of notifications differ in the params only. -/
theorem Notification.fromJson_eq {τ : Type} (readParams : Option Json → Option τ) (value : Json) :
    Notification.fromJson readParams value =
      (Notification.header value).bind fun header => (readParams header.2).map (⟨header.1, ·⟩) := by
  unfold Notification.fromJson Notification.header
  generalize value.fields ["jsonrpc", "method", "params"] = read
  split
  · rename_i jsonrpc method params
    show ((TwoPointZero.fromJson jsonrpc).bind fun _ => method.asStr.bind fun name =>
      (readParams params).bind fun params => some (Notification.mk name params)) =
        ((TwoPointZero.fromJson jsonrpc).bind fun _ => method.asStr.bind fun name => some (name, params)).bind _
    cases TwoPointZero.fromJson jsonrpc with
    | none => rfl
    | some version =>
        cases method.asStr with
        | none => rfl
        | some name =>
            cases found : readParams params <;>
              simp only [Option.bind_some, Option.bind_none, found, Option.map_some, Option.map_none]
  · simp only [Option.bind_none]

/-- A received notification, by the first shape that accepts it. -/
inductive Notice where
  | item (response : SubscriptionResponse)
  /-- The close of a subscription, and what the plain deserializer makes of it. -/
  | close (e : SubscriptionError) (notif : PlainNotification)
  | plain (notif : PlainNotification)

/-- A JSON object that is a notification and no response. -/
structure IsNotice (json : Json) : Prop where
  object : ∃ members, json = .obj members
  noResponse : Response.fromJson json = none
  accepted : (SubscriptionResponse.fromJson json).isSome ∨ (SubscriptionError.fromJson json).isSome ∨
    (PlainNotification.fromJson json).isSome

namespace Notice

/-- The reading of an object on its own. -/
def ofJson (json : Json) : Option Notice :=
  match SubscriptionResponse.fromJson json with
  | some response => some (.item response)
  | none =>
    match SubscriptionError.fromJson json with
    | some e => (PlainNotification.fromJson json).map (.close e)
    | none => (PlainNotification.fromJson json).map .plain

/-- The section of a notification that is received alone. -/
def single : Notice → Op
  | .item response => .notify response
  | .close e _ => .close e
  | .plain notif => .plain notif

/-- The section of a notification inside an array. -/
def batched : Notice → Op
  | .item response => .notify response
  | .close _ notif | .plain notif => .plain notif

theorem single_quiet (n : Notice) : n.single.Quiet := by
  cases n <;> trivial

theorem batched_quiet (n : Notice) : n.batched.Quiet := by
  cases n <;> trivial

/-- Only the params of a close are the payload of a close. -/
def Proper : Notice → Prop
  | .item _ => True
  | .close e notif => notif.method = e.method ∧
      (SubscriptionPayloadError.fromJson (notif.params.getD .null)).isSome
  | .plain notif => SubscriptionPayloadError.fromJson (notif.params.getD .null) = none

/-- What a close notification is for the plain deserializer. -/
theorem plain_of_close {json : Json} {e : SubscriptionError} (read : SubscriptionError.fromJson json = some e) :
    ∃ params, PlainNotification.fromJson json = some ⟨e.method, some params⟩ ∧
      SubscriptionPayloadError.fromJson params = some e.params := by
  rw [SubscriptionError.fromJson, Notification.fromJson_eq] at read
  obtain ⟨⟨method, params⟩, header, read⟩ := Option.bind_eq_some_iff.mp read
  obtain ⟨payload, taken, rfl⟩ := Option.map_eq_some_iff.mp read
  obtain ⟨params, rfl, accepted⟩ := Option.bind_eq_some_iff.mp taken
  refine ⟨params, ?_, accepted⟩
  have present : Json.optionField some (some params) = some (some params) := by
    cases params with
    | null => cases accepted
    | bool | int | float | str | arr | obj => rfl
  rw [PlainNotification.fromJson, Notification.fromJson_eq, header]
  simp only [Option.bind_some, present, Option.map_some]

/-- A plain notification that is no close has no params of one. -/
theorem proper_of_plain {json : Json} {notif : PlainNotification}
    (noClose : SubscriptionError.fromJson json = none) (read : PlainNotification.fromJson json = some notif) :
    SubscriptionPayloadError.fromJson (notif.params.getD .null) = none := by
  rw [PlainNotification.fromJson, Notification.fromJson_eq] at read
  obtain ⟨⟨method, params⟩, header, read⟩ := Option.bind_eq_some_iff.mp read
  obtain ⟨value, kept, rfl⟩ := Option.map_eq_some_iff.mp read
  rw [SubscriptionError.fromJson, Notification.fromJson_eq, header, Option.bind_some,
    Option.map_eq_none_iff] at noClose
  cases params with
  | none =>
      obtain rfl := Option.some.inj kept
      rfl
  | some params =>
      cases params with
      | null =>
          obtain rfl := Option.some.inj kept
          rfl
      | bool | int | float | str | arr | obj =>
          obtain rfl := Option.some.inj kept
          exact noClose

/-- Every notification has a reading, and it is a proper one. -/
theorem read_of_isNotice {json : Json} (notice : IsNotice json) : ∃ n, ofJson json = some n ∧ n.Proper := by
  unfold ofJson
  split
  · exact ⟨_, rfl, trivial⟩
  · rename_i noItem
    split
    · rename_i e read
      obtain ⟨params, plain, payload⟩ := plain_of_close read
      rw [plain, Option.map_some]
      exact ⟨_, rfl, rfl, by rw [Option.getD_some, payload]; rfl⟩
    · rename_i noClose
      have accepted := notice.accepted
      rw [noItem, noClose] at accepted
      simp only [Option.isSome_none, Bool.false_eq_true, false_or] at accepted
      obtain ⟨notif, read⟩ := Option.isSome_iff_exists.mp accepted
      rw [read, Option.map_some]
      exact ⟨_, rfl, proper_of_plain noClose read⟩

end Notice

namespace Backend

variable {serde : SerdeJson} {cfg : Config}

/-- Run critical sections one after the other and collect their messages. -/
def applyEach (cfg : Config) : List Op → Backend → List FrontToBack × Backend
  | [], b => ([], b)
  | op :: rest, b =>
      let (messages, last) := applyEach cfg rest (b.apply cfg op).2
      ((b.apply cfg op).1.messages ++ messages, last)

/-- Receive texts one after the other. -/
def handleEach (serde : SerdeJson) (cfg : Config) : List (List UInt8) → Backend →
    Outcome (List FrontToBack) × Backend
  | [], b => (.ok [], b)
  | raw :: rest, b =>
      match b.handleRecvMessage serde cfg raw with
      | (.ok messages, after) =>
          match handleEach serde cfg rest after with
          | (.ok more, last) => (.ok (messages ++ more), last)
          | stopped => stopped
      | stopped => stopped

/-- The text of a JSON object. -/
def Object (serde : SerdeJson) (raw : List UInt8) (json : Json) : Prop :=
  raw.find? (fun byte => !isAsciiWhitespace byte) = some 123 ∧ serde.fromSlice raw = .ok json

/-- A notification that is received alone runs its own section. -/
theorem recv_notice {b : Backend} {raw : List UInt8} {json : Json} {n : Notice} (text : Object serde raw json)
    (notice : IsNotice json) (read : Notice.ofJson json = some n) (table : SubscriptionTable b.manager) :
    b.handleRecvMessage serde cfg raw = (.ok (b.apply cfg n.single).1.messages, (b.apply cfg n.single).2) := by
  simp only [handleRecvMessage, text.1, text.2, handleObject, notice.noResponse]
  unfold Notice.ofJson at read
  cases item : SubscriptionResponse.fromJson json with
  | some response =>
      rw [item] at read
      obtain rfl := Option.some.inj read
      rfl
  | none =>
      rw [item] at read
      cases close : SubscriptionError.fromJson json with
      | some e =>
          rw [close] at read
          obtain ⟨notif, -, rfl⟩ := Option.map_eq_some_iff.mp read
          obtain ⟨after, closed⟩ := Option.ne_none_iff_exists'.mp (closeResponse_isSome table e)
          simp only [closed, Notice.single, apply, Option.getD_some]
          rfl
      | none =>
          rw [close] at read
          obtain ⟨notif, plain, rfl⟩ := Option.map_eq_some_iff.mp read
          rw [plain]
          rfl

/-- One by one, every notification runs its own section. -/
theorem handleEach_notices {raws : List (List UInt8)} {elems : List Json} {b : Backend}
    (texts : List.Forall₂ (Object serde) raws elems) (notices : ∀ json ∈ elems, IsNotice json)
    (table : SubscriptionTable b.manager) :
    b.handleEach serde cfg raws =
      (let ran := b.applyEach cfg ((elems.filterMap Notice.ofJson).map Notice.single)
       (.ok ran.1, ran.2)) := by
  induction texts generalizing b with
  | nil => rfl
  | @cons raw json raws elems text texts ih =>
      obtain ⟨notice, notices⟩ := List.forall_mem_cons.mp notices
      obtain ⟨n, read, -⟩ := Notice.read_of_isNotice notice
      have rest := @ih (b.apply cfg n.single).2 notices (apply_subscriptionTable cfg _ table)
      rw [List.filterMap_cons_some read]
      simp only [handleEach, recv_notice text notice read table, rest, List.map_cons, applyEach]

/-- In an array, every element runs the section of its kind, and a close that of
    a plain notification. -/
theorem handleElements_notices {raw : List UInt8} {whole : Json} {elems : List Json} {st : ArrayState}
    (noClose : SubscriptionError.fromJson whole = none) (notices : ∀ json ∈ elems, IsNotice json) :
    handleElements serde raw whole elems st =
      (let ran := st.backend.applyEach cfg ((elems.filterMap Notice.ofJson).map Notice.batched)
       (.ok (),
        { st with
          backend := ran.2
          messages := st.messages ++ ran.1
          gotNotif := st.gotNotif || !elems.isEmpty })) := by
  induction elems generalizing st with
  | nil => simp [handleElements, applyEach]
  | cons json rest ih =>
      obtain ⟨notice, notices⟩ := List.forall_mem_cons.mp notices
      obtain ⟨n, read, -⟩ := Notice.read_of_isNotice notice
      rw [List.filterMap_cons_some read]
      unfold Notice.ofJson at read
      split at read
      · rename_i response item
        obtain rfl := Option.some.inj read
        simp only [handleElements, notice.noResponse, item]
        rw [ih notices]
        simp [applyEach, Notice.batched, apply, Output.none]
      · rename_i noItem
        obtain ⟨notif, plain, batched⟩ : ∃ notif, PlainNotification.fromJson json = some notif ∧
            n.batched = .plain notif := by
          split at read
          · obtain ⟨notif, plain, rfl⟩ := Option.map_eq_some_iff.mp read
            exact ⟨notif, plain, rfl⟩
          · obtain ⟨notif, plain, rfl⟩ := Option.map_eq_some_iff.mp read
            exact ⟨notif, plain, rfl⟩
        simp only [handleElements, notice.noResponse, noItem, noClose, plain]
        rw [ih notices]
        simp [applyEach, batched, apply, Output.none]

/-- An array of objects is no close notification. -/
theorem noClose_of_objects {elems : List Json} (notices : ∀ json ∈ elems, IsNotice json) :
    SubscriptionError.fromJson (.arr elems) = none := by
  have header : Notification.header (.arr elems) = none := by
    unfold Notification.header
    split
    · rename_i jsonrpc method params read
      obtain ⟨-, read⟩ := Option.ite_none_right_eq_some.mp read
      cases elems with
      | nil => cases read
      | cons first rest =>
          obtain ⟨members, rfl⟩ := (List.forall_mem_cons.mp notices).1.object
          have shape := List.cons.inj (Option.some.inj read)
          obtain rfl := Option.some.inj shape.1
          rfl
    · rfl
  rw [SubscriptionError.fromJson, Notification.fromJson_eq, header, Option.bind_none]

theorem recv_notices {b : Backend} {raw : List UInt8} {elems : List Json}
    (bracket : raw.find? (fun byte => !isAsciiWhitespace byte) = some 91)
    (parsed : serde.fromSlice raw = .ok (.arr elems)) (nonempty : elems ≠ [])
    (notices : ∀ json ∈ elems, IsNotice json) :
    b.handleRecvMessage serde cfg raw =
      (let ran := b.applyEach cfg ((elems.filterMap Notice.ofJson).map Notice.batched)
       (.ok ran.1, ran.2)) := by
  simp only [handleRecvMessage, bracket, parsed]
  rw [@handleElements_notices serde cfg _ _ _ _ (noClose_of_objects notices) notices]
  simp [finishArray, nonempty]

end Backend

/-! ## One handler and its channel -/

namespace Sink

/-- How many items a channel still takes. -/
def room : Option Sink → Nat
  | none => 0
  | some record => if record.receiverDropped then 0 else record.capacity - record.buffer.length

/-- The registration of a handler and the record of its channel, after one more
    notification. -/
def absorb : Option SinkId × Option Sink → RawValue → Option SinkId × Option Sink
  | (none, record), _ => (none, record)
  | (some _, none), _ => (none, none)
  | (some c, some record), value =>
      if record.receiverDropped then (none, some record)
      else if record.buffer.length < record.capacity then
        (some c, some { record with buffer := record.buffer ++ [value] })
      else (none, some { record with lagged := true })

/-- A registered handler after some notifications: they fill its channel, and
    one too many ends the registration. -/
def fill (c : SinkId) (record : Option Sink) (values : List RawValue) : Option SinkId × Option Sink :=
  (if values.length ≤ room record then some c else none,
    record.map fun r =>
      { r with
        buffer := r.buffer ++ values.take (room record)
        lagged := r.lagged || (decide (room record < values.length) && !r.receiverDropped) })

theorem foldl_absorb_none (record : Option Sink) (values : List RawValue) :
    values.foldl absorb (none, record) = (none, record) := by
  induction values with
  | nil => rfl
  | cons value rest ih => exact ih

theorem foldl_absorb (c : SinkId) (record : Option Sink) (values : List RawValue) :
    values.foldl absorb (some c, record) = fill c record values := by
  induction values generalizing record with
  | nil => cases record <;> simp [fill]
  | cons value rest ih =>
      rw [List.foldl_cons]
      cases record with
      | none => simp [absorb, foldl_absorb_none, fill, room]
      | some r =>
          by_cases dropped : r.receiverDropped
          · obtain ⟨_, _, _, _, _⟩ := r
            obtain rfl : _ = true := dropped
            simp [absorb, foldl_absorb_none, fill, room]
          · by_cases fits : r.buffer.length < r.capacity
            · obtain ⟨left, size⟩ : ∃ left, r.capacity - r.buffer.length = left + 1 :=
                Nat.exists_eq_succ_of_ne_zero (by omega)
              have next : r.capacity - (r.buffer.length + 1) = left := by omega
              simp [absorb, dropped, fits, ih, fill, room, size, next]
            · have full : r.capacity - r.buffer.length = 0 := by omega
              simp [absorb, dropped, fits, foldl_absorb_none, fill, room, full]

/-- Two lists leave a handler in the same state when they fill the channel with
    the same items and both or neither are too long. -/
theorem fill_eq_iff {c : SinkId} {record : Option Sink} {us vs : List RawValue} :
    fill c record us = fill c record vs ↔
      (us.length ≤ room record ↔ vs.length ≤ room record) ∧
        us.take (room record) = vs.take (room record) := by
  constructor
  · intro same
    obtain ⟨registered, records⟩ := Prod.mk.inj same
    constructor
    · by_cases fits : us.length ≤ room record <;> by_cases fits' : vs.length ≤ room record <;>
        simp [fits, fits'] at registered ⊢
    · cases record with
      | none => rfl
      | some r => exact List.append_cancel_left (congrArg Sink.buffer (Option.some.inj records))
  · rintro ⟨lengths, items⟩
    have longer : (room record < us.length) = (room record < vs.length) := by
      rw [← Nat.not_le, ← Nat.not_le, lengths]
    simp only [fill, lengths, items, longer]

end Sink

/-- What a section sends to the handler of a method. -/
def Op.posted (method : String) : Op → Option RawValue
  | .plain notif => if notif.method = method then some (notif.params.getD .null) else none
  | _ => none

namespace Notice

/-- A plain notification of a method. -/
def isPlain (method : String) : Notice → Bool
  | .plain notif => notif.method = method
  | .item _ | .close _ _ => false

/-- The number of plain notifications of a method. -/
def plains (method : String) (ns : List Notice) : Nat := ns.countP (isPlain method)

/-- The list goes on with a close notification of the method after `before`. -/
def Closes (method : String) (ns before : List Notice) : Prop :=
  ∃ e notif after, ns = before ++ .close e notif :: after ∧ e.method = method

/-- What the handler of a method is sent, one by one. -/
def alone (method : String) (ns : List Notice) : List RawValue :=
  (ns.map single).filterMap (Op.posted method)

/-- What the handler of a method is sent, in an array. -/
def together (method : String) (ns : List Notice) : List RawValue :=
  (ns.map batched).filterMap (Op.posted method)

section Values

variable {method : String} {ns before : List Notice}

theorem alone_cons (n : Notice) :
    alone method (n :: ns) = (n.single.posted method).toList ++ alone method ns := by
  simp only [alone, List.map_cons, List.filterMap_cons]
  cases n.single.posted method <;> rfl

theorem together_cons (n : Notice) :
    together method (n :: ns) = (n.batched.posted method).toList ++ together method ns := by
  simp only [together, List.map_cons, List.filterMap_cons]
  cases n.batched.posted method <;> rfl

theorem alone_append (ms : List Notice) : alone method (ns ++ ms) = alone method ns ++ alone method ms := by
  simp only [alone, List.map_append, List.filterMap_append]

theorem together_append (ms : List Notice) :
    together method (ns ++ ms) = together method ns ++ together method ms := by
  simp only [together, List.map_append, List.filterMap_append]

theorem plains_cons (n : Notice) :
    plains method (n :: ns) = (n.single.posted method).toList.length + plains method ns := by
  rw [plains, List.countP_cons, Nat.add_comm, plains]
  cases n with
  | item | close => rfl
  | plain notif => by_cases same : notif.method = method <;> simp [isPlain, single, Op.posted, same]

/-- One by one, the handler of a method gets the plain notifications only. -/
theorem length_alone : (alone method ns).length = plains method ns := by
  induction ns with
  | nil => rfl
  | cons n rest ih => rw [alone_cons, plains_cons, List.length_append, ih]

theorem alone_proper (proper : ∀ n ∈ ns, n.Proper) {value : RawValue} (sent : value ∈ alone method ns) :
    SubscriptionPayloadError.fromJson value = none := by
  obtain ⟨op, listed, posted⟩ := List.mem_filterMap.mp sent
  obtain ⟨n, member, rfl⟩ := List.mem_map.mp listed
  cases n with
  | item | close => cases posted
  | plain notif =>
      obtain ⟨-, same⟩ := Option.ite_none_right_eq_some.mp posted
      rw [← Option.some.inj same]
      exact proper _ member

/-- In an array the handler gets at least as many. -/
theorem length_alone_le : (alone method ns).length ≤ (together method ns).length := by
  induction ns with
  | nil => exact Nat.le_refl _
  | cons n rest ih =>
      rw [alone_cons, together_cons, List.length_append, List.length_append]
      refine Nat.add_le_add ?_ ih
      cases n with
      | item | plain => exact Nat.le_refl _
      | close => exact Nat.zero_le _

/-- It gets more when there is a close of the method. -/
theorem length_alone_lt (proper : ∀ n ∈ ns, n.Proper) (closes : Closes method ns before) :
    (alone method ns).length < (together method ns).length := by
  obtain ⟨e, notif, after, rfl, rfl⟩ := closes
  have own : notif.method = e.method := (proper (.close e notif) (by simp)).1
  have first := @length_alone_le e.method before
  have last := @length_alone_le e.method after
  have delivered : (batched (.close e notif)).posted e.method = some (notif.params.getD .null) := if_pos own
  have alone : (single (.close e notif)).posted e.method = none := rfl
  simp only [alone_append, together_append, alone_cons, together_cons, alone, delivered, List.length_append,
    Option.toList_none, Option.toList_some, List.length_nil, List.length_singleton]
  omega

/-- Without a close of the method it gets the same. -/
theorem together_eq_alone (proper : ∀ n ∈ ns, n.Proper) (none : ∀ before, ¬ Closes method ns before) :
    together method ns = alone method ns := by
  simp only [together, alone, List.filterMap_map]
  refine List.filterMap_congr fun n member => ?_
  cases n with
  | item | plain => rfl
  | close e notif =>
      have other : e.method ≠ method := by
        intro same
        obtain ⟨before, after, rfl⟩ := List.append_of_mem member
        exact none before ⟨e, notif, after, rfl, same⟩
      have own : notif.method = e.method := (proper _ member).1
      exact if_neg (own ▸ other)

theorem closes_cons {n : Notice} :
    Closes method (n :: ns) before ↔
      (before = [] ∧ ∃ e notif, n = .close e notif ∧ e.method = method) ∨
        ∃ before', before = n :: before' ∧ Closes method ns before' := by
  cases before with
  | nil =>
      simp only [Closes, List.nil_append, List.cons.injEq, true_and, reduceCtorEq, false_and, exists_false,
        or_false]
      constructor
      · rintro ⟨e, notif, after, ⟨rfl, rfl⟩, same⟩
        exact ⟨e, notif, rfl, same⟩
      · rintro ⟨e, notif, rfl, same⟩
        exact ⟨e, notif, ns, ⟨rfl, rfl⟩, same⟩
  | cons m before =>
      simp only [Closes, List.cons_append, List.cons.injEq, reduceCtorEq, false_and, false_or]
      constructor
      · rintro ⟨e, notif, after, ⟨rfl, rfl⟩, same⟩
        exact ⟨before, ⟨rfl, rfl⟩, e, notif, after, rfl, same⟩
      · rintro ⟨before', ⟨rfl, rfl⟩, e, notif, after, rfl, same⟩
        exact ⟨e, notif, after, ⟨rfl, rfl⟩, same⟩

/-- The first items agree when no close comes before them. -/
theorem take_eq_iff (proper : ∀ n ∈ ns, n.Proper) (k : Nat) :
    (together method ns).take k = (alone method ns).take k ↔
      ∀ before, Closes method ns before → k ≤ plains method before := by
  induction ns generalizing k with
  | nil => simp [together, alone, Closes]
  | cons n rest ih =>
      obtain ⟨first, rested⟩ := List.forall_mem_cons.mp proper
      have later : (∀ before, Closes method (n :: rest) before → k ≤ plains method before) ↔
          ((∃ e notif, n = .close e notif ∧ e.method = method) → k = 0) ∧
            ∀ before, Closes method rest before →
              k ≤ (n.single.posted method).toList.length + plains method before := by
        simp only [closes_cons, ← plains_cons]
        constructor
        · intro all
          refine ⟨fun here => ?_, fun before closes => all _ (.inr ⟨before, rfl, closes⟩)⟩
          simpa [plains] using all [] (.inl ⟨rfl, here⟩)
        · rintro ⟨here, all⟩ before (⟨rfl, close⟩ | ⟨before, rfl, closes⟩)
          · rw [here close]
            exact Nat.zero_le _
          · exact all before closes
      rw [later, alone_cons, together_cons]
      cases n with
      | item response => simpa [single, batched, Op.posted] using ih rested k
      | plain notif =>
          by_cases same : notif.method = method
          · cases k with
            | zero => simp
            | succ k => simpa [single, batched, Op.posted, same, Nat.add_comm 1] using ih rested k
          · simpa [single, batched, Op.posted, same] using ih rested k
      | close e notif =>
          have own := first.1
          by_cases same : e.method = method
          · cases k with
            | zero => simp
            | succ k =>
                -- The first item is the close, and no plain notification equals it.
                have delivered : (batched (.close e notif)).posted method = some (notif.params.getD .null) :=
                  if_pos (own.trans same)
                have different : (notif.params.getD .null :: together method rest).take (k + 1) ≠
                    (alone method rest).take (k + 1) := by
                  intro equal
                  have sent : notif.params.getD .null ∈ (alone method rest).take (k + 1) := by
                    rw [← equal, List.take_succ_cons]
                    exact List.mem_cons_self
                  have unread := alone_proper rested (List.mem_of_mem_take sent)
                  have read := first.2
                  rw [unread] at read
                  cases read
                refine iff_of_false ?_ ?_
                · rw [delivered]
                  exact different
                · rintro ⟨here, -⟩
                  cases here ⟨e, notif, rfl, same⟩
          · simpa [single, batched, Op.posted, own, same] using ih rested k

/-- The handler of a method ends up in the same state when every close of the
    method comes too late for its channel, and the plain notifications alone are
    too many for it. -/
theorem fill_together_iff (proper : ∀ n ∈ ns, n.Proper) (c : SinkId) (record : Option Sink) :
    Sink.fill c record (together method ns) = Sink.fill c record (alone method ns) ↔
      ∀ before, Closes method ns before →
        Sink.room record ≤ plains method before ∧ Sink.room record < plains method ns := by
  rw [Sink.fill_eq_iff, take_eq_iff proper, length_alone]
  constructor
  · rintro ⟨lengths, early⟩ before closes
    refine ⟨early before closes, ?_⟩
    have more := length_alone_lt proper closes
    rw [length_alone] at more
    by_contra fits
    have equal := (take_eq_iff proper (Sink.room record)).mpr early
    have bound := lengths.mpr (Nat.le_of_not_lt fits)
    rw [List.take_of_length_le bound, List.take_of_length_le (length_alone ▸ Nat.le_of_not_lt fits)] at equal
    rw [equal, length_alone] at more
    exact Nat.lt_irrefl _ more
  · intro late
    refine ⟨?_, fun before closes => (late before closes).1⟩
    by_cases some : ∃ before, Closes method ns before
    · obtain ⟨before, closes⟩ := some
      have full := (late before closes).2
      have more := @length_alone_le method ns
      rw [length_alone] at more
      omega
    · rw [together_eq_alone proper (not_exists.mp some), length_alone]

end Values

end Notice

/-! ## The handlers during a list of sections -/

/-- The channels in use: handlers have one each, and no subscription sends into
    it. -/
structure Separated (b : Backend) : Prop where
  created : SinksCreated b
  handlers : ∀ {method method' c}, b.manager.notificationHandlers.lookup method = some c →
    b.manager.notificationHandlers.lookup method' = some c → method = method'
  unserved : ∀ {method c r unsubReqId unsub}, b.manager.notificationHandlers.lookup method = some c →
    b.manager.requests.lookup r ≠ some (.subscription unsubReqId c unsub)

/-- If anything sends into the channel, the handler of the method does. -/
structure HandlerOnly (method : String) (c : SinkId) (b : Backend) : Prop where
  registered : ∀ {c'}, b.manager.notificationHandlers.lookup method = some c' → c' = c
  others : ∀ {method'}, b.manager.notificationHandlers.lookup method' = some c → method' = method
  unserved : ∀ {r unsubReqId unsub}, b.manager.requests.lookup r ≠ some (.subscription unsubReqId c unsub)

theorem Separated.handlerOnly {b : Backend} (separated : Separated b) {method : String} {c : SinkId}
    (known : b.manager.notificationHandlers.lookup method = some c) : HandlerOnly method c b where
  registered found := Option.some.inj (found.symm.trans known)
  others found := separated.handlers found known
  unserved := separated.unserved known

namespace Backend

variable {cfg : Config} {b after : Backend} {op : Op} {out : Output} {method : String} {c : SinkId}

theorem Step.separated (step : b.Step cfg op out after) (separated : Separated b) : Separated after := by
  obtain ⟨created, handlers, unserved⟩ := separated
  refine ⟨step.sinksCreated created, ?_, ?_⟩
  · have old := @created.handler
    cases step <;> grind
  · obtain ⟨subscription, handler⟩ := created
    cases step <;> grind

theorem Step.handlerOnly (step : b.Step cfg op out after) (quiet : op.Quiet) (only : HandlerOnly method c b) :
    HandlerOnly method c after := by
  obtain ⟨registered, others, unserved⟩ := only
  cases step <;> first | exact quiet.elim | (constructor <;> grind)

/-- The registration for a method and the record of a channel. -/
def handlerState (b : Backend) (method : String) (c : SinkId) : Option SinkId × Option Sink :=
  (b.manager.notificationHandlers.lookup method, b.channels.sinks.lookup c)

/-- What a plain notification leaves alone: everything but the handler of its
    method and the channel of that handler. -/
structure PlainFrame (method : String) (b after : Backend) : Prop where
  requests : after.manager.requests = b.manager.requests
  subscriptions : after.manager.subscriptions = b.manager.subscriptions
  batches : after.manager.batches = b.manager.batches
  dropped : after.channels.dropped = b.channels.dropped
  answers : after.channels.answers = b.channels.answers
  nextSink : after.channels.nextSink = b.channels.nextSink
  handlers : ∀ {other}, other ≠ method →
    after.manager.notificationHandlers.lookup other = b.manager.notificationHandlers.lookup other
  kept : ∀ {other c}, after.manager.notificationHandlers.lookup other = some c →
    b.manager.notificationHandlers.lookup other = some c
  sinks : ∀ {c}, b.manager.notificationHandlers.lookup method ≠ some c →
    after.channels.sinks.lookup c = b.channels.sinks.lookup c

theorem trySend_dropped (ch : Channels) (sink : SinkId) (msg : RawValue) :
    (ch.trySend sink msg).2.dropped = ch.dropped := by
  have update : ∀ f, (ch.updateSink sink f).dropped = ch.dropped := by
    intro f
    unfold Channels.updateSink
    split <;> rfl
  unfold Channels.trySend
  split
  · rfl
  · split
    · rfl
    · split <;> exact update _

theorem plain_frame (b : Backend) (notif : PlainNotification) :
    PlainFrame notif.method b (b.processNotification notif) := by
  have sent : ∀ {sink : SinkId}, b.manager.notificationHandlers.lookup notif.method = some sink →
      ∀ {c}, b.manager.notificationHandlers.lookup notif.method ≠ some c →
        (b.channels.trySend sink (notif.params.getD .null)).2.sinks.lookup c = b.channels.sinks.lookup c := by
    intro sink known c other
    refine Channels.trySend_lookup_of_ne _ _ ?_
    rintro rfl
    exact other known
  have erased : ∀ {other c}, (b.manager.notificationHandlers.erase notif.method).lookup other = some c →
      b.manager.notificationHandlers.lookup other = some c := by
    intro other c found
    grind
  generalize after_eq : b.processNotification notif = after
  have step := b.apply_step ⟨0, false⟩ (.plain notif)
  simp only [apply, after_eq] at step
  cases step with
  | delivered known sent' =>
      exact ⟨rfl, rfl, rfl, trySend_dropped .., by simp, by simp, fun _ => rfl, id, sent known⟩
  | deliveryLost known =>
      exact ⟨rfl, rfl, rfl, trySend_dropped .., by simp, by simp, fun other => Finmap.lookup_erase_ne other,
        erased, sent known⟩
  | plainUnknown => exact ⟨rfl, rfl, rfl, rfl, rfl, rfl, fun _ => rfl, id, fun _ => rfl⟩

/-- A plain notification goes to the handler of its method. -/
theorem plain_handlerState (only : HandlerOnly method c b) (notif : PlainNotification) :
    (b.processNotification notif).handlerState method c =
      match Op.posted method (.plain notif) with
      | none => b.handlerState method c
      | some value => Sink.absorb (b.handlerState method c) value := by
  by_cases own : notif.method = method
  · subst own
    cases known : b.manager.notificationHandlers.lookup notif.method with
    | none => simp [processNotification, RequestManager.asNotificationHandler, known, Op.posted, handlerState,
        Sink.absorb]
    | some sink =>
        obtain rfl := only.registered known
        cases found : b.channels.sinks.lookup sink with
        | none =>
            simp [processNotification, RequestManager.asNotificationHandler, known, Op.posted, handlerState,
              Sink.absorb, Channels.trySend, found]
        | some record =>
            by_cases dropped : record.receiverDropped
            · simp [processNotification, RequestManager.asNotificationHandler, known, Op.posted, handlerState,
                Sink.absorb, Channels.trySend, found, dropped]
            · by_cases fits : record.buffer.length < record.capacity <;>
                simp [processNotification, RequestManager.asNotificationHandler, known, Op.posted, handlerState,
                  Sink.absorb, Channels.trySend, found, dropped, fits, Channels.updateSink_lookup]
  · have frame := b.plain_frame notif
    have unposted : Op.posted method (.plain notif) = none := if_neg own
    rw [unposted]
    exact Prod.ext (frame.handlers (Ne.symm own)) (frame.sinks fun known => own (only.others known))

/-- A section of a notification sends the handler what it posts. -/
theorem quiet_handlerState (only : HandlerOnly method c b) (quiet : op.Quiet) :
    (b.apply cfg op).2.handlerState method c =
      match op.posted method with
      | none => b.handlerState method c
      | some value => Sink.absorb (b.handlerState method c) value := by
  have step := b.apply_step cfg op
  cases op with
  | front | single | batch => exact quiet.elim
  | plain notif => exact plain_handlerState only notif
  | close response =>
      generalize (b.apply cfg (.close response)).1 = out at step
      generalize (b.apply cfg (.close response)).2 = after at *
      cases step <;> rfl
  | notify response =>
      generalize (b.apply cfg (.notify response)).1 = out at step
      generalize (b.apply cfg (.notify response)).2 = after at *
      cases step with
      | notifyUnknown => rfl
      | notified known active | notifyLost known active =>
          refine Prod.ext rfl (Channels.trySend_lookup_of_ne _ _ ?_)
          rintro rfl
          obtain ⟨unsubReqId, unsub, serving⟩ := RequestManager.asSubscription_iff.mp active
          exact only.unserved serving

/-- A list of such sections sends it what they post, in order. -/
theorem applyEach_handlerState {ops : List Op} (only : HandlerOnly method c b) (quiet : ∀ op ∈ ops, op.Quiet) :
    (b.applyEach cfg ops).2.handlerState method c =
      (ops.filterMap (Op.posted method)).foldl Sink.absorb (b.handlerState method c) := by
  induction ops generalizing b with
  | nil => rfl
  | cons op rest ih =>
      obtain ⟨first, quiet⟩ := List.forall_mem_cons.mp quiet
      have later := ih ((b.apply_step cfg op).handlerOnly first only) quiet
      rw [applyEach, later, quiet_handlerState only first, List.filterMap_cons]
      cases op.posted method <;> rfl

/-! ## Everything but the handlers -/

/-- Whether an item fits, and the record afterwards, depend on the record only. -/
theorem trySend_congr {ch ch' : Channels} (same : ch.sinks.lookup c = ch'.sinks.lookup c) (msg : RawValue) :
    (ch.trySend c msg).1 = (ch'.trySend c msg).1 ∧
      (ch.trySend c msg).2.sinks.lookup c = (ch'.trySend c msg).2.sinks.lookup c := by
  unfold Channels.trySend
  rw [same]
  cases found : ch'.sinks.lookup c with
  | none => exact ⟨rfl, same⟩
  | some record =>
      rw [found] at same
      by_cases dropped : record.receiverDropped
      · simp [dropped, same, found]
      · by_cases fits : record.buffer.length < record.capacity <;>
          simp [dropped, fits, Channels.updateSink_lookup, same, found]

/-- Two states after the same state `start` that differ at most in the handlers
    of `start` and their channels. -/
structure Alike (start x y : Backend) : Prop where
  requests : x.manager.requests = y.manager.requests
  subscriptions : x.manager.subscriptions = y.manager.subscriptions
  batches : x.manager.batches = y.manager.batches
  dropped : x.channels.dropped = y.channels.dropped
  answers : x.channels.answers = y.channels.answers
  nextSink : x.channels.nextSink = y.channels.nextSink
  left : ∀ {method c}, x.manager.notificationHandlers.lookup method = some c →
    start.manager.notificationHandlers.lookup method = some c
  right : ∀ {method c}, y.manager.notificationHandlers.lookup method = some c →
    start.manager.notificationHandlers.lookup method = some c
  sinks : ∀ {c}, (∀ method, start.manager.notificationHandlers.lookup method ≠ some c) →
    x.channels.sinks.lookup c = y.channels.sinks.lookup c

namespace Alike

variable {start x y : Backend}

theorem refl (b : Backend) : Alike b b b :=
  ⟨rfl, rfl, rfl, rfl, rfl, rfl, id, id, fun _ => rfl⟩

theorem symm (alike : Alike start x y) : Alike start y x :=
  ⟨alike.requests.symm, alike.subscriptions.symm, alike.batches.symm, alike.dropped.symm, alike.answers.symm,
    alike.nextSink.symm, alike.right, alike.left, fun other => (alike.sinks other).symm⟩

/-- A plain notification on one side only. -/
theorem plain_left (alike : Alike start x y) (notif : PlainNotification) :
    Alike start (x.processNotification notif) y := by
  have frame := x.plain_frame notif
  refine ⟨frame.requests.trans alike.requests, frame.subscriptions.trans alike.subscriptions,
    frame.batches.trans alike.batches, frame.dropped.trans alike.dropped, frame.answers.trans alike.answers,
    frame.nextSink.trans alike.nextSink, fun found => alike.left (frame.kept found), alike.right, ?_⟩
  intro c other
  rw [frame.sinks fun known => other _ (alike.left known), alike.sinks other]

theorem plain_right (alike : Alike start x y) (notif : PlainNotification) :
    Alike start x (y.processNotification notif) :=
  (alike.symm.plain_left notif).symm

/-- An item on both sides. Its channel belongs to no handler, so it is delivered
    on both or lost on both. -/
theorem item (alike : Alike start x y) (response : SubscriptionResponse)
    (unserved : ∀ {method c r unsubReqId unsub}, start.manager.notificationHandlers.lookup method = some c →
      x.manager.requests.lookup r ≠ some (.subscription unsubReqId c unsub)) :
    (x.processSubscriptionResponse response).1 = (y.processSubscriptionResponse response).1 ∧
      Alike start (x.processSubscriptionResponse response).2 (y.processSubscriptionResponse response).2 := by
  have active : ∀ r, x.manager.asSubscription r = y.manager.asSubscription r := by
    intro r
    simp only [RequestManager.asSubscription, alike.requests]
  simp only [processSubscriptionResponse, RequestManager.getRequestIdBySubscriptionId, alike.subscriptions, active]
  cases y.manager.subscriptions.lookup response.params.subscription with
  | none => exact ⟨rfl, alike⟩
  | some r =>
      dsimp only
      cases serving : y.manager.asSubscription r with
      | none => exact ⟨rfl, alike⟩
      | some sink =>
          obtain ⟨unsubReqId, unsub, entry⟩ := RequestManager.asSubscription_iff.mp ((active r).trans serving)
          have other : ∀ method, start.manager.notificationHandlers.lookup method ≠ some sink :=
            fun method known => unserved known entry
          obtain ⟨outcome, record⟩ := trySend_congr (alike.sinks other) response.params.result
          have after : Alike start { x with channels := (x.channels.trySend sink response.params.result).2 }
              { y with channels := (y.channels.trySend sink response.params.result).2 } := by
            refine ⟨alike.requests, alike.subscriptions, alike.batches, ?_, ?_, ?_, alike.left, alike.right, ?_⟩
            · simp only [trySend_dropped, alike.dropped]
            · simp only [Channels.trySend_answers, alike.answers]
            · simp only [Channels.trySend_nextSink, alike.nextSink]
            · intro c unhandled
              by_cases same : c = sink
              · subst same
                exact record
              · simp only [Channels.trySend_lookup_of_ne _ _ same]
                exact alike.sinks unhandled
          revert outcome after
          dsimp only
          generalize x.channels.trySend sink response.params.result = xs
          generalize y.channels.trySend sink response.params.result = ys
          obtain ⟨sent, xs⟩ := xs
          obtain ⟨sent', ys⟩ := ys
          rintro (rfl : sent = sent') after
          cases sent <;> exact ⟨rfl, after⟩

/-- Alike states with the same handlers are the same. -/
theorem eq_of_handlers (alike : Alike start x y)
    (views : ∀ {method c}, start.manager.notificationHandlers.lookup method = some c →
      x.handlerState method c = y.handlerState method c) : x = y := by
  have handlers : x.manager.notificationHandlers = y.manager.notificationHandlers := by
    refine Finmap.ext_lookup fun method => ?_
    cases known : start.manager.notificationHandlers.lookup method with
    | some c => exact congrArg Prod.fst (views known)
    | none =>
        have left := @alike.left method
        have right := @alike.right method
        rw [known] at left right
        have gone : x.manager.notificationHandlers.lookup method = none := by
          refine Option.eq_none_iff_forall_ne_some.mpr fun c found => ?_
          cases left found
        have gone' : y.manager.notificationHandlers.lookup method = none := by
          refine Option.eq_none_iff_forall_ne_some.mpr fun c found => ?_
          cases right found
        rw [gone, gone']
  have sinks : x.channels.sinks = y.channels.sinks := by
    refine Finmap.ext_lookup fun c => ?_
    by_cases handled : ∃ method, start.manager.notificationHandlers.lookup method = some c
    · obtain ⟨method, known⟩ := handled
      exact congrArg Prod.snd (views known)
    · exact alike.sinks (not_exists.mp handled)
  obtain ⟨requests, subscriptions, batches, dropped, answers, nextSink, -, -, -⟩ := alike
  obtain ⟨⟨_, _, _, _⟩, ⟨_, _, _, _⟩⟩ := x
  obtain ⟨⟨_, _, _, _⟩, ⟨_, _, _, _⟩⟩ := y
  dsimp only at *
  subst requests subscriptions batches dropped answers nextSink handlers sinks
  rfl

end Alike

/-- An item changes no table. -/
theorem item_manager (b : Backend) (response : SubscriptionResponse) :
    (b.processSubscriptionResponse response).2.manager = b.manager := by
  unfold processSubscriptionResponse
  dsimp only
  split
  · rfl
  · split
    · rfl
    · split <;> rfl

/-- Every close of the list is for a subscription that is not there. -/
def ClosesNothing (b : Backend) (ns : List Notice) : Prop :=
  ∀ e notif, .close e notif ∈ ns → b.manager.subscriptions.lookup e.params.subscription = none

/-- The two ways lead to alike states, with the same messages, when the closes
    have no effect of their own. -/
theorem applyEach_alike {ns : List Notice} {start x y : Backend} (alike : Alike start x y)
    (unserved : ∀ {method c r unsubReqId unsub}, start.manager.notificationHandlers.lookup method = some c →
      x.manager.requests.lookup r ≠ some (.subscription unsubReqId c unsub))
    (idle : x.ClosesNothing ns) :
    (x.applyEach cfg (ns.map Notice.single)).1 = (y.applyEach cfg (ns.map Notice.batched)).1 ∧
      Alike start (x.applyEach cfg (ns.map Notice.single)).2 (y.applyEach cfg (ns.map Notice.batched)).2 := by
  induction ns generalizing x y with
  | nil => exact ⟨rfl, alike⟩
  | cons n rest ih =>
      have later : x.ClosesNothing rest := fun e notif member => idle e notif (List.mem_cons_of_mem _ member)
      cases n with
      | item response =>
          obtain ⟨closed, after⟩ := alike.item response unserved
          have same := x.item_manager response
          obtain ⟨messages, last⟩ := ih after (fun known => same.symm ▸ unserved known)
            (fun e notif member => same.symm ▸ later e notif member)
          refine ⟨?_, last⟩
          simp only [List.map_cons, applyEach, Notice.single, Notice.batched, apply, closed]
          exact congrArg _ messages
      | close e notif =>
          have unknown := idle e notif List.mem_cons_self
          have ignored : x.processSubscriptionCloseResponse e = some x := by
            simp only [processSubscriptionCloseResponse, RequestManager.getRequestIdBySubscriptionId, unknown]
          have after := ih (alike.plain_right notif) unserved later
          simpa [applyEach, Notice.single, Notice.batched, apply, ignored, Output.none] using after
      | plain notif =>
          have frame := x.plain_frame notif
          have after := ih ((alike.plain_left notif).plain_right notif) (frame.requests.symm ▸ unserved)
            (fun e notif member => frame.subscriptions.symm ▸ later e notif member)
          simpa [applyEach, Notice.single, Notice.batched, apply, Output.none] using after

/-! ## Where the two ways part -/

theorem applyEach_snd (ops : List Op) : (b.applyEach cfg ops).2 = b.applyAll cfg ops := by
  induction ops generalizing b with
  | nil => rfl
  | cons op rest ih => exact ih

/-- In an array no subscription is closed. -/
theorem batched_subscriptions (ns : List Notice) :
    (b.applyEach cfg (ns.map Notice.batched)).2.manager.subscriptions = b.manager.subscriptions := by
  rw [applyEach_snd]
  refine applyAll_keep (fun after => after.manager.subscriptions = b.manager.subscriptions) ?_ rfl
  intro x op member same
  obtain ⟨n, -, rfl⟩ := List.mem_map.mp member
  cases n with
  | item response => rw [← same, Notice.batched, apply, ← x.item_manager response]
  | close e notif | plain notif => exact (x.plain_frame notif).subscriptions.trans same

/-- A subscription that is not there does not come back. -/
theorem Step.gone (step : b.Step cfg op out after) (quiet : op.Quiet) {subId : SubscriptionId}
    (gone : b.manager.subscriptions.lookup subId = none) : after.manager.subscriptions.lookup subId = none := by
  cases step <;> first | exact quiet.elim | exact gone | skip
  exact (Table.lookup_erase_ite ..).trans (by rw [gone, ite_self])

/-- One by one, every close is obeyed. -/
theorem single_closes {ns : List Notice} {e : SubscriptionError} {notif : PlainNotification}
    (table : SubscriptionTable b.manager) (member : .close e notif ∈ ns) :
    (b.applyEach cfg (ns.map Notice.single)).2.manager.subscriptions.lookup e.params.subscription = none := by
  obtain ⟨before, rest, rfl⟩ := List.append_of_mem member
  rw [applyEach_snd, List.map_append, List.map_cons, applyAll_append]
  have middle : SubscriptionTable (b.applyAll cfg (before.map Notice.single)).manager :=
    applyAll_keep (fun b => SubscriptionTable b.manager) (fun b op _ => apply_subscriptionTable cfg op) table
  generalize b.applyAll cfg (before.map Notice.single) = x at middle
  have removed : (x.apply cfg (.close e)).2.manager.subscriptions.lookup e.params.subscription = none := by
    have step := x.apply_step cfg (.close e)
    generalize (x.apply cfg (.close e)).1 = out at step
    generalize (x.apply cfg (.close e)).2 = after at *
    cases step with
    | closed => exact Finmap.lookup_erase ..
    | closeIgnored gone =>
        cases known : x.manager.subscriptions.lookup e.params.subscription with
        | none => rfl
        | some r =>
            obtain ⟨unsubReqId, sink, unsub, entry⟩ := middle.active known
            have inactive := gone r known
            simp only [RequestManager.asSubscription, entry, reduceCtorEq] at inactive
  rw [applyAll, List.foldl_cons, ← applyAll]
  refine applyAll_keep (fun b => b.manager.subscriptions.lookup e.params.subscription = none) ?_ removed
  intro y op member gone
  obtain ⟨n, -, rfl⟩ := List.mem_map.mp member
  exact (y.apply_step cfg _).gone n.single_quiet gone

/-- The handlers after the two ways. -/
theorem handlerState_single {ns : List Notice} (separated : Separated b)
    (known : b.manager.notificationHandlers.lookup method = some c) :
    (b.applyEach cfg (ns.map Notice.single)).2.handlerState method c =
      Sink.fill c (b.channels.sinks.lookup c) (Notice.alone method ns) := by
  rw [applyEach_handlerState (separated.handlerOnly known), handlerState, known, Sink.foldl_absorb]
  · rfl
  · intro op member
    obtain ⟨n, -, rfl⟩ := List.mem_map.mp member
    exact n.single_quiet

theorem handlerState_batched {ns : List Notice} (separated : Separated b)
    (known : b.manager.notificationHandlers.lookup method = some c) :
    (b.applyEach cfg (ns.map Notice.batched)).2.handlerState method c =
      Sink.fill c (b.channels.sinks.lookup c) (Notice.together method ns) := by
  rw [applyEach_handlerState (separated.handlerOnly known), handlerState, known, Sink.foldl_absorb]
  · rfl
  · intro op member
    obtain ⟨n, -, rfl⟩ := List.mem_map.mp member
    exact n.batched_quiet

/-- A close notification that has no effect of its own, and that the handler of
    its method, if there is one, refuses: its channel is full by then, and a plain
    notification of the list ends the registration as well. -/
structure Harmless (b : Backend) (ns before : List Notice) (e : SubscriptionError) : Prop where
  unknown : b.manager.subscriptions.lookup e.params.subscription = none
  refused : ∀ {c}, b.manager.notificationHandlers.lookup e.method = some c →
    Sink.room (b.channels.sinks.lookup c) ≤ Notice.plains e.method before ∧
      Sink.room (b.channels.sinks.lookup c) < Notice.plains e.method ns

/-- The two ways agree exactly on harmless closes. -/
theorem applyEach_eq_iff {ns : List Notice} (separated : Separated b) (table : SubscriptionTable b.manager)
    (proper : ∀ n ∈ ns, n.Proper) :
    b.applyEach cfg (ns.map Notice.batched) = b.applyEach cfg (ns.map Notice.single) ↔
      ∀ before e notif after, ns = before ++ .close e notif :: after → b.Harmless ns before e := by
  constructor
  · intro same before e notif after shape
    have state := congrArg Prod.snd same
    constructor
    · rw [← @batched_subscriptions cfg b ns, state]
      exact @single_closes cfg b ns e notif table (by simp [shape])
    · intro c known
      have views : (b.applyEach cfg (ns.map Notice.batched)).2.handlerState e.method c =
          (b.applyEach cfg (ns.map Notice.single)).2.handlerState e.method c := by rw [state]
      rw [handlerState_batched separated known, handlerState_single separated known,
        Notice.fill_together_iff proper] at views
      exact views before ⟨e, notif, after, shape, rfl⟩
  · intro harmless
    have idle : b.ClosesNothing ns := by
      intro e notif member
      obtain ⟨before, after, shape⟩ := List.append_of_mem member
      exact (harmless before e notif after shape).unknown
    obtain ⟨messages, alike⟩ := @applyEach_alike cfg ns b b b (.refl b) separated.unserved idle
    have views : ∀ {method c}, b.manager.notificationHandlers.lookup method = some c →
        (b.applyEach cfg (ns.map Notice.batched)).2.handlerState method c =
          (b.applyEach cfg (ns.map Notice.single)).2.handlerState method c := by
      intro method c known
      rw [handlerState_batched separated known, handlerState_single separated known,
        Notice.fill_together_iff proper]
      rintro before ⟨e, notif, after, shape, rfl⟩
      exact (harmless before e notif after shape).refused known
    exact Prod.ext messages.symm (alike.symm.eq_of_handlers views)

theorem run_separated {us} (run : Run (event cfg) .new us b) : Separated b := by
  refine run.invariant Separated (fun _ => True) (fun _ _ => trivial) ?_ ?_
  · exact ⟨⟨fun found => (by cases found), fun found => by cases found⟩, fun found => (by cases found),
      fun found => by cases found⟩
  · rintro t - separated fired
    rcases event_cases fired with ⟨op, -, after⟩ | ⟨-, same, -, next⟩
    · rw [after]
      exact (apply_step cfg _ op).separated separated
    · obtain ⟨⟨subscription, handler⟩, handlers, unserved⟩ := separated
      refine ⟨⟨?_, ?_⟩, ?_, ?_⟩ <;> rw [same]
      · rw [next]
        exact subscription
      · rw [next]
        exact handler
      · exact handlers
      · exact unserved

/-- An array of notifications does what its elements do one by one, with the same
    messages, exactly when every close among them is harmless. -/
theorem recv_notices_iff {us} (run : Run (event cfg) .new us b) {serde : SerdeJson} {raw : List UInt8}
    {raws : List (List UInt8)} {elems : List Json}
    (bracket : raw.find? (fun byte => !isAsciiWhitespace byte) = some 91)
    (parsed : serde.fromSlice raw = .ok (.arr elems)) (nonempty : elems ≠ [])
    (texts : List.Forall₂ (Object serde) raws elems) (notices : ∀ json ∈ elems, IsNotice json) :
    b.handleRecvMessage serde cfg raw = b.handleEach serde cfg raws ↔
      ∀ before e notif after, elems.filterMap Notice.ofJson = before ++ .close e notif :: after →
        b.Harmless (elems.filterMap Notice.ofJson) before e := by
  have table := (run_created run).1
  have proper : ∀ n ∈ elems.filterMap Notice.ofJson, n.Proper := by
    intro n member
    obtain ⟨json, member, read⟩ := List.mem_filterMap.mp member
    obtain ⟨n', read', proper⟩ := Notice.read_of_isNotice (notices json member)
    exact Option.some.inj (read'.symm.trans read) ▸ proper
  rw [recv_notices bracket parsed nonempty notices, handleEach_notices texts notices table,
    ← @applyEach_eq_iff cfg b _ (run_separated run) table proper]
  simp only [Prod.mk.injEq, Outcome.ok.injEq]
  exact Prod.ext_iff.symm

end Backend

namespace Exchange

/-- The close notification of a subscription. -/
def closing (subscription : Nat) : String × Json :=
  ("\x7b\"jsonrpc\":\"2.0\",\"method\":\"hello\",\"params\":\x7b\"subscription\":" ++
      Nat.repr subscription ++ ",\"error\":\"done\"\x7d\x7d",
    .obj [("jsonrpc", .str "2.0"), ("method", .str "hello"),
      ("params", .obj [("subscription", .int subscription), ("error", .str "done")])])

/-- A subscribe call and its answer. -/
def subscribing : List Event :=
  [.critical (.front (subscribe 0 1 0)),
    .critical (.single { jsonrpc := some .mk, payload := .success (.int 7), id := .number 0 })]

end Exchange

namespace Backend

/-- The close of an active subscription is lost in an array. -/
theorem recv_notices_unclosed :
    let text := Exchange.closing 7
    let serde := Exchange.reader [text, Exchange.array [text]]
    let cfg : Config := { maxBufferCapacityPerSubscription := 1, overflowChecks := true }
    ∃ us b, Run (event cfg) .new us b ∧
      (b.handleRecvMessage serde cfg (Exchange.bytes (Exchange.array [text]).1)).2.manager.subscriptions.lookup
        (.num 7) = some (.number 0) ∧
      (b.handleEach serde cfg [Exchange.bytes text.1]).2.manager.subscriptions.lookup (.num 7) = none := by
  intro text serde cfg
  obtain ⟨us, b, run, -, state⟩ := Run.reaches (event cfg) .new Exchange.subscribing
    (fun b =>
      (b.handleRecvMessage serde cfg (Exchange.bytes (Exchange.array [text]).1)).2.manager.subscriptions.lookup
        (.num 7) = some (.number 0) ∧
      (b.handleEach serde cfg [Exchange.bytes text.1]).2.manager.subscriptions.lookup (.num 7) = none)
    (by decide +kernel)
  exact ⟨us, b, run, of_decide_eq_true state⟩

/-- An item and the close of another subscription. -/
theorem recv_notices_iff_other :
    let item := Exchange.item 7 1
    let close := Exchange.closing 8
    let array := Exchange.array [item, close]
    let serde := Exchange.reader [array, item, close]
    let cfg : Config := { maxBufferCapacityPerSubscription := 1, overflowChecks := true }
    ∃ us b, Run (event cfg) .new us b ∧ b.manager.subscriptions.lookup (.num 7) = some (.number 0) ∧
      b.handleRecvMessage serde cfg (Exchange.bytes array.1) =
        b.handleEach serde cfg [Exchange.bytes item.1, Exchange.bytes close.1] := by
  intro item close array serde cfg
  obtain ⟨us, b, run, -, state⟩ := Run.reaches (event cfg) .new Exchange.subscribing
    (fun b => b.manager.subscriptions.lookup (.num 7) = some (.number 0) ∧
      b.manager.subscriptions.lookup (.num 8) = none ∧ b.manager.notificationHandlers.lookup "hello" = none)
    (by decide +kernel)
  obtain ⟨active, unknown, unhandled⟩ := of_decide_eq_true state
  have texts : List.Forall₂ (Object serde) [Exchange.bytes item.1, Exchange.bytes close.1] [item.2, close.2] := by
    refine .cons ⟨by decide +kernel, ?_⟩ (.cons ⟨by decide +kernel, ?_⟩ .nil)
    · rw [Exchange.reader_tail (by decide +kernel), Exchange.reader_head]
    · rw [Exchange.reader_tail (by decide +kernel), Exchange.reader_tail (by decide +kernel), Exchange.reader_head]
  have notices : ∀ json ∈ [item.2, close.2], IsNotice json := by
    simp only [List.forall_mem_cons]
    exact ⟨⟨⟨_, rfl⟩, rfl, .inl rfl⟩, ⟨⟨_, rfl⟩, rfl, .inr (.inl rfl)⟩, by simp⟩
  refine ⟨us, b, run, active, (recv_notices_iff run (by decide +kernel) (Exchange.reader_head array _) (by simp)
    texts notices).mpr ?_⟩
  intro before e notif after shape
  have closes : .close e notif ∈ before ++ .close e notif :: after := by simp
  have readings : ([item, close].map Prod.snd).filterMap Notice.ofJson =
    [.item ⟨"hello", ⟨.num 7, .int 1⟩⟩, .close ⟨"hello", ⟨.num 8, .str "done"⟩⟩
      ⟨"hello", some (.obj [("subscription", .int 8), ("error", .str "done")])⟩] := rfl
  rw [← shape, readings] at closes
  simp only [List.mem_cons, reduceCtorEq, false_or, Notice.close.injEq, List.not_mem_nil, or_false] at closes
  obtain ⟨rfl, -⟩ := closes
  refine ⟨unknown, fun known => ?_⟩
  cases known.symm.trans unhandled

end Backend

end Jsonrpsee
