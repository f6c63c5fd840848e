import Jsonrpsee.Client.Session

/-! # What is owed and what is reserved

Every request on the wire has an entry that waits for it, and every unsubscribe
id that a subscription has reserved is vacant of anything else: it is not on
the wire, holds no oneshot and belongs to one subscription. The two facts keep
each other up, and with them no answer of a conformant server is unexpected.
-/

namespace Jsonrpsee

/-- The unsubscribe id that an entry reserves. -/
@[simp, grind =]
def Kind.reserves : Kind → Option Id
  | .pendingMethodCall _ => none
  | .pendingSubscription unsubReqId _ _ | .subscription unsubReqId _ _ => some unsubReqId

/-- The unsubscribe id that the entry of a request id reserves. -/
def reservation (requests : Table Id Kind) (r : Id) : Option Id :=
  (requests.lookup r).bind Kind.reserves

@[grind =]
theorem reservation_insert (requests : Table Id Kind) (id r : Id) (kind : Kind) :
    reservation (requests.insert id kind) r = if r = id then kind.reserves else reservation requests r := by
  simp only [reservation, Table.lookup_insert_ite]
  split <;> rfl

@[grind =]
theorem reservation_erase (requests : Table Id Kind) (id r : Id) :
    reservation (requests.erase id) r = if r = id then none else reservation requests r := by
  simp only [reservation, Table.lookup_erase_ite]
  split <;> rfl

@[grind →]
theorem reservation_of_lookup {requests : Table Id Kind} {r : Id} {kind : Kind}
    (found : requests.lookup r = some kind) : reservation requests r = kind.reserves := by
  rw [reservation, found, Option.bind_some]

@[grind →]
theorem reservation_of_free {requests : Table Id Kind} {r : Id} (free : requests.lookup r = none) :
    reservation requests r = none := by
  rw [reservation, free, Option.bind_none]

/-- The requests on the wire and the reserved ids. -/
structure CallLedger (requests : Table Id Kind) (calls : List Id) : Prop where
  nodup : calls.Nodup
  known : ∀ {id}, id ∈ calls → requests.lookup id ≠ none
  waited : ∀ {id oneshot}, requests.lookup id = some (.pendingMethodCall (some oneshot)) → id ∈ calls
  awaiting : ∀ {id unsubReqId sink unsub}, id ∈ calls →
    requests.lookup id ≠ some (.subscription unsubReqId sink unsub)
  reserved : ∀ {r u}, reservation requests r = some u →
    requests.lookup u = some (.pendingMethodCall none) ∧ u ∉ calls
  once : ∀ {r r' u}, reservation requests r = some u → reservation requests r' = some u → r = r'

namespace CallLedger

variable {requests : Table Id Kind} {calls : List Id}

theorem empty : CallLedger ∅ [] where
  nodup := List.nodup_nil
  known member := by cases member
  waited found := by cases found
  awaiting member := by cases member
  reserved found := by cases found
  once found := by cases found

/-- No answer to a request on the wire is unexpected. -/
theorem expected {m : RequestManager} (ledger : CallLedger m.requests calls) {id : Id} (owed : id ∈ calls) :
    ¬ (m.requestStatus id = .invalid ∨ m.requestStatus id = .subscription) := by
  have known := ledger.known owed
  have awaiting := @ledger.awaiting id
  unfold RequestManager.requestStatus
  grind

/-- A request goes out under a free id. -/
theorem request (ledger : CallLedger requests calls) {id : Id} (free : requests.lookup id = none)
    (sendBack : Option OneshotId) :
    CallLedger (requests.insert id (.pendingMethodCall sendBack)) (calls ++ [id]) := by
  obtain ⟨nodup, known, waited, awaiting, reserved, once⟩ := ledger
  have new : id ∉ calls := fun member => known member free
  constructor
  · exact List.nodup_append.mpr ⟨nodup, List.nodup_singleton id, by grind⟩
  all_goals grind

/-- A subscribe request goes out and reserves an id. -/
theorem subscribe (ledger : CallLedger requests calls) {id u : Id} (free : requests.lookup id = none)
    (unsubFree : requests.lookup u = none) (distinct : id ≠ u) (oneshot : OneshotId) (unsub : String) :
    CallLedger ((requests.insert id (.pendingSubscription u oneshot unsub)).insert u
      (.pendingMethodCall none)) (calls ++ [id]) := by
  obtain ⟨nodup, known, waited, awaiting, reserved, once⟩ := ledger
  have new : id ∉ calls := fun member => known member free
  have newUnsub : u ∉ calls := fun member => known member unsubFree
  constructor
  · exact List.nodup_append.mpr ⟨nodup, List.nodup_singleton id, by grind⟩
  all_goals grind

/-- The reserved id of an active subscription goes out. -/
theorem unsubscribe (ledger : CallLedger requests calls) {r u : Id} {sink : SinkId} {unsub : String}
    (active : requests.lookup r = some (.subscription u sink unsub)) :
    CallLedger (requests.insert r (.pendingMethodCall none)) (calls ++ [u]) := by
  obtain ⟨nodup, known, waited, awaiting, reserved, once⟩ := ledger
  have slot := reserved (reservation_of_lookup active)
  constructor
  · exact List.nodup_append.mpr ⟨nodup, List.nodup_singleton u, by grind⟩
  all_goals grind

/-- A request is answered and its entry removed. -/
theorem settle (ledger : CallLedger requests calls) {id : Id} (owed : id ∈ calls) :
    CallLedger (requests.erase id) (calls.erase id) := by
  obtain ⟨nodup, known, waited, awaiting, reserved, once⟩ := ledger
  have left : ∀ x, x ∈ calls.erase id ↔ x ≠ id ∧ x ∈ calls := fun x => nodup.mem_erase_iff
  constructor
  · exact nodup.erase id
  all_goals grind

/-- A subscribe request is answered; its entry gives the reservation up or
    passes it on. -/
theorem replace (ledger : CallLedger requests calls) {id u : Id} (owed : id ∈ calls) {oneshot : OneshotId}
    {unsub : String} (pending : requests.lookup id = some (.pendingSubscription u oneshot unsub))
    {kind : Kind} (passed : kind = .pendingMethodCall none ∨ ∃ sink, kind = .subscription u sink unsub) :
    CallLedger (requests.insert id kind) (calls.erase id) := by
  obtain ⟨nodup, known, waited, awaiting, reserved, once⟩ := ledger
  have left : ∀ x, x ∈ calls.erase id ↔ x ≠ id ∧ x ∈ calls := fun x => nodup.mem_erase_iff
  constructor
  · exact nodup.erase id
  all_goals grind

/-- A subscription is closed by the server. -/
theorem close (ledger : CallLedger requests calls) {r u : Id} {sink : SinkId} {unsub : String}
    (active : requests.lookup r = some (.subscription u sink unsub)) :
    CallLedger (requests.erase r) calls := by
  obtain ⟨nodup, known, waited, awaiting, reserved, once⟩ := ledger
  constructor
  · exact nodup
  all_goals grind

end CallLedger

/-! ## Batches on the wire -/

/-- The ids of a batch determine its range. -/
theorem Range.eq_of_ids_perm {idKind : IdKind} {range range' : Range}
    (nonempty : range.start < range.stop) (nonempty' : range'.start < range'.stop)
    (same : (range.numbers.map idKind.intoId).Perm (range'.numbers.map idKind.intoId)) :
    range = range' := by
  have mem : ∀ n, n ∈ range.numbers ↔ n ∈ range'.numbers := by
    intro n
    have mapped := same.mem_iff (a := idKind.intoId n)
    have injective : Function.Injective idKind.intoId := fun _ _ => idKind.intoId_injective
    rwa [List.mem_map_of_injective injective, List.mem_map_of_injective injective] at mapped
  have spans := (spans_numbers nonempty).unique (spans_numbers nonempty') mem
  obtain ⟨start, stop⟩ := range
  obtain ⟨start', stop'⟩ := range'
  simp only [Range.mk.injEq] at spans ⊢
  exact ⟨spans.1, by simpa only [UInt64.sub_left_inj] using spans.2⟩

/-- The batches on the wire are the pending ones. -/
structure BatchLedger (table : Table Range BatchState) (idKind : IdKind) (batches : List (List Id)) :
    Prop where
  nodup : batches.Nodup
  mem_iff : ∀ {ids}, ids ∈ batches ↔
    ∃ range, table.lookup range ≠ none ∧ ids = range.numbers.map idKind.intoId
  nonempty : ∀ {range}, table.lookup range ≠ none → range.start < range.stop

namespace BatchLedger

variable {table : Table Range BatchState} {idKind : IdKind} {batches : List (List Id)}

theorem empty : BatchLedger ∅ idKind [] where
  nodup := List.nodup_nil
  mem_iff := by simp
  nonempty found := by simp at found

/-- A batch goes out under a free range. -/
theorem send (ledger : BatchLedger table idKind batches) {range : Range}
    (free : table.lookup range = none) (nonempty : range.start < range.stop) (state : BatchState) :
    BatchLedger (table.insert range state) idKind (batches ++ [range.numbers.map idKind.intoId]) := by
  constructor
  · refine List.nodup_append.mpr ⟨ledger.nodup, List.nodup_singleton _, ?_⟩
    rintro ids member _ last rfl
    obtain ⟨other, pending, shape⟩ := ledger.mem_iff.mp member
    rw [List.mem_singleton.mp last] at shape
    have same := Range.eq_of_ids_perm nonempty (ledger.nonempty pending) (.of_eq shape)
    exact pending (same ▸ free)
  · intro ids
    rw [List.mem_append, List.mem_singleton, ledger.mem_iff]
    constructor
    · rintro (⟨other, pending, rfl⟩ | rfl)
      · exact ⟨other, by grind, rfl⟩
      · exact ⟨range, by grind, rfl⟩
    · rintro ⟨other, pending, rfl⟩
      by_cases here : other = range
      · exact .inr (by rw [here])
      · exact .inl ⟨other, by grind, rfl⟩
  · intro other pending
    by_cases here : other = range
    · exact here ▸ nonempty
    · exact ledger.nonempty (by grind)

/-- A batch is answered. -/
theorem settle (ledger : BatchLedger table idKind batches) {range : Range}
    (pending : table.lookup range ≠ none) {answered : List Id}
    (own : answered.Perm (range.numbers.map idKind.intoId)) :
    BatchLedger (table.erase range) idKind (batches.eraseP fun ids => answered.isPerm ids) := by
  -- Only the batch itself has these ids.
  have only : ∀ ids ∈ batches, (answered.isPerm ids = true ↔ ids = range.numbers.map idKind.intoId) := by
    intro ids member
    obtain ⟨other, waiting, rfl⟩ := ledger.mem_iff.mp member
    rw [List.isPerm_iff]
    constructor
    · intro same
      rw [Range.eq_of_ids_perm (ledger.nonempty waiting) (ledger.nonempty pending) (same.symm.trans own)]
    · rintro same
      exact same ▸ own
  have left : ∀ ids, ids ∈ batches.eraseP (fun ids => answered.isPerm ids) ↔
      ids ∈ batches ∧ ids ≠ range.numbers.map idKind.intoId := by
    have member : range.numbers.map idKind.intoId ∈ batches := ledger.mem_iff.mpr ⟨range, pending, rfl⟩
    obtain ⟨first, before, after, -, found, shape, erased⟩ :=
      List.exists_of_eraseP member ((only _ member).mpr rfl)
    have here : first = range.numbers.map idKind.intoId :=
      (only first (by rw [shape]; exact List.mem_append_right _ List.mem_cons_self)).mp found
    have nodup := ledger.nodup
    rw [shape, here, List.nodup_middle, List.nodup_cons] at nodup
    intro ids
    rw [erased, shape, here]
    grind
  constructor
  · exact ledger.nodup.sublist List.eraseP_sublist
  · intro ids
    rw [left, ledger.mem_iff]
    constructor
    · rintro ⟨⟨other, waiting, rfl⟩, different⟩
      exact ⟨other, by grind, rfl⟩
    · rintro ⟨other, waiting, rfl⟩
      have different : other ≠ range := by grind
      refine ⟨⟨other, by grind, rfl⟩, fun same => different ?_⟩
      exact Range.eq_of_ids_perm (ledger.nonempty (by grind)) (ledger.nonempty pending) (.of_eq same)
  · intro other waiting
    exact ledger.nonempty (by grind)

end BatchLedger

/-- The frame of a message asks for what the message registers. -/
def FrontToBack.WellFormed (idKind : IdKind) : FrontToBack → Prop
  | .request msg => requestId msg.raw = some msg.id ∧ batchIds msg.raw = none
  | .subscribe msg => requestId msg.raw = some msg.subscribeId ∧ batchIds msg.raw = none
  | .batch msg => requestId msg.raw = none ∧
      batchIds msg.raw = some (msg.ids.numbers.map idKind.intoId) ∧ msg.ids.start < msg.ids.stop
  | .notification raw => requestId raw = none ∧ batchIds raw = none
  | .registerNotification _ | .unregisterNotification _ | .subscriptionClosed _ => True

/-- The messages that wait for no answer and register nothing. -/
def FrontToBack.Plain : FrontToBack → Prop
  | .notification raw => requestId raw = none ∧ batchIds raw = none
  | .unregisterNotification _ | .subscriptionClosed _ => True
  | .batch _ | .request _ | .subscribe _ | .registerNotification _ => False

theorem FrontToBack.Plain.wellFormed {msg : FrontToBack} (plain : msg.Plain) (idKind : IdKind) :
    msg.WellFormed idKind := by
  cases msg with
  | notification => exact plain
  | unregisterNotification | subscriptionClosed => trivial
  | batch | request | subscribe | registerNotification => cases plain

namespace Op

/-- What a section takes off the requests on the wire. -/
def settled (op : Op) (calls : List Id) : List Id :=
  match op with
  | .single rp => calls.erase rp.id
  | .front _ | .batch _ _ | .notify _ | .close _ | .plain _ => calls

/-- What a section takes off the batches on the wire. -/
def settledBatches (op : Op) (batches : List (List Id)) : List (List Id) :=
  match op with
  | .batch rps _ => batches.eraseP fun ids => (rps.map Response.id).isPerm ids
  | .front _ | .single _ | .notify _ | .close _ | .plain _ => batches

/-- The messages that the front-end and a conformant server send: a response
    answers a request on the wire, an array answers a pending batch in full. -/
def Expected (idKind : IdKind) (calls : List Id) (table : Table Range BatchState) : Op → Prop
  | .front msg => msg.WellFormed idKind
  | .single rp => rp.id ∈ calls
  | .batch rps range =>
      table.lookup range ≠ none ∧ (rps.map Response.id).Perm (range.numbers.map idKind.intoId)
  | .notify _ | .close _ | .plain _ => True

/-- The answer that a section handles is the answer in the received text. -/
def Carried (serde : SerdeJson) (raw : List UInt8) : Op → Prop
  | .single rp => serde.single raw = some rp
  | .batch rps _ => serde.responses raw = some rps
  | .front _ | .notify _ | .close _ | .plain _ => True

theorem Quiet.carried {op : Op} (quiet : op.Quiet) (serde : SerdeJson) (raw : List UInt8) :
    op.Carried serde raw := by
  cases op with
  | front | single | batch => cases quiet
  | notify | close | plain => trivial

theorem Quiet.expected {op : Op} (quiet : op.Quiet) (idKind : IdKind) (calls : List Id)
    (table : Table Range BatchState) : op.Expected idKind calls table := by
  cases op with
  | front | single | batch => cases quiet
  | notify | close | plain => trivial

theorem Quiet.settled {op : Op} (quiet : op.Quiet) (calls : List Id) : op.settled calls = calls := by
  cases op with
  | front | single | batch => cases quiet
  | notify | close | plain => rfl

theorem Quiet.settledBatches {op : Op} (quiet : op.Quiet) (batches : List (List Id)) :
    op.settledBatches batches = batches := by
  cases op with
  | front | single | batch => cases quiet
  | notify | close | plain => rfl

end Op

/-- Everything an expected section does to the entries and to the requests on the
    wire. -/
inductive CallMove (op : Op) (requests : Table Id Kind) (calls : List Id) :
    Table Id Kind → List Id → Prop where
  | kept : CallMove op requests calls requests calls
  | requested {id : Id} (free : requests.lookup id = none) (sendBack : Option OneshotId) :
      CallMove op requests calls (requests.insert id (.pendingMethodCall sendBack)) (calls ++ [id])
  | subscribed {msg : SubscriptionMessage} (front : op = .front (.subscribe msg))
      (free : requests.lookup msg.subscribeId = none) (unsubFree : requests.lookup msg.unsubscribeId = none)
      (distinct : msg.subscribeId ≠ msg.unsubscribeId) :
      CallMove op requests calls
        ((requests.insert msg.subscribeId
          (.pendingSubscription msg.unsubscribeId msg.sendBack msg.unsubscribeMethod)).insert
            msg.unsubscribeId (.pendingMethodCall none)) (calls ++ [msg.subscribeId])
  /-- The reserved id goes onto the wire; the subscribe id stays behind. -/
  | unsubscribed {r u : Id} {sink : SinkId} {unsub : String}
      (active : requests.lookup r = some (.subscription u sink unsub)) :
      CallMove op requests calls (requests.insert r (.pendingMethodCall none)) (calls ++ [u])
  | answered {id : Id} (owed : id ∈ calls) :
      CallMove op requests calls (requests.erase id) (calls.erase id)
  /-- The entry of an answered subscribe request gives its reservation up or
      passes it on. -/
  | passed {id u : Id} {oneshot : OneshotId} {unsub : String} {kind : Kind} (owed : id ∈ calls)
      (pending : requests.lookup id = some (.pendingSubscription u oneshot unsub))
      (passed : kind = .pendingMethodCall none ∨ ∃ sink, kind = .subscription u sink unsub) :
      CallMove op requests calls (requests.insert id kind) (calls.erase id)
  | closed {r u : Id} {sink : SinkId} {unsub : String}
      (active : requests.lookup r = some (.subscription u sink unsub)) :
      CallMove op requests calls (requests.erase r) calls

theorem CallMove.ledger {op : Op} {requests requests' : Table Id Kind} {calls calls' : List Id}
    (move : CallMove op requests calls requests' calls') (ledger : CallLedger requests calls) :
    CallLedger requests' calls' := by
  cases move with
  | kept => exact ledger
  | requested free sendBack => exact ledger.request free sendBack
  | subscribed _ free unsubFree distinct => exact ledger.subscribe free unsubFree distinct _ _
  | unsubscribed active => exact ledger.unsubscribe active
  | answered owed => exact ledger.settle owed
  | passed owed pending passed => exact ledger.replace owed pending passed
  | closed active => exact ledger.close active

namespace Backend

variable {cfg : Config} {b after : Backend} {op : Op} {out : Output} {calls : List Id} {idKind : IdKind}
  {table : Table Range BatchState}

theorem Step.callMove (step : b.Step cfg op out after) (ledger : CallLedger b.manager.requests calls)
    (expected : op.Expected idKind calls table) :
    CallMove op b.manager.requests calls after.manager.requests
      (op.settled calls ++ out.frames.filterMap requestId) := by
  have unasked : ∀ raw, requestId raw = none →
      CallMove op b.manager.requests calls b.manager.requests (calls ++ [raw].filterMap requestId) := by
    intro raw nothing
    simpa only [List.filterMap_cons, nothing, List.filterMap_nil, List.append_nil] using .kept
  cases step with
  | batch | notification => exact unasked _ expected.1
  | @request msg free =>
      simpa only [Op.settled, Output.frame, List.filterMap_cons, expected.1, List.filterMap_nil] using
        .requested free msg.sendBack
  | @subscribe msg free unsubFree distinct =>
      simpa only [Op.settled, Output.frame, List.filterMap_cons, expected.1, List.filterMap_nil] using
        .subscribed rfl free unsubFree distinct
  | unsubscribe known active =>
      simpa only [Op.settled, Output.frame, unsubscribeRequest, List.filterMap_cons, requestId_toJson,
        List.filterMap_nil] using .unsubscribed active
  | answerCall | release | subscribeRefused | subscribeUnreadable | subscribeDuplicate =>
      simpa only [Op.settled, Output.none, List.filterMap_nil, List.append_nil] using
        .answered expected
  | activate pending =>
      simpa only [Op.settled, Output.none, List.filterMap_nil, List.append_nil] using
        .passed expected pending (.inr ⟨_, rfl⟩)
  | abandon pending =>
      simpa only [Op.settled, Output.message, List.filterMap_nil, List.append_nil] using
        .passed expected pending (.inl rfl)
  | closed known active =>
      simpa only [Op.settled, Output.none, List.filterMap_nil, List.append_nil] using .closed active
  | unexpected status => exact absurd status (ledger.expected expected)
  | batchOccupied | requestOccupied | requestDenied | subscribeOccupied | closedEarlier | register
  | registerOccupied | unregister | batchAnswered | notified | notifyUnknown | closeIgnored | delivered
  | deliveryLost | plainUnknown =>
      simpa only [Op.settled, Output.none, List.filterMap_nil, List.append_nil,
        RequestManager.removeNotificationHandler_requests] using .kept
  | notifyLost => simpa only [Op.settled, Output.message, List.filterMap_nil, List.append_nil] using .kept
  | batchUnstorable | batchUnknown =>
      simpa only [Op.settled, Output.failure, List.filterMap_nil, List.append_nil] using .kept

theorem Step.batchLedger {batches : List (List Id)} (step : b.Step cfg op out after)
    (ledger : BatchLedger b.manager.batches idKind batches)
    (expected : op.Expected idKind calls b.manager.batches) :
    BatchLedger after.manager.batches idKind
      (op.settledBatches batches ++ out.frames.filterMap batchIds) := by
  have unasked : ∀ raw, batchIds raw = none → BatchLedger b.manager.batches idKind
      (batches ++ [raw].filterMap batchIds) := by
    intro raw nothing
    simpa only [List.filterMap_cons, nothing, List.filterMap_nil, List.append_nil] using ledger
  cases step with
  | @batch msg free =>
      obtain ⟨-, ids, nonempty⟩ := expected
      simpa only [Op.settledBatches, Output.frame, List.filterMap_cons, ids, List.filterMap_nil] using
        ledger.send free nonempty { sendBack := msg.sendBack }
  | notification | request | subscribe => exact unasked _ expected.2
  | unsubscribe known active => exact unasked _ (batchIds_toJson _)
  | batchAnswered =>
      simpa only [Op.settledBatches, Output.none, List.filterMap_nil, List.append_nil] using
        ledger.settle expected.1 expected.2
  | batchUnstorable pending failed =>
      obtain ⟨sorted, stored, -⟩ := storeResponses_answered expected.2
      cases failed.symm.trans stored
  | batchUnknown unknown => exact absurd unknown expected.1
  | abandon | notifyLost =>
      simpa only [Op.settledBatches, Output.message, List.filterMap_nil, List.append_nil] using ledger
  | unexpected => simpa only [Op.settledBatches, Output.failure, List.filterMap_nil, List.append_nil] using ledger
  | batchOccupied | requestOccupied | requestDenied | subscribeOccupied | closedEarlier | register
  | registerOccupied | unregister | answerCall | release | subscribeRefused | subscribeUnreadable
  | subscribeDuplicate | activate | closed | notified | notifyUnknown | closeIgnored | delivered
  | deliveryLost | plainUnknown =>
      simpa only [Op.settledBatches, Output.none, List.filterMap_nil, List.append_nil,
        RequestManager.removeNotificationHandler_batches] using ledger

/-- The messages a section passes on to `send_task` are well formed. -/
theorem Step.messages_wellFormed (step : b.Step cfg op out after) :
    ∀ msg ∈ out.messages, msg.WellFormed idKind := by
  cases step with
  | abandon =>
      intro msg member
      rw [List.mem_singleton.mp member]
      exact ⟨requestId_toJson _, batchIds_toJson _⟩
  | notifyLost =>
      intro msg member
      rw [List.mem_singleton.mp member]
      exact trivial
  | _ => exact fun msg member => by cases member

/-- Only `send_task` hands frames to the transport. -/
theorem Step.frames_eq_nil (step : b.Step cfg op out after) (received : ∀ msg, op ≠ .front msg) :
    out.frames = [] := by
  cases step with
  | batch | notification | request | subscribe | unsubscribe => exact absurd rfl (received _)
  | _ => rfl

/-- A section fails only on an answer that nobody waits for. -/
theorem Step.error_eq_none (step : b.Step cfg op out after) (ledger : CallLedger b.manager.requests calls)
    (expected : op.Expected idKind calls b.manager.batches) : out.error = none := by
  cases step with
  | unexpected status => exact absurd status (ledger.expected expected)
  | batchUnstorable pending failed =>
      obtain ⟨sorted, stored, -⟩ := storeResponses_answered expected.2
      cases failed.symm.trans stored
  | batchUnknown unknown => exact absurd unknown expected.1
  | _ => rfl

end Backend

end Jsonrpsee
