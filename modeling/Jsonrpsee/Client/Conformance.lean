import Jsonrpsee.Client.Ledger

/-! # Runs against a conformant server -/

namespace Jsonrpsee

namespace Client

variable {serde : SerdeJson} {cfg : Config} {c c' : Client}

theorem draw_eq_some {next : Id → Client → Client} (drawn : c.draw next = some c') :
    c.ids.currentId.toNat + 1 < 2 ^ 64 ∧ c' = next (c.ids.idKind.intoId c.ids.currentId) c.advance := by
  obtain ⟨small, same⟩ := Option.ite_none_right_eq_some.mp drawn
  exact ⟨small, (Option.some.inj same).symm⟩

/-- The requests of a batch carry the ids of its range, in order. -/
theorem batchIds_batchRequests {idKind : IdKind} {batch : List (String × Option RawValue)} {range : Range}
    (size : range.size = batch.length) :
    batchIds (.arr ((batchRequests idKind batch range).map Request.toJson)) =
      some (range.numbers.map idKind.intoId) := by
  have ids : (batchRequests idKind batch range).map Request.id = range.numbers.map idKind.intoId := by
    have second : (batch.zip range.numbers).map Prod.snd = range.numbers :=
      List.map_snd_zip (by rw [Range.length_numbers, size])
    rw [← second, batchRequests, List.map_map, List.map_map]
    rfl
  rw [batchIds, ← ids]
  induction batchRequests idKind batch range with
  | nil => rfl
  | cons req rest ih =>
      rw [List.map_cons, List.mapM_cons, requestId_toJson, ih]
      rfl

/-- The range of a batch that fits below the largest id. -/
theorem generateBatchIdRange_ok {idKind : IdKind} {n : UInt64} {len : Nat} {range : Range}
    (generated : generateBatchIdRange (idKind.intoId n) len = .ok range) :
    range.start = n ∧ range.size = len ∧ (0 < len → range.start < range.stop) := by
  rw [generateBatchIdRange_intoId] at generated
  split at generated
  · rename_i fits
    obtain rfl := Except.ok.inj generated
    exact ⟨rfl, Range.size_ofLen fits, Range.start_lt_ofLen fits⟩
  · cases generated

/-- The ledgers agree with the tables, and `read_task` is running. -/
structure Balanced (c : Client) : Prop where
  calls : CallLedger c.backend.manager.requests c.calls
  batches : BatchLedger c.backend.manager.batches c.ids.idKind c.batches
  table : SubscriptionTable c.backend.manager
  wellFormed : ∀ msg ∈ c.inFlight, msg.WellFormed c.ids.idKind
  up : c.down = false

theorem Balanced.new (idKind : IdKind) : Balanced (.new idKind) where
  calls := .empty
  batches := .empty
  table := .new
  wellFormed _ member := by cases member
  up := rfl

/-- A section of `read_task` with the text that it handles. -/
structure Receives (serde : SerdeJson) (cfg : Config) (c : Client) (raw : List UInt8) (op : Op) : Prop where
  back : ∀ msg, op ≠ .front msg
  carried : op.Carried serde raw
  expected : op.Expected c.ids.idKind c.calls c.backend.manager.batches
  handled : c.backend.handleRecvMessage serde cfg raw =
    (.ok (c.backend.apply cfg op).1.messages, (c.backend.apply cfg op).2)
  settled : c.settle serde raw =
    { c with calls := op.settled c.calls, batches := op.settledBatches c.batches }

/-- An array that answers a pending batch in full. -/
theorem Balanced.receives_batch (balanced : Balanced c) (cfg : Config) {raw : List UInt8}
    {rps : List Response} {ids : List Id} (holds : serde.responses raw = some rps) (owed : ids ∈ c.batches)
    (same : (rps.map Response.id).Perm ids) :
    ∃ range, c.Receives serde cfg raw (.batch rps range) := by
  obtain ⟨range, pending, rfl⟩ := balanced.batches.mem_iff.mp owed
  have nonempty := balanced.batches.nonempty pending
  have expected : (Op.batch rps range).Expected c.ids.idKind c.calls c.backend.manager.batches :=
    ⟨pending, same⟩
  have error := (Backend.apply_step cfg c.backend (.batch rps range)).error_eq_none balanced.calls expected
  have numeric : ∀ rp ∈ rps, rp.id.tryParseInnerAsNumber = .ok rp.number :=
    fun rp member => (fits_of_answered same member).1
  have spans := (Range.spans_numbers nonempty).perm (numbers_of_answered same).symm
  have inside := Range.stop_sub_one_lt nonempty
  have handled := Backend.recv_responses holds numeric spans inside cfg c.backend
  have exclusive : (⟨range.start, range.stop - 1 + 1⟩ : Range) = range := by
    rw [UInt64.sub_add_cancel]
  rw [exclusive, error] at handled
  refine ⟨range, nofun, holds, expected, ?_, ?_⟩
  · rw [handled, Backend.batch_messages]
  · simp only [settle, SerdeJson.single_of_responses holds, holds]
    rfl

/-- What a conformant server sends is handled by one section. -/
theorem Balanced.receives (balanced : Balanced c) (cfg : Config) {raw : List UInt8}
    (expects : c.Expects serde raw) : ∃ op, c.Receives serde cfg raw op := by
  obtain ⟨rp, holds, owed⟩ | ⟨rps, ids, holds, owed, same⟩ | notifies := expects
  · have expected : (Op.single rp).Expected c.ids.idKind c.calls c.backend.manager.batches := owed
    have error := (Backend.apply_step cfg c.backend (.single rp)).error_eq_none balanced.calls expected
    refine ⟨.single rp, nofun, holds, expected, ?_, ?_⟩
    · rw [Backend.recv_single holds, error]
    · simp only [settle, holds]
      rfl
  · obtain ⟨range, receives⟩ := balanced.receives_batch cfg holds owed same
    exact ⟨_, receives⟩
  · obtain ⟨op, quiet, handled⟩ := Backend.recv_notifies notifies cfg balanced.table
    refine ⟨op, quiet.back, quiet.carried serde raw, quiet.expected _ _ _, handled, ?_⟩
    · simp only [settle, notifies.single, notifies.responses, quiet.settled, quiet.settledBatches]

/-! ## What a step of the client can do -/

/-- Everything a step of the client does while the server conforms. The ids that
    are drawn and the oneshots that are created are those of the state before. -/
inductive Move (serde : SerdeJson) (cfg : Config) (c : Client) : ClientAction → Client → Prop where
  /-- A caller uses a channel end, or draws an id without using it. -/
  | outside {after : Backend} {drawn : RequestIdManager} (same : after.manager = c.backend.manager)
      (silent : after.channels.answers = c.backend.channels.answers)
      (kind : drawn.idKind = c.ids.idKind) (le : c.ids.currentId ≤ drawn.currentId) :
      Move serde cfg c a { c with backend := after, ids := drawn }
  /-- A message is queued that waits for nothing. -/
  | posted {msg : FrontToBack} {drawn : RequestIdManager} (plain : msg.Plain)
      (kind : drawn.idKind = c.ids.idKind) (le : c.ids.currentId ≤ drawn.currentId) :
      Move serde cfg c a ({ c with ids := drawn }.queue msg)
  | registered {msg : RegisterNotificationMessage} (own : msg.sendBack = c.nextOneshot) :
      Move serde cfg c a ((c.issue (.notification msg.method)).queue (.registerNotification msg))
  | requested {msg : RequestMessage} (small : c.ids.currentId.toNat + 1 < 2 ^ 64)
      (drawn : msg.id = c.ids.idKind.intoId c.ids.currentId) (own : msg.sendBack = some c.nextOneshot)
      (wellFormed : FrontToBack.WellFormed c.ids.idKind (.request msg)) :
      Move serde cfg c a ((c.advance.issue (.call msg.id)).queue (.request msg))
  | batched {msg : BatchMessage} (small : c.ids.currentId.toNat + 1 < 2 ^ 64)
      (drawn : msg.ids.start = c.ids.currentId) (own : msg.sendBack = c.nextOneshot)
      (wellFormed : FrontToBack.WellFormed c.ids.idKind (.batch msg)) :
      Move serde cfg c a ((c.advance.issue (.batch msg.ids)).queue (.batch msg))
  | subscribing {call : SubscribeCall} (small : c.ids.currentId.toNat + 1 < 2 ^ 64)
      (drawn : call.subscribeId = c.ids.idKind.intoId c.ids.currentId) :
      Move serde cfg c a { c.advance with subscribing := c.subscribing ++ [call] }
  | subscribed {msg : SubscriptionMessage} {call : SubscribeCall} {position : Nat}
      (small : c.ids.currentId.toNat + 1 < 2 ^ 64) (found : c.subscribing[position]? = some call)
      (first : msg.subscribeId = call.subscribeId)
      (drawn : msg.unsubscribeId = c.ids.idKind.intoId c.ids.currentId) (own : msg.sendBack = c.nextOneshot)
      (wellFormed : FrontToBack.WellFormed c.ids.idKind (.subscribe msg)) :
      Move serde cfg c a (({ c.advance with subscribing := c.subscribing.eraseIdx position }.issue
        (.subscription msg.subscribeId)).queue (.subscribe msg))
  | sent {msg : FrontToBack} {position : Nat} (found : c.inFlight[position]? = some msg) :
      Move serde cfg c (.send position) { c with
        backend := (c.backend.apply cfg (.front msg)).2
        inFlight := c.inFlight.eraseIdx position
        calls := c.calls ++ (c.backend.apply cfg (.front msg)).1.frames.filterMap requestId
        batches := c.batches ++ (c.backend.apply cfg (.front msg)).1.frames.filterMap batchIds }
  | received {raw : List UInt8} {op : Op} (receives : c.Receives serde cfg raw op) :
      Move serde cfg c (.receive raw) { c with
        backend := (c.backend.apply cfg op).2
        inFlight := c.inFlight ++ (c.backend.apply cfg op).1.messages
        calls := op.settled c.calls
        batches := op.settledBatches c.batches }

theorem toNat_advance (small : c.ids.currentId.toNat + 1 < 2 ^ 64) :
    c.advance.ids.currentId.toNat = c.ids.currentId.toNat + 1 := by
  simp only [advance, RequestIdManager.nextRequestId, UInt64.toNat_add, UInt64.toNat_one]
  exact Nat.mod_eq_of_lt small

theorem le_advance (small : c.ids.currentId.toNat + 1 < 2 ^ 64) :
    c.ids.currentId ≤ c.advance.ids.currentId := by
  have next : c.advance.ids.currentId.toNat = c.ids.currentId.toNat + 1 := toNat_advance small
  rw [UInt64.le_iff_toNat_le]
  omega

/-- What the calls of the public interface and `send_task` do does not depend on
    the server. -/
theorem move_of_step {a : ClientAction} (taken : c.step serde cfg a = some c')
    (other : ∀ raw, a ≠ .receive raw) : c.Move serde cfg a c' := by
  cases a with
  | request method params =>
      simp only [step] at taken
      obtain ⟨small, rfl⟩ := draw_eq_some taken
      have wellFormed : FrontToBack.WellFormed c.ids.idKind (.request
          { raw := Request.toJson { id := c.ids.idKind.intoId c.ids.currentId, method, params }
            id := c.ids.idKind.intoId c.ids.currentId
            sendBack := some c.nextOneshot }) :=
        ⟨requestId_toJson _, batchIds_toJson _⟩
      exact .requested small rfl rfl wellFormed
  | batchRequest batch =>
      simp only [step] at taken
      split at taken
      · obtain rfl := Option.some.inj taken
        exact .outside rfl rfl rfl (UInt64.le_refl _)
      · rename_i nonempty
        obtain ⟨small, rfl⟩ := draw_eq_some taken
        split
        · exact .outside rfl rfl rfl (le_advance small)
        · rename_i range generated
          obtain ⟨start, size, filled⟩ := generateBatchIdRange_ok generated
          have wellFormed : FrontToBack.WellFormed c.ids.idKind (.batch
              { raw := .arr ((batchRequests c.ids.idKind batch range).map Request.toJson)
                ids := range
                sendBack := c.nextOneshot }) :=
            ⟨rfl, batchIds_batchRequests size, filled (List.length_pos_iff.mpr nonempty)⟩
          exact .batched small start rfl wellFormed
  | subscribe subscribeMethod params unsubscribeMethod =>
      simp only [step] at taken
      split at taken
      · obtain rfl := Option.some.inj taken
        exact .outside rfl rfl rfl (UInt64.le_refl _)
      · obtain ⟨small, rfl⟩ := draw_eq_some taken
        exact .subscribing small rfl
  | drawUnsubscribeId position =>
      simp only [step] at taken
      split at taken
      · cases taken
      · rename_i call found
        obtain ⟨small, rfl⟩ := draw_eq_some taken
        have wellFormed : FrontToBack.WellFormed c.ids.idKind (.subscribe
            { raw := Request.toJson
                { id := call.subscribeId, method := call.subscribeMethod, params := call.params }
              subscribeId := call.subscribeId
              unsubscribeId := c.ids.idKind.intoId c.ids.currentId
              unsubscribeMethod := call.unsubscribeMethod
              sendBack := c.nextOneshot }) :=
          ⟨requestId_toJson _, batchIds_toJson _⟩
        have small : c.ids.currentId.toNat + 1 < 2 ^ 64 := small
        exact .subscribed small found rfl rfl rfl wellFormed
  | notification method params =>
      simp only [step] at taken
      obtain ⟨small, rfl⟩ := draw_eq_some taken
      exact .posted ⟨rfl, rfl⟩ rfl (le_advance small)
  | skipId =>
      simp only [step] at taken
      obtain ⟨small, rfl⟩ := draw_eq_some taken
      exact .outside rfl rfl rfl (le_advance small)
  | subscribeToMethod method =>
      obtain rfl := Option.some.inj taken
      have own : RegisterNotificationMessage.sendBack { method, sendBack := c.nextOneshot } =
        c.nextOneshot := rfl
      exact .registered own
  | closeSubscription | closeMethod =>
      obtain rfl := Option.some.inj taken
      exact .posted trivial rfl (UInt64.le_refl _)
  | send position =>
      simp only [step] at taken
      split at taken
      · cases taken
      · rename_i msg found
        obtain rfl := Option.some.inj taken
        exact .sent found
  | receive raw => exact absurd rfl (other raw)
  | dropOneshot oneshot =>
      obtain rfl := Option.some.inj taken
      exact .outside rfl rfl rfl (UInt64.le_refl _)
  | dropReceiver sink =>
      obtain rfl := Option.some.inj taken
      exact .outside rfl (Channels.dropReceiver_answers _ sink) rfl (UInt64.le_refl _)
  | read sink =>
      obtain ⟨channels, got, rfl⟩ := Option.map_eq_some_iff.mp taken
      exact .outside rfl (Channels.read_answers _ sink got) rfl (UInt64.le_refl _)

theorem Balanced.move (balanced : Balanced c) {a : ClientAction}
    (conformant : Conformant serde ⟨c, a, c'⟩) (taken : c.step serde cfg a = some c') :
    c.Move serde cfg a c' := by
  by_cases receives : ∃ raw, a = .receive raw
  · obtain ⟨raw, rfl⟩ := receives
    obtain ⟨op, receives⟩ := balanced.receives cfg (conformant raw rfl)
    simp only [step, receives.handled, receives.settled] at taken
    obtain rfl := Option.some.inj taken
    exact .received receives
  · exact move_of_step taken (not_exists.mp receives)

/-- Every move keeps the ledgers. -/
theorem Balanced.of_move (balanced : Balanced c) {a : ClientAction} (move : c.Move serde cfg a c') :
    Balanced c' := by
  obtain ⟨calls, batches, table, wellFormed, up⟩ := balanced
  have queues : ∀ {msg : FrontToBack}, msg.WellFormed c.ids.idKind →
      ∀ other ∈ c.inFlight ++ [msg], other.WellFormed c.ids.idKind := by
    intro msg own other member
    exact (List.mem_append.mp member).elim (wellFormed other) fun last => List.mem_singleton.mp last ▸ own
  cases move with
  | outside same silent kind =>
      exact ⟨same ▸ calls, same ▸ kind ▸ batches, same ▸ table, kind ▸ wellFormed, up⟩
  | posted plain kind =>
      exact ⟨calls, kind ▸ batches, table, kind ▸ queues (plain.wellFormed _), up⟩
  | registered => exact ⟨calls, batches, table, queues trivial, up⟩
  | requested small drawn own formed => exact ⟨calls, batches, table, queues formed, up⟩
  | batched small drawn own formed => exact ⟨calls, batches, table, queues formed, up⟩
  | subscribing => exact ⟨calls, batches, table, wellFormed, up⟩
  | subscribed small found first drawn own formed => exact ⟨calls, batches, table, queues formed, up⟩
  | @sent msg position found =>
      have step := Backend.apply_step cfg c.backend (.front msg)
      have expected : (Op.front msg).Expected c.ids.idKind c.calls c.backend.manager.batches :=
        wellFormed msg (List.mem_of_getElem? found)
      exact ⟨(step.callMove calls expected).ledger calls, step.batchLedger batches expected, step.subscriptionTable table,
        fun other member => wellFormed other (List.mem_of_mem_eraseIdx member), up⟩
  | @received raw op receives =>
      have expected := receives.expected
      have step := Backend.apply_step cfg c.backend op
      have silent := step.frames_eq_nil receives.back
      refine ⟨?_, ?_, step.subscriptionTable table, ?_, up⟩
      · simpa only [silent, List.filterMap_nil, List.append_nil] using (step.callMove calls expected).ledger calls
      · simpa only [silent, List.filterMap_nil, List.append_nil] using step.batchLedger batches expected
      · intro msg member
        exact (List.mem_append.mp member).elim (wellFormed msg) (step.messages_wellFormed msg)

section Runs

variable {idKind : IdKind} {ts : List (Transition Client ClientAction)}
  (run : Run (Client.step serde cfg) (.new idKind) ts c) (conformant : ∀ t ∈ ts, Conformant serde t)

include run conformant

theorem balanced : Balanced c :=
  run.invariant Balanced (Conformant serde) conformant (.new idKind)
    fun _ conforms before taken => before.of_move (before.move conforms taken)

/-- A conformant server never gets the client torn down: no received message
    is an error, so `read_task` keeps running. -/
theorem conformant_keeps_running :
    c.down = false ∧ ∀ t ∈ ts, ∀ raw, t.action = .receive raw →
      ∃ messages, (t.before.backend.handleRecvMessage serde cfg raw).1 = .ok messages := by
  refine ⟨(balanced run conformant).up, ?_⟩
  intro t member raw action
  obtain ⟨pre, post, rfl, earlier, -⟩ := run.split member
  have before := balanced earlier fun t member => conformant t (List.mem_append_left _ member)
  obtain ⟨op, receives⟩ := before.receives cfg (conformant t member raw action)
  exact ⟨_, by rw [receives.handled]⟩

end Runs

/-- A call and a batch with overlapping ids, answered in the other order. -/
theorem conformant_keeps_running_crossed :
    let serde := Exchange.reader [Exchange.success 1 7,
      Exchange.array [Exchange.success 1 5, Exchange.success 0 4]]
    let cfg : Config := { maxBufferCapacityPerSubscription := 1, overflowChecks := true }
    ∃ ts c, Run (Client.step serde cfg) (.new .number) ts c ∧ (∀ t ∈ ts, Conformant serde t) ∧
      c.backend.channels.answers.map Answer.oneshot = [1, 0] ∧ c.down = false := by
  intro serde cfg
  obtain ⟨ts, c, run, -, order⟩ := Run.reaches
    (restrict (Client.step serde cfg) (Client.answered serde)) (.new .number)
    [.batchRequest [("say_hello", none), ("say_goodbye", none)], .request "say_hello" none,
      .send 0, .send 0,
      .receive (Exchange.bytes (Exchange.success 1 7).1),
      .receive (Exchange.bytes (Exchange.array [Exchange.success 1 5, Exchange.success 0 4]).1)]
    (fun c => c.backend.channels.answers.map Answer.oneshot = [1, 0]) (by decide)
  obtain ⟨run, answered⟩ := run.of_restrict
  have conformant : ∀ t ∈ ts, Conformant serde t :=
    fun t member => conformant_of_answered (answered t member)
  exact ⟨ts, c, run, conformant, of_decide_eq_true order, (conformant_keeps_running run conformant).1⟩

end Client

end Jsonrpsee
