import Jsonrpsee.Http.BatchRequest

/-! # The two batch clients

Both clients write the decoded responses over placeholders, into the slot of
their id. The asynchronous client has as many slots as its batch has requests,
the HTTP client as many as it got responses. Neither looks whether every slot
was written.
-/

namespace Jsonrpsee

variable {ρ : Type} (decode : RawValue → Except String ρ) (start : UInt64)

/-- Every request of a batch is answered by a response with its id. -/
def Answered (len : Nat) (rps : List Response) : Prop :=
  ∀ i < len, ∃ rp ∈ rps, rp.id.tryParseInnerAsNumber = .ok (UInt64.ofNat (start.toNat + i))

instance (len : Nat) (rps : List Response) : Decidable (Answered start len rps) :=
  inferInstanceAs (Decidable (∀ i < len, ∃ rp ∈ rps, rp.id.tryParseInnerAsNumber =
    .ok (UInt64.ofNat (start.toNat + i))))

/-- Every entry of a batch response is decoded from a response with its id. -/
def Complete (len : Nat) (rps : List Response) (resp : BatchResponse ρ) : Prop :=
  resp.responses.length = len ∧
    ∀ i < len, ∃ rp ∈ rps, rp.id.tryParseInnerAsNumber = .ok (UInt64.ofNat (start.toNat + i)) ∧
      ∃ entry, decodeEntry decode rp = .ok entry ∧ resp.responses[i]? = some entry

/-- The asynchronous client takes an array whose ids are numbers from the first
    to the last of the batch. Of several responses with one id only the last
    has to decode. -/
structure Client.Accepts (len : Nat) (rps : List Response) : Prop where
  numeric : ∀ rp ∈ rps, rp.id.tryParseInnerAsNumber = .ok rp.number
  spans : Spans { start, stop := UInt64.ofNat (start.toNat + len) - 1 } (rps.map Response.number)
  decodes : ∀ before rp after, rps = before ++ rp :: after → (∀ other ∈ after, other.number ≠ rp.number) →
    Decodes decode rp

/-- The HTTP client takes any number of responses whose ids are below that
    number, counted from the first id of the batch. -/
structure HttpClient.Accepts (rps : List Response) : Prop where
  numeric : ∀ rp ∈ rps, rp.id.tryParseInnerAsNumber = .ok rp.number
  inside : ∀ rp ∈ rps, start ≤ rp.number ∧ rp.number.toNat < start.toNat + rps.length
  decodes : ∀ rp ∈ rps, Decodes decode rp

/-- The slots of a batch response after all responses have been written. -/
def entries (len : Nat) (rps : List Response) : List (BatchEntry ρ) :=
  Slots.writeAll (Response.slot start) (entryOf decode) rps
    (List.replicate len (.error (.borrowed 0 "" none)))

@[simp] theorem length_entries (len : Nat) (rps : List Response) :
    (entries decode start len rps).length = len := by
  rw [entries, Slots.length_writeAll, List.length_replicate]

variable {decode start} {len : Nat} {rps : List Response}

/-! ## Slots and ids -/

theorem slot_of_number {rp : Response} {i : Nat} (small : start.toNat + i < 2 ^ 64)
    (named : rp.id.tryParseInnerAsNumber = .ok (UInt64.ofNat (start.toNat + i))) :
    rp.slot start = i := by
  rw [Response.slot, Response.number, named]
  dsimp only
  rw [UInt64.toNat_ofNat_of_lt' small, Nat.add_sub_cancel_left]

theorem number_of_slot {rp : Response} (fits : rp.Fits start len) :
    rp.id.tryParseInnerAsNumber = .ok (UInt64.ofNat (start.toNat + rp.slot start)) := by
  obtain ⟨numeric, above, -⟩ := fits
  rw [numeric, Response.slot, Nat.add_sub_cancel' (UInt64.le_iff_toNat_le.mp above), UInt64.ofNat_toNat]

theorem slot_inj {a b : Response} (fits : a.Fits start len) (fits' : b.Fits start len)
    (same : a.number ≠ b.number) : a.slot start ≠ b.slot start := by
  intro slots
  have number := number_of_slot fits
  rw [slots, ← number_of_slot fits'] at number
  rw [fits.1, fits'.1] at number
  exact same (Except.ok.inj number)

theorem HttpClient.accepts_iff : HttpClient.Accepts decode start rps ↔
    ∀ rp ∈ rps, rp.Fits start rps.length ∧ Decodes decode rp := by
  have inside : ∀ rp : Response, start ≤ rp.number →
      (rp.slot start < rps.length ↔ rp.number.toNat < start.toNat + rps.length) := by
    intro rp above
    have le := UInt64.le_iff_toNat_le.mp above
    rw [Response.slot]
    omega
  constructor
  · intro accepts rp member
    obtain ⟨above, below⟩ := accepts.inside rp member
    exact ⟨⟨accepts.numeric rp member, above, (inside rp above).mpr below⟩, accepts.decodes rp member⟩
  · intro all
    refine ⟨fun rp member => (all rp member).1.1, fun rp member => ?_, fun rp member => (all rp member).2⟩
    obtain ⟨-, above, below⟩ := (all rp member).1
    exact ⟨above, (inside rp above).mp below⟩

theorem Client.Accepts.fits (accepts : Client.Accepts decode start len rps)
    (small : start.toNat + len < 2 ^ 64) (filled : 0 < len) : ∀ rp ∈ rps, rp.Fits start len := by
  intro rp member
  have fits := @Spans.fits (.ofLen start len) rps accepts.spans (Range.start_lt_ofLen small filled) rp
    (accepts.numeric rp member) member
  rwa [Range.size_ofLen small] at fits

/-- When every request is answered, every entry comes from its answer. -/
theorem complete_of_answered (small : start.toNat + len < 2 ^ 64)
    (fits : ∀ rp ∈ rps, rp.Fits start len)
    (decodes : ∀ before rp after, rps = before ++ rp :: after →
      (∀ other ∈ after, other.number ≠ rp.number) → Decodes decode rp)
    (answered : Answered start len rps) {resp : BatchResponse ρ}
    (written : resp.responses = entries decode start len rps) : Complete decode start len rps resp := by
  refine ⟨by rw [written, length_entries], fun i inside => ?_⟩
  obtain ⟨first, member, named⟩ := answered i inside
  have keyed : ∃ rp ∈ rps, rp.slot start = i := ⟨first, member, slot_of_number (by omega) named⟩
  obtain ⟨before, rp, after, rfl, here, last⟩ := Slots.exists_last (Response.slot start) keyed
  subst here
  have own : rp ∈ before ++ rp :: after := List.mem_append_right _ List.mem_cons_self
  have kept : ∀ other ∈ after, other.number ≠ rp.number := by
    intro other later same
    exact last other later (by rw [Response.slot, Response.slot, same])
  refine ⟨rp, own, number_of_slot (fits rp own), entryOf decode rp,
    decodeEntry_of_decodes (decodes before rp after rfl kept), ?_⟩
  rw [written, entries]
  exact Slots.getElem?_writeAll_of_last _ _ last (by rwa [List.length_replicate])

/-- The responses left in the slots decode exactly when the last response for
    every id does. -/
theorem decodes_slots_iff {range : Range} (fits : ∀ rp ∈ rps, rp.Fits range.start range.size) :
    (∀ rp ∈ Client.slots range rps, Decodes decode rp) ↔
      ∀ before rp after, rps = before ++ rp :: after → (∀ other ∈ after, other.number ≠ rp.number) →
        Decodes decode rp := by
  constructor
  · rintro all before rp after rfl kept
    have own : rp ∈ before ++ rp :: after := List.mem_append_right _ List.mem_cons_self
    have last : ∀ other ∈ after, other.slot range.start ≠ rp.slot range.start := by
      intro other later
      have member : other ∈ before ++ rp :: after := List.mem_append_right _ (List.mem_cons_of_mem _ later)
      exact slot_inj (fits other member) (fits rp own) (kept other later)
    have stored : (Client.slots range (before ++ rp :: after))[rp.slot range.start]? = some rp :=
      Slots.getElem?_writeAll_of_last _ id last (by rw [List.length_replicate]; exact (fits rp own).2.2)
    exact all rp (List.mem_of_getElem? stored)
  · intro kept rp member
    obtain ⟨i, here⟩ := List.mem_iff_getElem?.mp member
    by_cases keyed : ∃ rp ∈ rps, rp.slot range.start = i
    · have inside : i < (List.replicate range.size Backend.placeholder).length := by
        obtain ⟨other, own, rfl⟩ := keyed
        rw [List.length_replicate]
        exact (fits other own).2.2
      obtain ⟨before, last, after, shape, named, final, stored⟩ :=
        Slots.getElem?_writeAll_of_named (Response.slot range.start) id keyed inside
      obtain rfl := Option.some.inj (here.symm.trans stored)
      refine kept before _ after shape fun other later same => final other later ?_
      rw [← named, Response.slot, Response.slot, same]
    · have unnamed : ∀ rp ∈ rps, rp.slot range.start ≠ i := fun rp own same => keyed ⟨rp, own, same⟩
      rw [Client.slots, Slots.getElem?_writeAll_of_unnamed _ _ unnamed] at here
      obtain rfl := List.eq_of_mem_replicate (List.mem_of_getElem? here)
      exact decodes_error rfl

section Clients

variable {ids : RequestIdManager} {batch : List (String × Option RawValue)} (nonempty : batch ≠ [])
  (fits : ids.currentId.toNat + batch.length < 2 ^ 64) {serde : SerdeJson} {raw : List UInt8}
  (holds : serde.responses raw = some rps) {resp : BatchResponse ρ}

include nonempty fits holds

theorem HttpClient.batchRequest_ok_iff :
    HttpClient.batchRequest (fun _ => HttpClient.serviceBatch serde raw) decode ids batch = .ok resp ↔
      HttpClient.Accepts decode ids.currentId rps ∧ resp =
        { successfulCalls := (rps.map (entryOf decode)).countP BatchEntry.isOk
          failedCalls := (rps.map (entryOf decode)).countP fun entry => !entry.isOk
          responses := entries decode ids.currentId rps.length rps } := by
  rw [HttpClient.batchRequest_eq_ok_iff nonempty fits (HttpClient.serviceBatch_of_responses holds)]
  rw [HttpClient.accepts_iff]
  rfl

variable {cfg : Config} {b : Backend} {handed : Table OneshotId Registration} (routed : Routed b handed)
  {oneshot : OneshotId}
  (pending : b.manager.batches.lookup (.ofLen ids.currentId batch.length) = some { sendBack := oneshot })

include routed pending

theorem Client.batchRequest_ok_iff :
    Client.batchRequest (fun _ _ => Client.serviceBatch serde cfg b oneshot raw) decode ids batch =
        some (.ok resp) ↔
      Client.Accepts decode ids.currentId batch.length rps ∧
        resp = .tally (entries decode ids.currentId batch.length rps) := by
  have size := Range.size_ofLen fits
  have filled := Range.start_lt_ofLen fits (List.length_pos_iff.mpr nonempty)
  have decoded : (Client.slots (.ofLen ids.currentId batch.length) rps).map (entryOf decode) =
      entries decode ids.currentId batch.length rps := by
    rw [Client.slots, Slots.map_writeAll, List.map_replicate, size]
    rfl
  rw [Client.batchRequest_eq_ok_iff nonempty fits]
  simp only [Client.serviceBatch_eq_some_iff routed filled pending holds, Except.ok.injEq]
  constructor
  · rintro ⟨_, ⟨⟨numeric, spans⟩, rfl⟩, decodes, rfl⟩
    have inside : ∀ rp ∈ rps, rp.Fits _ _ := fun rp member => spans.fits filled (numeric rp member) member
    exact ⟨⟨numeric, spans, (decodes_slots_iff inside).mp decodes⟩, by rw [decoded]⟩
  · rintro ⟨⟨numeric, spans, decodes⟩, rfl⟩
    have inside : ∀ rp ∈ rps, rp.Fits _ _ := fun rp member =>
      @Spans.fits (.ofLen ids.currentId batch.length) rps spans filled rp (numeric rp member) member
    exact ⟨_, ⟨⟨numeric, spans⟩, rfl⟩, (decodes_slots_iff inside).mpr decodes, by rw [decoded]⟩

end Clients

/-! ## Batch completeness -/

theorem Complete.answered {resp : BatchResponse ρ} (complete : Complete decode start len rps resp) :
    Answered start len rps := by
  intro i inside
  obtain ⟨rp, member, named, -⟩ := complete.2 i inside
  exact ⟨rp, member, named⟩

/-- A batch response is complete exactly when every request of the batch was
    answered, or the responses are not accepted in the first place. The HTTP
    client in addition needs as many responses as requests. -/
theorem batch_complete_iff {ids : RequestIdManager} {batch : List (String × Option RawValue)}
    (nonempty : batch ≠ []) (fits : ids.currentId.toNat + batch.length < 2 ^ 64)
    {serde : SerdeJson} {cfg : Config} {raw : List UInt8} (holds : serde.responses raw = some rps) {ts w}
    (run : Run (World.step serde cfg) .new ts w) {oneshot : OneshotId}
    (pending : w.backend.manager.batches.lookup (.ofLen ids.currentId batch.length) =
      some { sendBack := oneshot }) :
    ((∀ resp, Client.batchRequest (fun _ _ => Client.serviceBatch serde cfg w.backend oneshot raw)
        decode ids batch = some (.ok resp) → Complete decode ids.currentId batch.length rps resp) ↔
      (Client.Accepts decode ids.currentId batch.length rps → Answered ids.currentId batch.length rps)) ∧
    ((∀ resp, HttpClient.batchRequest (fun _ => HttpClient.serviceBatch serde raw) decode ids batch =
        .ok resp → Complete decode ids.currentId batch.length rps resp) ↔
      (HttpClient.Accepts decode ids.currentId rps →
        rps.length = batch.length ∧ Answered ids.currentId batch.length rps)) := by
  have filled := List.length_pos_iff.mpr nonempty
  simp only [Client.batchRequest_ok_iff nonempty fits holds (World.routed run) pending,
    HttpClient.batchRequest_ok_iff nonempty fits holds]
  refine ⟨⟨fun complete accepts => ?_, ?_⟩, ⟨fun complete accepts => ?_, ?_⟩⟩
  · exact (complete _ ⟨accepts, rfl⟩).answered
  · rintro answered resp ⟨accepts, rfl⟩
    exact complete_of_answered fits (accepts.fits fits filled) accepts.decodes (answered accepts) rfl
  · have all := complete _ ⟨accepts, rfl⟩
    exact ⟨by simpa only [length_entries] using all.1, all.answered⟩
  · rintro answered resp ⟨accepts, rfl⟩
    obtain ⟨length, answered⟩ := answered accepts
    have inside : ∀ rp ∈ rps, rp.Fits ids.currentId batch.length :=
      fun rp member => length ▸ (HttpClient.accepts_iff.mp accepts rp member).1
    refine complete_of_answered fits inside ?_ answered (by rw [length])
    rintro before rp after rfl -
    exact accepts.decodes rp (List.mem_append_right _ List.mem_cons_self)

namespace Exchange

/-- The message of a batch of method calls. -/
def batch (start : UInt64) (len : Nat) (sendBack : OneshotId) : FrontToBack :=
  .batch
    { raw := .arr ((Client.batchRequests .number (List.replicate len ("say_hello", none))
        (.ofLen start len)).map Request.toJson)
      ids := .ofLen start len
      sendBack }

/-- Results are numbers. -/
def number (result : RawValue) : Except String UInt64 :=
  match result.asU64 with
  | some n => .ok n
  | none => .error "invalid type, expected u64"

/-- The response in the text of `success`. -/
def response (id : UInt64) (result : Nat) : Response :=
  { jsonrpc := some .mk, payload := .success (.int result), id := .number id }

theorem responses_head {text : String × Json} {texts : List (String × Json)} {elems : List Json}
    {rps : List Response}
    (bracket : (bytes text.1).find? (fun byte => !Backend.isAsciiWhitespace byte) = some 91)
    (shape : text.2 = .arr elems) (parsed : elems.mapM Response.fromJson = some rps) :
    (reader (text :: texts)).responses (bytes text.1) = some rps := by
  simp only [SerdeJson.responses, bracket, reader_head, shape, parsed]

end Exchange

/-- Three requests, answered by two responses to the first and one to the last:
    both clients return `Ok` with a placeholder for the second, which the HTTP
    client counts as a success. -/
theorem batch_incomplete :
    let text := Exchange.array [Exchange.success 0 7, Exchange.success 2 9, Exchange.success 0 8]
    let serde := Exchange.reader [text]
    let cfg : Config := { maxBufferCapacityPerSubscription := 1, overflowChecks := true }
    let ids : RequestIdManager := { currentId := 0, idKind := .number }
    let rps := [Exchange.response 0 7, Exchange.response 2 9, Exchange.response 0 8]
    let batch := List.replicate 3 ("say_hello", none)
    let responses := [.ok 8, .error (.borrowed 0 "" none), .ok 9]
    ∃ ts w, Run (World.step serde cfg) .new ts w ∧
      w.backend.manager.batches.lookup (.ofLen 0 3) = some { sendBack := 0 } ∧
      serde.responses (Exchange.bytes text.1) = some rps ∧
      (Client.batchRequest (fun _ _ => Client.serviceBatch serde cfg w.backend 0 (Exchange.bytes text.1))
          Exchange.number ids batch = some (.ok { successfulCalls := 2, failedCalls := 1, responses }) ∧
        ¬ Complete Exchange.number 0 3 rps { successfulCalls := 2, failedCalls := 1, responses }) ∧
      (HttpClient.batchRequest (fun _ => HttpClient.serviceBatch serde (Exchange.bytes text.1))
          Exchange.number ids batch = .ok { successfulCalls := 3, failedCalls := 0, responses } ∧
        ¬ Complete Exchange.number 0 3 rps { successfulCalls := 3, failedCalls := 0, responses }) := by
  intro text serde cfg ids rps batch responses
  have missing : ¬ Answered 0 3 rps := by decide
  have parsed : serde.responses (Exchange.bytes text.1) = some rps :=
    Exchange.responses_head (by decide +kernel) rfl rfl
  have nonempty : batch ≠ [] := by decide
  have fits : ids.currentId.toNat + batch.length < 2 ^ 64 := by decide
  have numbers : rps.map Response.number = [0, 2, 0] := rfl
  have numeric : ∀ rp ∈ rps, rp.id.tryParseInnerAsNumber = .ok rp.number := by decide
  have decodes : ∀ rp ∈ rps, Decodes Exchange.number rp := by
    simp only [rps, List.forall_mem_cons]
    exact ⟨⟨_, rfl⟩, ⟨_, rfl⟩, ⟨_, rfl⟩, nofun⟩
  obtain ⟨ts, w, run, -, pending⟩ := Run.reaches (World.step serde cfg) .new [.front (Exchange.batch 0 3 0)]
    (fun w => w.backend.manager.batches.lookup (.ofLen 0 3) = some { sendBack := 0 }) (by decide)
  have pending := of_decide_eq_true pending
  refine ⟨ts, w, run, pending, parsed, ⟨?_, fun complete => missing complete.answered⟩,
    ?_, fun complete => missing complete.answered⟩
  · refine (Client.batchRequest_ok_iff nonempty fits parsed (World.routed run) pending).mpr
      ⟨⟨numeric, ?_, ?_⟩, rfl⟩
    · constructor <;> simp [ids, batch, numbers]
    · rintro before rp after shape -
      exact decodes rp (shape ▸ List.mem_append_right _ List.mem_cons_self)
  · exact (HttpClient.batchRequest_ok_iff nonempty fits parsed).mpr ⟨⟨numeric, by decide, decodes⟩, rfl⟩

/-- Two requests, answered in the other order. -/
theorem batch_complete_iff_crossed :
    let text := Exchange.array [Exchange.success 1 9, Exchange.success 0 7]
    let serde := Exchange.reader [text]
    let cfg : Config := { maxBufferCapacityPerSubscription := 1, overflowChecks := true }
    let ids : RequestIdManager := { currentId := 0, idKind := .number }
    let rps := [Exchange.response 1 9, Exchange.response 0 7]
    let batch := List.replicate 2 ("say_hello", none)
    ∃ ts w, Run (World.step serde cfg) .new ts w ∧ Answered 0 2 rps ∧
      (∀ resp, Client.batchRequest
        (fun _ _ => Client.serviceBatch serde cfg w.backend 0 (Exchange.bytes text.1)) Exchange.number ids batch =
          some (.ok resp) → Complete Exchange.number 0 2 rps resp) ∧
      ∀ resp, HttpClient.batchRequest (fun _ => HttpClient.serviceBatch serde (Exchange.bytes text.1))
        Exchange.number ids batch = .ok resp → Complete Exchange.number 0 2 rps resp := by
  intro text serde cfg ids rps batch
  have answered : Answered 0 2 rps := by decide
  have parsed : serde.responses (Exchange.bytes text.1) = some rps :=
    Exchange.responses_head (by decide +kernel) rfl rfl
  obtain ⟨ts, w, run, -, pending⟩ := Run.reaches (World.step serde cfg) .new [.front (Exchange.batch 0 2 0)]
    (fun w => w.backend.manager.batches.lookup (.ofLen 0 2) = some { sendBack := 0 }) (by decide)
  have nonempty : batch ≠ [] := by decide
  have fits : ids.currentId.toNat + batch.length < 2 ^ 64 := by decide
  have complete := @batch_complete_iff _ Exchange.number rps ids batch nonempty fits serde cfg _ parsed ts w run 0
    (of_decide_eq_true pending)
  exact ⟨ts, w, run, answered, complete.1.mpr fun _ => answered, complete.2.mpr fun _ => ⟨rfl, answered⟩⟩

/-! ## Agreement -/

section Agreement

variable {ids : RequestIdManager} {batch : List (String × Option RawValue)} (nonempty : batch ≠ [])
  (fits : ids.currentId.toNat + batch.length < 2 ^ 64)
  (answered : (rps.map Response.id).Perm ((List.range batch.length).map fun i =>
    ids.idKind.intoId (UInt64.ofNat (ids.currentId.toNat + i))))
  (decodes : ∀ rp ∈ rps, Decodes decode rp)

include fits answered

theorem ids_perm_numbers :
    (rps.map Response.id).Perm ((Range.ofLen ids.currentId batch.length).numbers.map ids.idKind.intoId) := by
  rw [Range.numbers_ofLen fits, List.map_map]
  exact answered

theorem fits_of_perm : ∀ rp ∈ rps, rp.Fits ids.currentId batch.length := by
  intro rp member
  have inside := fits_of_answered (ids_perm_numbers fits answered) member
  rwa [Range.size_ofLen fits] at inside

omit fits in
theorem length_of_perm : rps.length = batch.length := by
  simpa only [List.length_map, List.length_range] using answered.length_eq

omit fits in
theorem answered_of_perm : Answered ids.currentId batch.length rps := by
  intro i inside
  have member : ids.idKind.intoId (UInt64.ofNat (ids.currentId.toNat + i)) ∈ rps.map Response.id :=
    answered.mem_iff.mpr (List.mem_map_of_mem (List.mem_range.mpr inside))
  obtain ⟨rp, own, named⟩ := List.mem_map.mp member
  exact ⟨rp, own, by rw [named, IdKind.tryParse_intoId]⟩

/-- The entries are the decoded responses in another order. -/
theorem entries_perm :
    (entries decode ids.currentId batch.length rps).Perm (rps.map (entryOf decode)) := by
  have slots := slots_of_answered (ids_perm_numbers fits answered)
  have sorted : (Slots.writeAll (Response.slot ids.currentId) id rps
      (List.replicate batch.length Backend.placeholder)).Perm rps :=
    Slots.writeAll_perm _ slots (by rw [List.length_replicate, Range.size_ofLen fits])
  have decoded := sorted.map (entryOf decode)
  rwa [Slots.map_writeAll, List.map_replicate] at decoded

include nonempty decodes

theorem Client.accepts_of_perm : Client.Accepts decode ids.currentId batch.length rps where
  numeric rp member := (fits_of_perm fits answered rp member).1
  spans := (Range.spans_numbers (Range.start_lt_ofLen fits (List.length_pos_iff.mpr nonempty))).perm
    (numbers_of_answered (ids_perm_numbers fits answered)).symm
  decodes _ rp _ shape _ := decodes rp (shape ▸ List.mem_append_right _ List.mem_cons_self)

omit nonempty in
theorem HttpClient.accepts_of_perm : HttpClient.Accepts decode ids.currentId rps := by
  rw [HttpClient.accepts_iff, length_of_perm answered]
  exact fun rp member => ⟨fits_of_perm fits answered rp member, decodes rp member⟩

/-- On a batch that is answered in full, in any order, both clients return the
    same: the entry of every request is decoded from the response with its id,
    the numbers count the entries, and there is an error exactly when one of
    the calls failed. -/
theorem batch_clients_agree {serde : SerdeJson} {cfg : Config} {raw : List UInt8}
    (holds : serde.responses raw = some rps) {ts w} (run : Run (World.step serde cfg) .new ts w)
    {oneshot : OneshotId} (pending : w.backend.manager.batches.lookup (.ofLen ids.currentId batch.length) =
      some { sendBack := oneshot }) :
    ∃ resp, Client.batchRequest (fun _ _ => Client.serviceBatch serde cfg w.backend oneshot raw)
        decode ids batch = some (.ok resp) ∧
      HttpClient.batchRequest (fun _ => HttpClient.serviceBatch serde raw) decode ids batch = .ok resp ∧
      resp.responses.length = batch.length ∧
      (∀ i < batch.length, ∃ rp ∈ rps, rp.id = ids.idKind.intoId (UInt64.ofNat (ids.currentId.toNat + i)) ∧
        ∃ entry, decodeEntry decode rp = .ok entry ∧ resp.responses[i]? = some entry) ∧
      resp.successfulCalls = resp.responses.countP BatchEntry.isOk ∧
      (resp.failedCalls = resp.responses.countP fun entry => !entry.isOk) ∧
      ((∃ results, resp.intoOk = .ok results) ↔ ∀ entry ∈ resp.responses, entry.isOk = true) := by
  have length := length_of_perm answered
  have accepts := Client.accepts_of_perm nonempty fits answered decodes
  have complete : Complete decode ids.currentId batch.length rps
      (.tally (entries decode ids.currentId batch.length rps)) :=
    complete_of_answered fits (fits_of_perm fits answered) accepts.decodes (answered_of_perm answered) rfl
  refine ⟨.tally (entries decode ids.currentId batch.length rps), ?_, ?_, complete.1, ?_, rfl, rfl,
    BatchResponse.intoOk_tally _⟩
  · exact (Client.batchRequest_ok_iff nonempty fits holds (World.routed run) pending).mpr ⟨accepts, rfl⟩
  · refine (HttpClient.batchRequest_ok_iff nonempty fits holds).mpr
      ⟨HttpClient.accepts_of_perm fits answered decodes, ?_⟩
    have same : (entries decode ids.currentId batch.length rps).Perm _ := entries_perm fits answered
    rw [BatchResponse.tally, same.countP_eq, same.countP_eq, length]
  · intro i inside
    obtain ⟨rp, member, named, decoded⟩ := complete.2 i inside
    obtain ⟨own, -⟩ := id_of_answered (ids_perm_numbers fits answered) member
    refine ⟨rp, member, ?_, decoded⟩
    rw [own, Response.number, named]

end Agreement

/-- A batch with a failed call, answered in the other order. -/
theorem batch_clients_agree_crossed :
    let failed := ("\x7b\"jsonrpc\":\"2.0\",\"error\":\x7b\"code\":-32601," ++
        "\"message\":\"Method not found\"\x7d,\"id\":1\x7d",
      Json.obj [("jsonrpc", .str "2.0"),
        ("error", .obj [("code", .int (-32601)), ("message", .str "Method not found")]), ("id", .int 1)])
    let text := Exchange.array [failed, Exchange.success 0 7]
    let serde := Exchange.reader [text]
    let cfg : Config := { maxBufferCapacityPerSubscription := 1, overflowChecks := true }
    let ids : RequestIdManager := { currentId := 0, idKind := .number }
    let batch := List.replicate 2 ("say_hello", none)
    ∃ ts w resp, Run (World.step serde cfg) .new ts w ∧
      Client.batchRequest (fun _ _ => Client.serviceBatch serde cfg w.backend 0 (Exchange.bytes text.1))
        Exchange.number ids batch = some (.ok resp) ∧
      HttpClient.batchRequest (fun _ => HttpClient.serviceBatch serde (Exchange.bytes text.1))
        Exchange.number ids batch = .ok resp ∧ resp.responses.length = 2 := by
  intro failed text serde cfg ids batch
  let notFound : Response :=
    { jsonrpc := some .mk, payload := .error (.borrowed (-32601) "Method not found" none), id := .number 1 }
  have parsed : serde.responses (Exchange.bytes text.1) = some [notFound, Exchange.response 0 7] :=
    Exchange.responses_head (by decide +kernel) rfl rfl
  have answered : ([notFound, Exchange.response 0 7].map Response.id).Perm ((List.range batch.length).map fun i =>
      ids.idKind.intoId (UInt64.ofNat (ids.currentId.toNat + i))) := by decide
  have decodes : ∀ rp ∈ [notFound, Exchange.response 0 7], Decodes Exchange.number rp := by
    simp only [List.forall_mem_cons]
    exact ⟨⟨_, rfl⟩, ⟨_, rfl⟩, nofun⟩
  obtain ⟨ts, w, run, -, pending⟩ := Run.reaches (World.step serde cfg) .new [.front (Exchange.batch 0 2 0)]
    (fun w => w.backend.manager.batches.lookup (.ofLen 0 2) = some { sendBack := 0 }) (by decide)
  have nonempty : batch ≠ [] := by decide
  have fits : ids.currentId.toNat + batch.length < 2 ^ 64 := by decide
  obtain ⟨resp, async, http, length, -⟩ := batch_clients_agree nonempty fits answered decodes parsed run
    (of_decide_eq_true pending)
  exact ⟨ts, w, resp, run, async, http, length⟩

end Jsonrpsee
