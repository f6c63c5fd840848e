import Jsonrpsee.Client.Session
import Jsonrpsee.Client.Routing

/-! # Batch requests of the asynchronous client

`batch_request` hands the requests to its service and decodes the responses it
gets back, one after the other. The service is the background: it resolves when
`read_task` answers the oneshot of the batch.
-/

namespace Jsonrpsee

/-- Represent a single entry in a batch response. -/
abbrev BatchEntry (ρ : Type) := Except ErrorObject ρ

/-- Batch response. -/
structure BatchResponse (ρ : Type) where
  successfulCalls : Nat
  failedCalls : Nat
  responses : List (BatchEntry ρ)

variable {ρ : Type}

namespace BatchEntry

def isOk : BatchEntry ρ → Bool
  | .ok _ => true
  | .error _ => false

def ok? : BatchEntry ρ → Option ρ
  | .ok result => some result
  | .error _ => none

def err? : BatchEntry ρ → Option ErrorObject
  | .ok _ => none
  | .error e => some e

end BatchEntry

namespace BatchResponse

/-- The results if all calls were successful, the errors otherwise. `ok` gives the same,
    by reference. -/
def intoOk (b : BatchResponse ρ) : Except (List ErrorObject) (List ρ) :=
  if 0 < b.failedCalls then .error (b.responses.filterMap BatchEntry.err?)
  else .ok (b.responses.filterMap BatchEntry.ok?)

/-- Count one more entry. -/
def count (b : BatchResponse ρ) : BatchEntry ρ → BatchResponse ρ
  | .ok _ => { b with successfulCalls := b.successfulCalls + 1 }
  | .error _ => { b with failedCalls := b.failedCalls + 1 }

@[simp] theorem count_responses (b : BatchResponse ρ) (entry : BatchEntry ρ) :
    (b.count entry).responses = b.responses := by
  cases entry <;> rfl

end BatchResponse

/-- One response of a batch: the error of a failed call is an entry, a result
    that does not deserialize fails the batch. -/
def decodeEntry (decode : RawValue → Except String ρ) (rp : Response) : Except Error (BatchEntry ρ) :=
  match rp.trySuccess with
  | .error err => .ok (.error err)
  | .ok val =>
      match decode val with
      | .error e => .error (.parseError e)
      | .ok result => .ok (.ok result)

namespace Client

/-- The loop over the responses the service returned. -/
def decodeResponses (decode : RawValue → Except String ρ) :
    List Response → BatchResponse ρ → Except Error (BatchResponse ρ)
  | [], acc => .ok acc
  | rp :: rest, acc =>
      match decodeEntry decode rp with
      | .error e => .error e
      | .ok entry =>
          let acc := acc.count entry
          decodeResponses decode rest { acc with responses := acc.responses ++ [entry] }

/-- `batch_request`; `none` while the service has not resolved. -/
def batchRequest (service : List Request → Range → Option (Except InvalidRequestId (List Response)))
    (decode : RawValue → Except String ρ) (ids : RequestIdManager)
    (batch : List (String × Option RawValue)) : Option (Except Error (BatchResponse ρ)) :=
  if batch = [] then some (.error .emptyBatchRequest)
  else
    let (id, ids) := ids.nextRequestId
    match generateBatchIdRange id batch.length with
    | .error e => some (.error e)
    | .ok range =>
        match service (batchRequests ids.idKind batch range) range with
        | none => none
        | some (.error e) => some (.error (.invalidRequestId e))
        | some (.ok jsonValues) =>
            some (decodeResponses decode jsonValues
              { successfulCalls := 0, failedCalls := 0, responses := [] })

/-- What the oneshot of a batch has been answered with. -/
def batchReply (b : Backend) (oneshot : OneshotId) : Option (Except InvalidRequestId (List Response)) :=
  b.channels.answers.findSome? fun answer =>
    match answer.reply with
    | .batch r => if answer.oneshot = oneshot then some r else none
    | .call _ | .subscription _ | .notification _ => none

/-- The service of a batch that waits in the shared state: it resolves to what
    `read_task` answers when it gets the text. -/
def serviceBatch (serde : SerdeJson) (cfg : Config) (b : Backend) (oneshot : OneshotId) (raw : List UInt8) :
    Option (Except InvalidRequestId (List Response)) :=
  batchReply (b.handleRecvMessage serde cfg raw).2 oneshot

end Client

/-! ## What the decoding loop returns -/

section Decoding

variable (decode : RawValue → Except String ρ)

/-- The result of the call deserializes, or the call failed. -/
def Decodes (rp : Response) : Prop := ∃ entry, decodeEntry decode rp = .ok entry

/-- The entry that a response is decoded to; a result that does not deserialize
    has none. -/
def entryOf (rp : Response) : BatchEntry ρ :=
  match decodeEntry decode rp with
  | .ok entry => entry
  | .error _ => .error (.borrowed 0 "" none)

variable {decode}

theorem decodeEntry_of_decodes {rp : Response} (decodes : Decodes decode rp) :
    decodeEntry decode rp = .ok (entryOf decode rp) := by
  obtain ⟨entry, decoded⟩ := decodes
  rw [entryOf, decoded]

/-- An error object is its own entry. -/
theorem decodes_error {rp : Response} {e : ErrorObject} (failed : rp.payload = .error e) :
    Decodes decode rp := by
  refine ⟨.error e, ?_⟩
  simp only [decodeEntry, Response.trySuccess, failed]

end Decoding

namespace BatchResponse

/-- The entries in order, with their numbers. -/
def tally (entries : List (BatchEntry ρ)) : BatchResponse ρ :=
  { successfulCalls := entries.countP BatchEntry.isOk
    failedCalls := entries.countP fun entry => !entry.isOk
    responses := entries }

/-- A batch response with correct numbers is `Ok` exactly when no entry is an
    error. -/
theorem intoOk_tally (entries : List (BatchEntry ρ)) :
    (∃ results, (tally entries).intoOk = .ok results) ↔ ∀ entry ∈ entries, entry.isOk = true := by
  have none : 0 < (tally entries).failedCalls ↔ ¬ ∀ entry ∈ entries, entry.isOk = true := by
    simp only [tally, List.countP_pos_iff, Bool.not_eq_true', not_forall, exists_prop, Bool.not_eq_true]
  unfold intoOk
  split
  · rename_i some
    refine ⟨?_, fun all => absurd all (none.mp some)⟩
    rintro ⟨_, ⟨⟩⟩
  · rename_i all
    exact ⟨fun _ => not_not.mp fun some => all (none.mpr some), fun _ => ⟨_, rfl⟩⟩

end BatchResponse

namespace Client

variable {decode : RawValue → Except String ρ}

theorem decodeResponses_eq_ok_iff {rps : List Response} {acc resp : BatchResponse ρ} :
    decodeResponses decode rps acc = .ok resp ↔
      (∀ rp ∈ rps, Decodes decode rp) ∧ resp =
        { successfulCalls := acc.successfulCalls + (rps.map (entryOf decode)).countP BatchEntry.isOk
          failedCalls := acc.failedCalls + (rps.map (entryOf decode)).countP fun entry => !entry.isOk
          responses := acc.responses ++ rps.map (entryOf decode) } := by
  induction rps generalizing acc with
  | nil =>
      simp only [decodeResponses, Except.ok.injEq, List.not_mem_nil, false_implies, implies_true, true_and,
        List.map_nil, List.countP_nil, Nat.add_zero, List.append_nil]
      exact eq_comm
  | cons rp rest ih =>
      cases decoded : decodeEntry decode rp with
      | error e =>
          have fails : ¬ Decodes decode rp := by
            rintro ⟨entry, here⟩
            cases decoded.symm.trans here
          simp only [decodeResponses, decoded, reduceCtorEq, List.forall_mem_cons, fails, false_and]
      | ok entry =>
          have own : entryOf decode rp = entry := by rw [entryOf, decoded]
          have decodes : Decodes decode rp := ⟨entry, decoded⟩
          simp only [decodeResponses, decoded, ih, List.forall_mem_cons, decodes, true_and, List.map_cons, own,
            List.countP_cons]
          cases entry <;>
            simp only [BatchResponse.count, BatchEntry.isOk, List.append_assoc, List.singleton_append,
              Bool.not_true, Bool.not_false, if_true, Bool.false_eq_true, if_false, Nat.add_zero,
              Nat.add_assoc, Nat.add_comm 1]

/-! ## What the service resolves to -/

variable {serde : SerdeJson} {cfg : Config} {b after : Backend} {oneshot : OneshotId}

theorem batchReply_of_unanswered (unanswered : oneshot ∉ b.channels.answered) :
    batchReply b oneshot = none := by
  refine List.findSome?_eq_none_iff.mpr fun answer member => ?_
  have other : answer.oneshot ≠ oneshot := by
    rintro rfl
    exact unanswered (List.mem_map_of_mem member)
  cases answer.reply with
  | batch r => exact if_neg other
  | call | subscription | notification => rfl

theorem batchReply_answered (unanswered : oneshot ∉ b.channels.answered)
    {other : OneshotId} {responses : Except InvalidRequestId (List Response)} {delivered : Bool}
    (answers : after.channels.answers =
      b.channels.answers ++ [{ oneshot := other, reply := .batch responses, delivered }]) :
    batchReply after oneshot = if other = oneshot then some responses else none := by
  have before : b.channels.answers.findSome? _ = none := batchReply_of_unanswered unanswered
  rw [batchReply, answers, List.findSome?_append, before, Option.none_or]
  simp only [List.findSome?_cons, List.findSome?_nil]
  split <;> simp_all

/-- The section of a batch answers the oneshot that waits under its range. -/
theorem batchReply_step {rps : List Response} {range : Range} {out : Output}
    (step : b.Step cfg (.batch rps range) out after) (unanswered : oneshot ∉ b.channels.answered)
    {r : Except InvalidRequestId (List Response)} :
    batchReply after oneshot = some r ↔ b.manager.batches.lookup range = some { sendBack := oneshot } ∧
      ∃ responses, r = .ok responses ∧ Backend.storeResponses range.start rps
        (List.replicate range.size Backend.placeholder) = .ok responses := by
  cases step with
  | @batchAnswered _ state responses _ pending stored =>
      rw [batchReply_answered unanswered (Channels.send_answers _ _ _), pending, stored]
      obtain ⟨waiting⟩ := state
      by_cases own : waiting = oneshot
      · simp only [own, if_true, true_and, Option.some.injEq, Except.ok.injEq, exists_eq_right']
        exact eq_comm
      · simp only [own, if_false, reduceCtorEq, Option.some.injEq, BatchState.mk.injEq, false_and]
  | batchUnstorable pending failed =>
      rw [batchReply_of_unanswered (by exact unanswered), failed]
      simp only [reduceCtorEq, and_false, exists_const]
  | batchUnknown unknown =>
      rw [batchReply_of_unanswered unanswered, unknown]
      simp only [reduceCtorEq, false_and]

/-- The slots of a batch after its responses have been put in. -/
def slots (range : Range) (rps : List Response) : List Response :=
  Slots.writeAll (Response.slot range.start) id rps (List.replicate range.size Backend.placeholder)

section Service

variable {handed : Table OneshotId Registration} (routed : Routed b handed) {range : Range}
  (nonempty : range.start < range.stop)
  (pending : b.manager.batches.lookup range = some { sendBack := oneshot })
  {raw : List UInt8} {rps : List Response} (holds : serde.responses raw = some rps)

include routed nonempty pending holds

/-- The service resolves exactly on an array whose ids are numbers from the
    first to the last id of the batch, and never fails then. -/
theorem serviceBatch_eq_some_iff {r : Except InvalidRequestId (List Response)} :
    serviceBatch serde cfg b oneshot raw = some r ↔
      ((∀ rp ∈ rps, rp.id.tryParseInnerAsNumber = .ok rp.number) ∧
        Spans { range with stop := range.stop - 1 } (rps.map Response.number)) ∧
      r = .ok (slots range rps) := by
  have held : b.manager.Holds oneshot (.batch range) := .batch pending
  have unanswered := (routed.held held).2
  constructor
  · intro resolved
    rcases Backend.recv_responses_state holds cfg b with same | ⟨numeric, span, spans, ran⟩
    · rw [serviceBatch, same, batchReply_of_unanswered unanswered] at resolved
      cases resolved
    · rw [serviceBatch, ran, batchReply_step (Backend.apply_step cfg b _) unanswered] at resolved
      obtain ⟨found, responses, rfl, stored⟩ := resolved
      -- The sender waits under one range only.
      have recorded := (routed.held (.batch found)).1
      have own := Registration.batch.inj (Option.some.inj (recorded.symm.trans (routed.held held).1))
      subst own
      refine ⟨⟨numeric, ?_⟩, congrArg _ (Backend.storeResponses_eq_ok_iff.mp stored).2⟩
      simpa only [UInt64.add_sub_cancel] using spans
  · rintro ⟨⟨numeric, spans⟩, rfl⟩
    have handled := Backend.recv_responses holds numeric spans (Range.stop_sub_one_lt nonempty) cfg b
    rw [UInt64.sub_add_cancel] at handled
    rw [serviceBatch, handled, batchReply_step (Backend.apply_step cfg b _) unanswered]
    refine ⟨pending, _, rfl, Backend.storeResponses_eq_ok_iff.mpr ⟨fun rp member => ?_, rfl⟩⟩
    rw [List.length_replicate]
    exact spans.fits nonempty (numeric rp member) member

end Service

/-- What `batch_request` returns `Ok` with, once its range does not wrap. -/
theorem batchRequest_eq_ok_iff
    {service : List Request → Range → Option (Except InvalidRequestId (List Response))}
    {ids : RequestIdManager} {batch : List (String × Option RawValue)} (nonempty : batch ≠ [])
    (fits : ids.currentId.toNat + batch.length < 2 ^ 64) {resp : BatchResponse ρ} :
    batchRequest service decode ids batch = some (.ok resp) ↔
      ∃ rps, service (batchRequests ids.idKind batch (.ofLen ids.currentId batch.length))
          (.ofLen ids.currentId batch.length) = some (.ok rps) ∧
        (∀ rp ∈ rps, Decodes decode rp) ∧ resp = .tally (rps.map (entryOf decode)) := by
  simp only [batchRequest, nonempty, if_false, RequestIdManager.nextRequestId, generateBatchIdRange_intoId,
    fits, if_true]
  split
  · rename_i waits
    rw [waits]
    simp only [reduceCtorEq, false_and, exists_const]
  · rename_i failed
    rw [failed]
    simp only [Option.some.injEq, reduceCtorEq, false_and, exists_const]
  · rename_i rps answered
    rw [answered]
    simp only [Option.some.injEq, Except.ok.injEq, exists_eq_left', decodeResponses_eq_ok_iff,
      Nat.zero_add, List.nil_append]
    rfl

end Client

end Jsonrpsee
