import Jsonrpsee.Client.BatchRequest

/-! # Batch requests of the HTTP client

The same interface over one HTTP exchange. The loop of the HTTP client does in
one pass what the asynchronous client does in two: it decodes, counts and puts
every response into its slot. Its slots are as many as the responses it got.
-/

namespace Jsonrpsee

variable {ρ : Type}

namespace HttpClient

/-- The body of the reply to a batch. Of the errors that the deserializer
    reports on a body of another shape only the kind is kept. -/
def serviceBatch (serde : SerdeJson) (raw : List UInt8) : Except Error (List Response) :=
  match serde.fromSlice raw with
  | .error e => .error (.parseError e)
  | .ok (.arr elems) =>
      match elems.mapM Response.fromJson with
      | some rps => .ok rps
      | none => .error (.parseError "invalid response")
  | .ok _ => .error (.parseError "invalid type, expected a sequence")

/-- The loop over the responses: parse the id, decode and count, then look for
    the slot. -/
def fillResponses (decode : RawValue → Except String ρ) (start : UInt64) :
    List Response → BatchResponse ρ → Except Error (BatchResponse ρ)
  | [], acc => .ok acc
  | rp :: rest, acc =>
      match rp.id.tryParseInnerAsNumber with
      | .error e => .error (.invalidRequestId e)
      | .ok id =>
          match decodeEntry decode rp with
          | .error e => .error e
          | .ok res =>
              let acc := acc.count res
              match slotOf start id with
              | none => .error (.invalidRequestId (.notPendingRequest (Nat.repr id.toNat)))
              | some slot =>
                  if slot < acc.responses.length then
                    fillResponses decode start rest { acc with responses := acc.responses.set slot res }
                  else .error (.invalidRequestId (.notPendingRequest (Nat.repr id.toNat)))

def batchRequest (service : List Request → Except Error (List Response))
    (decode : RawValue → Except String ρ) (ids : RequestIdManager)
    (batch : List (String × Option RawValue)) : Except Error (BatchResponse ρ) :=
  if batch = [] then .error .emptyBatchRequest
  else
    let (id, ids) := ids.nextRequestId
    match generateBatchIdRange id batch.length with
    | .error e => .error e
    | .ok range =>
        match service (Client.batchRequests ids.idKind batch range) with
        | .error e => .error e
        | .ok rps =>
            -- Fill the batch response with placeholder values.
            fillResponses decode range.start rps
              { successfulCalls := 0
                failedCalls := 0
                responses := List.replicate rps.length (.error (.borrowed 0 "" none)) }

theorem serviceBatch_of_responses {serde : SerdeJson} {raw : List UInt8} {rps : List Response}
    (holds : serde.responses raw = some rps) : serviceBatch serde raw = .ok rps := by
  unfold SerdeJson.responses at holds
  split at holds
  · rename_i elems bracket parsed
    simp only [serviceBatch, parsed, holds]
  · cases holds

variable {decode : RawValue → Except String ρ} {start : UInt64}

theorem fillResponses_cons {rp : Response} {rest : List Response} {acc resp : BatchResponse ρ} :
    fillResponses decode start (rp :: rest) acc = .ok resp ↔
      (rp.Fits start acc.responses.length ∧ Decodes decode rp) ∧
        fillResponses decode start rest
          { acc.count (entryOf decode rp) with
            responses := acc.responses.set (rp.slot start) (entryOf decode rp) } = .ok resp := by
  cases parsed : rp.id.tryParseInnerAsNumber with
  | error e => simp only [fillResponses, parsed, Response.Fits, reduceCtorEq, false_and]
  | ok n =>
      have number : rp.number = n := by rw [Response.number, parsed]
      cases decoded : decodeEntry decode rp with
      | error e =>
          have fails : ¬ Decodes decode rp := by
            rintro ⟨entry, here⟩
            cases decoded.symm.trans here
          simp only [fillResponses, parsed, decoded, reduceCtorEq, fails, and_false, false_and]
      | ok entry =>
          have own : entryOf decode rp = entry := by rw [entryOf, decoded]
          have decodes : Decodes decode rp := ⟨entry, decoded⟩
          simp only [fillResponses, parsed, decoded, own, decodes, Response.Fits, Response.slot, number,
            slotOf, BatchResponse.count_responses, and_true, true_and]
          by_cases above : start ≤ n
          · by_cases inside : n.toNat - start.toNat < acc.responses.length
            · simp only [above, inside, if_true, true_and, and_self]
            · simp only [above, inside, if_true, if_false, reduceCtorEq, and_false, false_and]
          · simp only [above, if_false, reduceCtorEq, false_and]

/-- The loop succeeds exactly when every response has a slot and decodes. -/
theorem fillResponses_eq_ok_iff {rps : List Response} {acc resp : BatchResponse ρ} :
    fillResponses decode start rps acc = .ok resp ↔
      (∀ rp ∈ rps, rp.Fits start acc.responses.length ∧ Decodes decode rp) ∧ resp =
        { successfulCalls := acc.successfulCalls + (rps.map (entryOf decode)).countP BatchEntry.isOk
          failedCalls := acc.failedCalls + (rps.map (entryOf decode)).countP fun entry => !entry.isOk
          responses := Slots.writeAll (Response.slot start) (entryOf decode) rps acc.responses } := by
  induction rps generalizing acc with
  | nil =>
      simp only [fillResponses, Except.ok.injEq, List.not_mem_nil, false_implies, implies_true, true_and,
        List.map_nil, List.countP_nil, Nat.add_zero, Slots.writeAll, List.foldl_nil]
      exact eq_comm
  | cons rp rest ih =>
      have written : Slots.writeAll (Response.slot start) (entryOf decode) (rp :: rest) acc.responses =
          Slots.writeAll (Response.slot start) (entryOf decode) rest
            (acc.responses.set (rp.slot start) (entryOf decode rp)) := rfl
      rw [fillResponses_cons, ih, written]
      simp only [List.length_set, List.forall_mem_cons, List.map_cons, List.countP_cons, and_assoc]
      cases entryOf decode rp <;>
        simp only [BatchResponse.count, BatchEntry.isOk, Bool.not_true, Bool.not_false, if_true,
          Bool.false_eq_true, if_false, Nat.add_zero, Nat.add_assoc, Nat.add_comm 1]

theorem batchRequest_eq_ok_iff {service : List Request → Except Error (List Response)}
    {ids : RequestIdManager} {batch : List (String × Option RawValue)} (nonempty : batch ≠ [])
    (fits : ids.currentId.toNat + batch.length < 2 ^ 64) {rps : List Response}
    (answered : service (Client.batchRequests ids.idKind batch (.ofLen ids.currentId batch.length)) = .ok rps)
    {resp : BatchResponse ρ} :
    batchRequest service decode ids batch = .ok resp ↔
      (∀ rp ∈ rps, rp.Fits ids.currentId rps.length ∧ Decodes decode rp) ∧ resp =
        { successfulCalls := (rps.map (entryOf decode)).countP BatchEntry.isOk
          failedCalls := (rps.map (entryOf decode)).countP fun entry => !entry.isOk
          responses := Slots.writeAll (Response.slot ids.currentId) (entryOf decode) rps
            (List.replicate rps.length (.error (.borrowed 0 "" none))) } := by
  simp only [batchRequest, nonempty, if_false, RequestIdManager.nextRequestId, generateBatchIdRange_intoId,
    fits, if_true, answered, fillResponses_eq_ok_iff, List.length_replicate, Nat.zero_add]
  rfl

end HttpClient

end Jsonrpsee
