import Jsonrpsee.Http.Agreement

/-! # The numbers of a batch response

`into_ok` looks at the number of failed calls only. The asynchronous client
counts the entries that it returns. The HTTP client counts the responses that it
reads, and a response that is written over another one leaves a placeholder
behind in some other slot.
-/

namespace Jsonrpsee

variable {ρ : Type}

namespace BatchResponse

/-- The numbers are those of the entries, and `intoOk` returns all results exactly
    when no entry is an error. -/
structure Counted (b : BatchResponse ρ) : Prop where
  successful : b.successfulCalls = b.responses.countP BatchEntry.isOk
  failed : b.failedCalls = b.responses.countP fun entry => !entry.isOk
  intoOk : (∃ results, b.intoOk = .ok results) ↔ ∀ entry ∈ b.responses, entry.isOk = true
  all : ∀ results, b.intoOk = .ok results → results.length = b.responses.length

/-- An entry is a result or an error. -/
theorem length_eq_countP (entries : List (BatchEntry ρ)) :
    entries.length = entries.countP BatchEntry.isOk + entries.countP fun entry => !entry.isOk := by
  simpa using List.length_eq_countP_add_countP BatchEntry.isOk (l := entries)

theorem filterMap_ok {entries : List (BatchEntry ρ)} (good : ∀ entry ∈ entries, entry.isOk = true) :
    (entries.filterMap BatchEntry.ok?).length = entries.length := by
  induction entries with
  | nil => rfl
  | cons entry rest ih =>
      obtain ⟨here, later⟩ := List.forall_mem_cons.mp good
      cases entry with
      | error e => cases here
      | ok result =>
          rw [List.filterMap_cons_some (show BatchEntry.ok? (.ok result) = some result from rfl), List.length_cons,
            List.length_cons, ih later]

theorem counted_tally (entries : List (BatchEntry ρ)) : (tally entries).Counted := by
  refine ⟨rfl, rfl, intoOk_tally entries, ?_⟩
  intro results done
  have good := (intoOk_tally entries).mp ⟨results, done⟩
  unfold BatchResponse.intoOk at done
  split at done
  · cases done
  · cases done
    exact filterMap_ok good

/-- The number of successful calls decides, as long as every entry was counted. -/
theorem counted_iff {b : BatchResponse ρ} (total : b.successfulCalls + b.failedCalls = b.responses.length) :
    b.Counted ↔ b.responses.countP BatchEntry.isOk = b.successfulCalls := by
  constructor
  · intro counted
    exact counted.successful.symm
  · intro same
    have split := length_eq_countP b.responses
    have failed : b.failedCalls = b.responses.countP fun entry => !entry.isOk := by omega
    have whole : b = tally b.responses := by
      obtain ⟨successfulCalls, failedCalls, responses⟩ := b
      simp only [tally, mk.injEq, and_true]
      exact ⟨same.symm, failed⟩
    rw [whole]
    exact counted_tally b.responses

end BatchResponse

variable {decode : RawValue → Except String ρ}

/-- Whatever its service resolves to, the asynchronous client counts what it returns. -/
theorem Client.counted_of_batchRequest
    {service : List Request → Range → Option (Except InvalidRequestId (List Response))} {ids : RequestIdManager}
    {batch : List (String × Option RawValue)} {b : BatchResponse ρ}
    (returned : batchRequest service decode ids batch = some (.ok b)) : b.Counted := by
  by_cases empty : batch = []
  · simp [batchRequest, empty] at returned
  · by_cases fits : ids.currentId.toNat + batch.length < 2 ^ 64
    · obtain ⟨rps, -, -, rfl⟩ := (batchRequest_eq_ok_iff empty fits).mp returned
      exact BatchResponse.counted_tally _
    · simp only [batchRequest, empty, if_false, RequestIdManager.nextRequestId, generateBatchIdRange_intoId, fits] at returned
      cases returned

/-- No response with a result is followed by another one with its id. -/
def KeepsResults (rps : List Response) : Prop :=
  rps.Pairwise fun rp later => (∃ result, rp.payload = .success result) → rp.number ≠ later.number

theorem isOk_entryOf {rp : Response} (decodes : Decodes decode rp) :
    BatchEntry.isOk (entryOf decode rp) = true ↔ ∃ result, rp.payload = .success result := by
  obtain ⟨entry, decoded⟩ := decodes
  rw [entryOf, decoded]
  unfold decodeEntry Response.trySuccess at decoded
  cases payload : rp.payload with
  | error e =>
      simp only [payload] at decoded
      cases decoded
      simp [BatchEntry.isOk]
  | success result =>
      simp only [payload] at decoded
      cases read : decode result with
      | error e =>
          rw [read] at decoded
          cases decoded
      | ok value =>
          rw [read] at decoded
          cases decoded
          exact iff_of_true rfl ⟨result, rfl⟩

namespace HttpClient

theorem keepsResults_iff {start : UInt64} {len : Nat} {rps : List Response}
    (good : ∀ rp ∈ rps, rp.Fits start len ∧ Decodes decode rp) :
    KeepsResults rps ↔
      rps.Pairwise fun rp later => BatchEntry.isOk (entryOf decode rp) = true → rp.slot start ≠ later.slot start := by
  refine List.Pairwise.iff_of_mem fun {rp later} member memberLater => ?_
  obtain ⟨fits, decodes⟩ := good rp member
  rw [isOk_entryOf decodes]
  refine imp_congr_right fun _ => ⟨slot_inj fits (good later memberLater).1, fun apart same => apart ?_⟩
  rw [Response.slot, Response.slot, same]

theorem counted_iff_keepsResults {service : List Request → Except Error (List Response)} {ids : RequestIdManager}
    {batch : List (String × Option RawValue)} {rps : List Response} {b : BatchResponse ρ}
    (answered : service (Client.batchRequests ids.idKind batch (.ofLen ids.currentId batch.length)) = .ok rps)
    (returned : batchRequest service decode ids batch = .ok b) : b.Counted ↔ KeepsResults rps := by
  by_cases empty : batch = []
  · simp [batchRequest, empty] at returned
  · by_cases small : ids.currentId.toNat + batch.length < 2 ^ 64
    · obtain ⟨good, rfl⟩ := (batchRequest_eq_ok_iff empty small answered).mp returned
      have inside : ∀ rp ∈ rps, rp.slot ids.currentId <
          (List.replicate rps.length (.error (.borrowed 0 "" none) : BatchEntry ρ)).length := by
        intro rp member
        rw [List.length_replicate]
        exact (good rp member).1.2.2
      have written := Slots.countP_writeAll_eq_iff (Response.slot ids.currentId) (entryOf decode) BatchEntry.isOk inside
      have placeholders : (List.replicate rps.length (.error (.borrowed 0 "" none) : BatchEntry ρ)).countP
          BatchEntry.isOk = 0 := by
        rw [List.countP_replicate]
        rfl
      have untouched : ∀ rp ∈ rps, ∀ entry,
          (List.replicate rps.length (.error (.borrowed 0 "" none) : BatchEntry ρ))[rp.slot ids.currentId]? =
            some entry → BatchEntry.isOk entry = false := by
        intro rp _ entry here
        rw [List.eq_of_mem_replicate (List.mem_of_getElem? here)]
        rfl
      rw [placeholders, Nat.zero_add, ← List.countP_map, and_iff_left untouched] at written
      rw [BatchResponse.counted_iff, written, keepsResults_iff good]
      rw [Slots.length_writeAll, List.length_replicate, ← BatchResponse.length_eq_countP, List.length_map]
    · simp only [batchRequest, empty, if_false, RequestIdManager.nextRequestId, generateBatchIdRange_intoId, small] at returned
      cases returned

end HttpClient

/-- The numbers of the asynchronous client are always right. Those of the HTTP client
    are right exactly when no result is written over. -/
theorem batch_counters (decode : RawValue → Except String ρ) (ids : RequestIdManager)
    (batch : List (String × Option RawValue)) :
    (∀ service b, Client.batchRequest service decode ids batch = some (.ok b) → b.Counted) ∧
    ∀ service rps b,
      service (Client.batchRequests ids.idKind batch (.ofLen ids.currentId batch.length)) = .ok rps →
      HttpClient.batchRequest service decode ids batch = .ok b → (b.Counted ↔ KeepsResults rps) :=
  ⟨fun _ _ => Client.counted_of_batchRequest, fun _ _ _ => HttpClient.counted_iff_keepsResults⟩

/-- An error that is replaced by a result leaves the numbers right. -/
theorem batch_counters_replaced :
    let notFound : Response :=
      { jsonrpc := some .mk, payload := .error (.borrowed (-32601) "Method not found" none), id := .number 0 }
    let ids : RequestIdManager := { currentId := 0, idKind := .number }
    ∃ b, HttpClient.batchRequest (fun _ => .ok [notFound, Exchange.response 0 7]) Exchange.number ids
        [("say_hello", none), ("say_hello", none)] = .ok b ∧ b.Counted := by
  intro notFound ids
  refine ⟨_, rfl, ?_⟩
  refine ((batch_counters Exchange.number ids [("say_hello", none), ("say_hello", none)]).2
    (fun _ => .ok [notFound, Exchange.response 0 7]) [notFound, Exchange.response 0 7] _ rfl rfl).mpr ?_
  simp [KeepsResults, notFound]

/-- Two results with one id: `intoOk` returns one result for the two calls. -/
theorem counters_of_repeated_id :
    ∃ b, HttpClient.batchRequest (fun _ => .ok [Exchange.response 0 7, Exchange.response 0 8]) Exchange.number
        { currentId := 0, idKind := .number } [("say_hello", none), ("say_hello", none)] = .ok b ∧
      ¬ b.Counted := by
  refine ⟨_, rfl, ?_⟩
  intro counted
  exact absurd counted.successful (by decide)

end Jsonrpsee
