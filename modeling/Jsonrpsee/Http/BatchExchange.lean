import Jsonrpsee.Http.Agreement
import Jsonrpsee.Http.Exchange

/-! # Batches over HTTP

A batch is one exchange too. It may come back as the array of what its calls got, or
fail at one of five limits: on the body, twice, on its length, on the responses of the
server and on what the client takes.
-/

namespace Jsonrpsee

variable {ρ σ : Type}

namespace HttpLink

variable {link : HttpLink σ}

/-- The entries of a batch of requests, as the server reads them. -/
def asked (link : HttpLink σ) (reqs : List Request) : List Server.Entry :=
  reqs.map fun req => .ok (.call req.received link.extensions)

/-- The responses to all calls of a batch. -/
def replies (link : HttpLink σ) (reqs : List Request) (world : σ) : List Server.MethodResponse :=
  (link.service.replies (link.asked reqs) world).1

/-- No part of the responses is too long for the server. -/
def RepliesFit (link : HttpLink σ) (reqs : List Request) (world : σ) : Prop :=
  ∀ k, Server.Fits link.service.maxResponseBodySize (link.service.replies ((link.asked reqs).take k) world).1

/-- The text of a batch. -/
def batchText (reqs : List Request) : String := (Json.arr (reqs.map Request.toJson)).render

/-- The batch is within the limits: of the client, of the server on the size and on the
    length, of the server on the array of responses, and of the client again. -/
structure Serves (link : HttpLink σ) (reqs : List Request) (world : σ) : Prop where
  sent : link.refusal (batchText reqs) = none
  allowed : link.batchRequestsConfig.allows reqs.length
  fits : link.RepliesFit reqs world
  received : link.loss (Server.arrayOf (link.replies reqs world)).text = none

/-- The texts are those of the response objects. -/
abbrev Holds (rps : List Server.MethodResponse) (rs : List Response) : Prop :=
  List.Forall₂ (fun rp r => r.Built ∧ rp.json = .ofJson r.toJson) rps rs

theorem mapM_of_holds {rps : List Server.MethodResponse} {rs : List Response} (holds : Holds rps rs) :
    (rps.map (·.json.value)).mapM Response.fromJson = some (rs.map Response.reread) := by
  induction holds with
  | nil => rfl
  | @cons rp r rps rs own _ ih =>
      have read : Response.fromJson r.toJson = some r.reread := Response.fromJson_toJson own.1
      have value : rp.json.value = r.toJson := by
        rw [own.2]
        rfl
      rw [List.map_cons, List.mapM_cons, value, read, ih]
      rfl

/-- Every call of a batch gets a response object, under its id or none. -/
theorem replies_asked (plain : link.service.OverHttp) (reqs : List Request) (world : σ) :
    ∃ rs, Holds (link.replies reqs world) rs ∧
      List.Forall₂ (fun (r : Response) (req : Request) => r.id = req.id ∨ r.id = .null) rs reqs := by
  unfold replies asked
  induction reqs generalizing world with
  | nil => exact ⟨[], .nil, .nil⟩
  | cons req rest ih =>
      obtain ⟨r, answers⟩ := plain.answers req.received link.extensions world
      obtain ⟨rs, holds, ids⟩ := ih (link.service.call req.received link.extensions world).2
      exact ⟨r :: rs, .cons ⟨answers.built, answers.json⟩ holds, .cons (answers.id.imp id And.left) ids⟩

theorem batchText_starts (reqs : List Request) :
    ∃ rest, (batchText reqs).toByteArray.data.toList = firstByte false :: rest := Json.bytes_arr _

theorem arrayOf_starts (rps : List Server.MethodResponse) :
    ∃ rest, (Server.arrayOf rps).text.toByteArray.data.toList = firstByte false :: rest := by
  refine ⟨(",".intercalate (rps.map (·.json.text)) ++ "]").toByteArray.data.toList, ?_⟩
  rw [Server.arrayOf, String.append_assoc, String.toByteArray_append, ByteArray.data_append, Array.toList_append]
  rfl

section Batch

variable {reqs : List Request} (nonempty : reqs ≠ [])
  (reads : link.serde.fromSlice (Json.arr (reqs.map Request.toJson)).bytes = .ok (.arr (reqs.map Request.toJson)))

include nonempty reads

/-- The batch is answered by the array of the responses, or by a single error. -/
theorem handled_batch (plain : link.service.OverHttp) (world : σ) :
    (link.batchRequestsConfig.allows reqs.length ∧ link.RepliesFit reqs world ∧
      (link.handled (batchText reqs) false world).1.json = Server.arrayOf (link.replies reqs world)) ∨
    (¬ (link.batchRequestsConfig.allows reqs.length ∧ link.RepliesFit reqs world) ∧
      ∃ err, (link.handled (batchText reqs) false world).1 = .error .null err) := by
  have length : (reqs.map Request.toJson).length = reqs.length := List.length_map _
  by_cases allowed : link.batchRequestsConfig.allows reqs.length
  · have message : link.handled (batchText reqs) false world = link.service.batch (link.asked reqs) world := by
      have read := Server.readMessage_batch reads (length ▸ allowed) link.extensions
      unfold Json.bytes at read
      rw [handled, Server.handleRpcCall, batchText, read, List.map_map]
      have entries : reqs.map (Server.readEntry link.extensions ∘ Request.toJson) = link.asked reqs := by
        refine List.map_congr_left fun req _ => ?_
        simp only [Function.comp_apply, Server.readEntry, readRequest_received]
      rw [entries]
    rw [message]
    by_cases fits : link.RepliesFit reqs world
    · refine .inl ⟨allowed, fits, ?_⟩
      have answered : (link.service.replies (link.asked reqs) world).1 ≠ [] := by
        obtain ⟨rs, holds, ids⟩ := replies_asked plain reqs world
        intro none
        rw [replies, none] at holds
        cases holds
        cases ids
        exact nonempty rfl
      rw [link.service.batch_of_fits fits, Server.RpcService.closing, if_neg answered]
      rfl
    · refine .inr ⟨fun both => fits both.2, ?_⟩
      obtain ⟨before, entry, after, shape, fitting, large⟩ := Server.exists_first
        (p := fun entries => Server.Fits link.service.maxResponseBodySize (link.service.replies entries world).1)
        (.inl rfl) fits
      rw [shape, link.service.batch_of_not_fits fitting large]
      exact ⟨_, rfl⟩
  · refine .inr ⟨fun both => allowed both.1, ?_⟩
    obtain ⟨err, refused⟩ := Server.readMessage_batch_refused reads (length ▸ allowed)
    have message := refused link.extensions
    unfold Json.bytes at message
    rw [handled, Server.handleRpcCall, batchText, message]
    exact ⟨err, rfl⟩

/-- The service of the client resolves to the responses of all calls exactly when the
    batch is within the limits; otherwise it fails. -/
theorem batch_ok_iff (ready : link.Ready) {world : σ} {rs : List Response} (holds : Holds (link.replies reqs world) rs)
    (readsBack :
      let rp := (link.handled (batchText reqs) false world).1
      link.serde.fromSlice rp.json.bytes = .ok rp.json.value) (rps : List Response) :
    (HttpClient.batch link.serde link.post reqs world).1 = .ok rps ↔
      link.Serves reqs world ∧ rps = rs.map Response.reread := by
  obtain ⟨_, starts⟩ := batchText_starts reqs
  have posted := post_eq ready.json (ready.up _) starts world
  dsimp only at readsBack
  unfold batchText at posted
  rw [HttpClient.batch, posted]
  cases refused : link.refusal (batchText reqs) with
  | some e =>
      unfold batchText at refused
      rw [refused]
      refine iff_of_false (fun failed => by cases failed) fun both => ?_
      have sent := both.1.sent
      unfold batchText at sent
      rw [refused] at sent
      cases sent
  | none =>
      have sent := refused
      unfold batchText at refused
      rw [refused]
      dsimp only
      rcases handled_batch nonempty reads ready.plain world with ⟨allowed, fits, array⟩ | ⟨unserved, err, error⟩
      · rw [array] at readsBack
        have array : (link.handled (Json.arr (reqs.map Request.toJson)).render false world).1.json = _ := array
        obtain ⟨_, startsBack⟩ := arrayOf_starts (link.replies reqs world)
        rw [array, read_response (ready.down _) startsBack]
        cases lost : link.loss (Server.arrayOf (link.replies reqs world)).text with
        | some e =>
            refine iff_of_false (fun failed => by cases failed) fun both => ?_
            rw [both.1.received] at lost
            cases lost
        | none =>
            have elems := mapM_of_holds holds
            have value : (Server.arrayOf (link.replies reqs world)).value =
                .arr ((link.replies reqs world).map (·.json.value)) := rfl
            rw [value] at readsBack
            unfold RawText.bytes at readsBack
            simp only [HttpClient.serviceBatch, readsBack, elems, Except.ok.injEq]
            exact ⟨fun same => ⟨⟨sent, allowed, fits, lost⟩, same.symm⟩, fun both => both.2.symm⟩
      · refine iff_of_false ?_ fun both => unserved ⟨both.1.allowed, both.1.fits⟩
        rw [error] at readsBack
        have error : (link.handled (Json.arr (reqs.map Request.toJson)).render false world).1 = _ := error
        have text : (Server.MethodResponse.error .null err).json.text =
            (Response.new (.error err) .null).toJson.render := rfl
        obtain ⟨_, startsBack⟩ : ∃ rest, (Response.new (.error err) .null).toJson.render.toByteArray.data.toList =
            firstByte true :: rest := Json.bytes_obj _
        rw [error, text, read_response (ready.down _) startsBack]
        cases link.loss (Response.new (.error err) .null).toJson.render with
        | some e => exact fun failed => by cases failed
        | none =>
            have object : link.serde.fromSlice (Response.new (.error err) .null).toJson.render.toByteArray.data.toList =
                .ok (Response.new (.error err) .null).toJson := readsBack
            simp only [HttpClient.serviceBatch, object]
            exact fun failed => by cases failed

end Batch

/-- The requests of a batch. -/
def requestsOf (ids : RequestIdManager) (batch : List (String × Option RawValue)) : List Request :=
  Client.batchRequests ids.idKind batch (.ofLen ids.currentId batch.length)

section Drawn

variable {ids : RequestIdManager} {batch : List (String × Option RawValue)}
  (unwrapped : ids.currentId.toNat + batch.length < 2 ^ 64)

include unwrapped

theorem ids_requestsOf : (requestsOf ids batch).map Request.id =
    (List.range batch.length).map fun i => ids.idKind.intoId (UInt64.ofNat (ids.currentId.toNat + i)) := by
  have drawn := @Client.batchIds_batchRequests ids.idKind batch _ (Range.size_ofLen unwrapped)
  rw [batchIds_map, Range.numbers_ofLen unwrapped, List.map_map] at drawn
  exact Option.some.inj drawn

/-- Responses in the order of the requests. -/
theorem slots_in_order {rs : List Response} (same : rs.map Response.id = (requestsOf ids batch).map Request.id) :
    rs.map (Response.slot ids.currentId) = List.range batch.length := by
  rw [ids_requestsOf unwrapped] at same
  have length : rs.length = batch.length := by
    simpa only [List.length_map, List.length_range] using congrArg List.length same
  refine List.ext_getElem (by rw [List.length_map, List.length_range, length]) fun i inside below => ?_
  rw [List.length_map] at inside
  rw [List.length_range] at below
  have named : rs[i].id = ids.idKind.intoId (UInt64.ofNat (ids.currentId.toNat + i)) := by
    have here := congrArg (·[i]?) same
    simpa [inside, below] using here
  rw [List.getElem_map, List.getElem_range]
  exact slot_of_number (by omega) (by rw [named, IdKind.tryParse_intoId])

/-- Responses under the ids of the requests have slots; one that has lost its id has none. -/
theorem fits_iff {rs : List Response}
    (asked : List.Forall₂ (fun (r : Response) (req : Request) => r.id = req.id ∨ r.id = .null) rs
      (requestsOf ids batch)) :
    (∀ r ∈ rs, r.reread.Fits ids.currentId batch.length) ↔
      rs.map Response.id = (requestsOf ids batch).map Request.id := by
  constructor
  · intro fits
    have numeric : ∀ r ∈ rs, r.id ≠ .null := by
      rintro r member null
      have number := (fits r member).1
      rw [Response.reread, null] at number
      cases number
    clear fits
    generalize requestsOf ids batch = reqs at asked ⊢
    induction asked with
    | nil => rfl
    | cons own _ ih =>
        rw [List.map_cons, List.map_cons, own.resolve_right (numeric _ List.mem_cons_self),
          ih fun r member => numeric r (List.mem_cons_of_mem _ member)]
  · intro same r member
    have slots := slots_in_order unwrapped same
    have inside : r.slot ids.currentId < batch.length :=
      List.mem_range.mp (slots ▸ List.mem_map_of_mem member)
    have drawn : r.id ∈ (requestsOf ids batch).map Request.id := same ▸ List.mem_map_of_mem member
    rw [ids_requestsOf unwrapped] at drawn
    obtain ⟨i, below, named⟩ := List.mem_map.mp drawn
    rw [List.mem_range] at below
    have number : r.id.tryParseInnerAsNumber = .ok (UInt64.ofNat (ids.currentId.toNat + i)) := by
      rw [← named, IdKind.tryParse_intoId]
    refine ⟨?_, ?_, inside⟩
    · show r.id.tryParseInnerAsNumber = .ok r.number
      rw [Response.number, number]
    · show ids.currentId ≤ r.number
      rw [Response.number, number, UInt64.le_iff_toNat_le, UInt64.toNat_ofNat_of_lt' (show _ < 2 ^ 64 by omega)]
      exact Nat.le_add_right ..

end Drawn

/-- A batch comes back exactly when it is within all limits, every call has kept its id
    and every result decodes. Its entries are then what the methods have answered, run
    one after the other, in the order of the requests, with their numbers. -/
theorem batch_over_http (ready : link.Ready) (decode : RawValue → Except String ρ) (ids : RequestIdManager)
    (batch : List (String × Option RawValue)) (nonempty : batch ≠ [])
    (unwrapped : ids.currentId.toNat + batch.length < 2 ^ 64) (world : σ)
    (reads : link.serde.fromSlice (Json.arr ((requestsOf ids batch).map Request.toJson)).bytes =
      .ok (.arr ((requestsOf ids batch).map Request.toJson)))
    (readsBack :
      let rp := (link.handled (batchText (requestsOf ids batch)) false world).1
      link.serde.fromSlice rp.json.bytes = .ok rp.json.value) :
    ∃ rs, Holds (link.replies (requestsOf ids batch) world) rs ∧
      ∀ resp, link.batchRequest decode ids batch world = .ok resp ↔
        link.Serves (requestsOf ids batch) world ∧
          rs.map Response.id = (requestsOf ids batch).map Request.id ∧
          (∀ r ∈ rs, Decodes decode r.reread) ∧ resp = .tally (rs.map fun r => entryOf decode r.reread) := by
  obtain ⟨rs, holds, asked⟩ := replies_asked ready.plain (requestsOf ids batch) world
  refine ⟨rs, holds, fun resp => ?_⟩
  have length : rs.length = batch.length := by
    have drawn := congrArg List.length (ids_requestsOf unwrapped)
    rw [List.length_map, List.length_map, List.length_range] at drawn
    exact asked.length_eq.trans drawn
  have filled : requestsOf ids batch ≠ [] := by
    intro none
    rw [none] at asked
    cases asked
    exact nonempty (List.length_eq_zero_iff.mp length.symm)
  have served := batch_ok_iff filled reads ready holds readsBack
  cases answered : (HttpClient.batch link.serde link.post (requestsOf ids batch) world).1 with
  | error e =>
      refine iff_of_false ?_ fun good => ?_
      · unfold requestsOf at answered
        simp only [batchRequest, HttpClient.batchRequest, nonempty, if_false, RequestIdManager.nextRequestId,
          generateBatchIdRange_intoId, unwrapped, if_true, answered]
        exact fun failed => by cases failed
      · have resolved := (served _).mpr ⟨good.1, rfl⟩
        rw [answered] at resolved
        cases resolved
  | ok rps =>
      obtain ⟨serves, rfl⟩ := (served rps).mp answered
      have counted := @HttpClient.batchRequest_eq_ok_iff ρ decode
        (fun reqs => (HttpClient.batch link.serde link.post reqs world).1) ids batch nonempty unwrapped _ answered resp
      have kept := fits_iff unwrapped asked
      rw [batchRequest, counted]
      simp only [List.length_map, length, List.forall_mem_map, forall_and, kept, serves, true_and, and_assoc]
      refine and_congr_right fun same => and_congr_right fun _ => ?_
      have keys : (rs.map Response.reread).map (Response.slot ids.currentId) =
          List.range (List.replicate batch.length (.error (.borrowed 0 "" none) : BatchEntry ρ)).length := by
        rw [List.map_map, List.length_replicate]
        exact slots_in_order unwrapped same
      rw [Slots.writeAll_in_order (Response.slot ids.currentId) (entryOf decode) keys, List.map_map]
      rfl

/-- A batch of two calls, one of which names no method. -/
theorem batch_over_http_sum :
    let unknown : Response := .new (.error (.ofCode .methodNotFound)) (.number 1)
    let reqs := [sumRequest 0 "sum", sumRequest 1 "product"]
    let link := sumLink [.arr (reqs.map Request.toJson), .arr [(sumResponse 0).toJson, unknown.toJson]]
    ∃ rs resp, Holds (link.replies reqs ()) rs ∧
      link.batchRequest (fun val => val.asI32.elim (.error "") .ok) { currentId := 0, idKind := .number }
        [("sum", none), ("product", none)] () = .ok resp ∧
      resp = .tally (rs.map fun r => entryOf (fun val => val.asI32.elim (.error "") .ok) r.reread) ∧
      resp.successfulCalls = 1 ∧ resp.failedCalls = 1 := by
  intro unknown reqs link
  obtain ⟨rs, holds, outcome⟩ := batch_over_http
    (sumLink_ready [.arr (reqs.map Request.toJson), .arr [(sumResponse 0).toJson, unknown.toJson]])
    (fun val => val.asI32.elim (.error "") .ok) { currentId := 0, idKind := .number }
    [("sum", none), ("product", none)] (List.cons_ne_nil _ _) (by decide) () (by decide +kernel) (by decide +kernel)
  have counted : (link.batchRequest (fun val => val.asI32.elim (.error "") .ok) { currentId := 0, idKind := .number }
      [("sum", none), ("product", none)] ()).toOption.map (fun resp => (resp.successfulCalls, resp.failedCalls)) =
        some (1, 1) := by decide +kernel
  cases returned : link.batchRequest (fun val => val.asI32.elim (.error "") .ok) { currentId := 0, idKind := .number }
      [("sum", none), ("product", none)] () with
  | error e =>
      rw [returned] at counted
      cases counted
  | ok resp =>
      rw [returned] at counted
      have counts := Option.some.inj counted
      have same := ((outcome resp).mp returned).2.2.2
      exact ⟨rs, resp, holds, rfl, same, congrArg Prod.fst counts, congrArg Prod.snd counts⟩

end HttpLink

end Jsonrpsee
