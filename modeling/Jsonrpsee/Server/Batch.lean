import Jsonrpsee.Server.RpcService

/-! # What a batch answers

The loop of `RpcService::batch` against the plain meaning of a batch: every
entry is executed in order and gives a response or, as a notification, none.
The loop builds the array of these responses as long as it fits, and stops at
the first entry that makes it too long.
-/

namespace Jsonrpsee

namespace Server

abbrev Entry := Except BatchEntryErr BatchEntry

def Entry.isNotification : Entry → Bool
  | .ok (.notification _ _) => true
  | .ok (.call _ _) | .error _ => false

/-- The extensions of a batch response: those of its responses, in order. -/
def gather (extensions : Extensions) (responses : List MethodResponse) : Extensions :=
  responses.foldl (fun gathered response => gathered.extend response.extensions) extensions

/-- A property of prefixes that fails somewhere fails first behind some entry. -/
theorem exists_first {α : Type} {xs : List α} {p : List α → Prop} (start : p []) (fails : ¬ ∀ k, p (xs.take k)) :
    ∃ before x after, xs = before ++ x :: after ∧ (∀ k, p (before.take k)) ∧ ¬ p (before ++ [x]) := by
  induction xs generalizing p with
  | nil =>
      refine absurd (fun k => ?_) fails
      rw [List.take_nil]
      exact start
  | cons x rest ih =>
      by_cases here : p [x]
      · have later : ¬ ∀ k, p (x :: rest.take k) := by
          intro all
          refine fails fun k => ?_
          cases k with
          | zero => exact start
          | succ k => exact all k
        obtain ⟨before, y, after, rfl, fits, first⟩ := @ih (fun xs => p (x :: xs)) here later
        refine ⟨x :: before, y, after, rfl, ?_, first⟩
        intro k
        cases k with
        | zero => exact start
        | succ k => exact fits k
      · refine ⟨[], x, rest, rfl, fun k => ?_, here⟩
        rw [List.take_nil]
        exact start

namespace RpcService

variable {σ : Type}

/-- What one entry answers. -/
def reply (service : RpcService σ) (entry : Entry) (world : σ) : Option MethodResponse × σ :=
  match entry with
  | .ok (.call req extensions) =>
      let (rp, world) := service.call req extensions world
      (some rp, world)
  | .ok (.notification _ _) => (none, world)
  | .error e => (some (.error e.id e.err), world)

/-- The individual responses of entries that are all executed, in order. -/
def replies (service : RpcService σ) : List Entry → σ → List MethodResponse × σ
  | [], world => ([], world)
  | entry :: rest, world =>
      let (rp, world) := service.reply entry world
      let (rps, world) := service.replies rest world
      (rp.toList ++ rps, world)

variable (service : RpcService σ)

theorem replies_cons (entry : Entry) (rest : List Entry) (world : σ) :
    service.replies (entry :: rest) world =
      ((service.reply entry world).1.toList ++ (service.replies rest (service.reply entry world).2).1,
        (service.replies rest (service.reply entry world).2).2) := rfl

theorem replies_singleton (entry : Entry) (world : σ) :
    service.replies [entry] world = ((service.reply entry world).1.toList, (service.reply entry world).2) := by
  rw [replies_cons, replies, List.append_nil]

theorem reply_eq_none_iff (entry : Entry) (world : σ) :
    (service.reply entry world).1 = none ↔ entry.isNotification = true := by
  match entry with
  | .ok (.call _ _) => simp [reply, Entry.isNotification]
  | .ok (.notification _ _) => simp [reply, Entry.isNotification]
  | .error _ => simp [reply, Entry.isNotification]

/-- Nothing is answered exactly when there are only notifications. -/
theorem replies_eq_nil_iff (entries : List Entry) (world : σ) :
    (service.replies entries world).1 = [] ↔ ∀ entry ∈ entries, entry.isNotification = true := by
  induction entries generalizing world with
  | nil => simp [replies]
  | cons entry rest ih =>
      rw [replies_cons, List.append_eq_nil_iff, ih, List.forall_mem_cons, Option.toList_eq_nil_iff, reply_eq_none_iff]

/-- One turn of the loop. -/
theorem batchLoop_cons (entry : Entry) (rest : List Entry) (batchRp : BatchResponseBuilder) (got : Bool) (world : σ) :
    service.batchLoop (entry :: rest) batchRp got world =
      match service.reply entry world with
      | (none, world) => service.batchLoop rest batchRp true world
      | (some rp, world) =>
          match batchRp.append rp with
          | (.error err, _) => (err, world)
          | (.ok (), batchRp) => service.batchLoop rest batchRp got world := by
  match entry with
  | .ok (.call _ _) => rfl
  | .ok (.notification _ _) => rfl
  | .error _ => rfl

/-- The end of the loop. -/
def closing (accepted : List MethodResponse) (extensions : Extensions) (got : Bool) : MethodResponse :=
  if accepted = [] then
    if got then .notification
    else .fromBatch
      { json := .ofJson (Response.new (.error (.ofCode .invalidRequest)) .null).toJson, extensions }
  else .fromBatch { json := arrayOf accepted, extensions }

theorem closing_eq {batchRp : BatchResponseBuilder} {accepted : List MethodResponse} (holds : batchRp.Holds accepted)
    (got : Bool) :
    (if batchRp.isEmpty && got then MethodResponse.notification else .fromBatch batchRp.finish) =
      closing accepted batchRp.extensions got := by
  rw [closing, holds.finish_eq]
  by_cases empty : accepted = []
  · rw [holds.isEmpty_iff.mpr empty, if_pos empty]
    cases got <;> simp [empty]
  · have filled : batchRp.isEmpty = false := by
      rw [← Bool.not_eq_true, holds.isEmpty_iff]
      exact empty
    simp [filled, empty]

theorem batchLoop_nil {batchRp : BatchResponseBuilder} {accepted : List MethodResponse} (holds : batchRp.Holds accepted)
    (got : Bool) (world : σ) :
    service.batchLoop [] batchRp got world = (closing accepted batchRp.extensions got, world) := by
  rw [← closing_eq holds, batchLoop]
  split <;> rfl

/-- What fits behind the first entry. -/
theorem fits_behind {entry : Entry} {rest : List Entry} {limit : Nat} {accepted : List MethodResponse} {world : σ}
    (fits : ∀ k, Fits limit (accepted ++ (service.replies ((entry :: rest).take k) world).1)) (k : Nat) :
    Fits limit (accepted ++ (service.reply entry world).1.toList ++
      (service.replies (rest.take k) (service.reply entry world).2).1) := by
  have here := fits (k + 1)
  rwa [List.take_succ_cons, replies_cons, ← List.append_assoc] at here

/-- As long as every prefix fits, the loop gets through. -/
theorem batchLoop_of_fits {entries : List Entry} {batchRp : BatchResponseBuilder} {accepted : List MethodResponse}
    {got : Bool} {world : σ} (holds : batchRp.Holds accepted)
    (fits : ∀ k, Fits batchRp.maxResponseSize (accepted ++ (service.replies (entries.take k) world).1)) :
    service.batchLoop entries batchRp got world =
      (closing (accepted ++ (service.replies entries world).1)
        (gather batchRp.extensions (service.replies entries world).1) (got || entries.any Entry.isNotification),
        (service.replies entries world).2) := by
  induction entries generalizing batchRp accepted got world with
  | nil =>
      rw [service.batchLoop_nil holds]
      simp [replies, gather]
  | cons entry rest ih =>
      have later := service.fits_behind fits
      rw [batchLoop_cons, replies_cons, List.any_cons]
      cases answer : service.reply entry world with
      | mk rp after =>
          rw [answer] at later
          cases rp with
          | none =>
              have silent : entry.isNotification = true := by
                rw [← service.reply_eq_none_iff entry world, answer]
              simp only [Option.toList_none, List.append_nil] at later
              simp only [Option.toList_none, List.nil_append, ih holds later, silent, Bool.true_or, Bool.or_true]
          | some rp =>
              have loud : entry.isNotification = false := by
                rw [← Bool.not_eq_true, ← service.reply_eq_none_iff entry world, answer]
                simp
              have first := later 0
              simp only [Option.toList_some, List.take_zero, replies, List.append_nil] at first
              obtain ⟨next, appended, holdsNext, sameLimit, joined⟩ := holds.append_of_fits first
              simp only [Option.toList_some] at later
              rw [← sameLimit] at later
              simp only [appended, ih holdsNext later, joined, loud, Option.toList_some, Bool.false_or,
                List.append_assoc, gather, List.foldl_cons, List.singleton_append]

/-- The loop stops at the first entry that makes the array too long. -/
theorem batchLoop_of_not_fits {before after : List Entry} {entry : Entry} {batchRp : BatchResponseBuilder}
    {accepted : List MethodResponse} {got : Bool} {world : σ} (holds : batchRp.Holds accepted)
    (fits : ∀ k, Fits batchRp.maxResponseSize (accepted ++ (service.replies (before.take k) world).1))
    (large : ¬ Fits batchRp.maxResponseSize (accepted ++ (service.replies (before ++ [entry]) world).1)) :
    service.batchLoop (before ++ entry :: after) batchRp got world =
      (.error .null (rejectTooBigBatchResponse batchRp.maxResponseSize),
        (service.replies (before ++ [entry]) world).2) := by
  induction before generalizing batchRp accepted got world with
  | nil =>
      have small := fits 0
      simp only [List.take_zero, replies, List.append_nil] at small
      simp only [List.nil_append, replies_singleton] at large ⊢
      rw [batchLoop_cons]
      cases answer : service.reply entry world with
      | mk rp after =>
          rw [answer] at large
          cases rp with
          | none =>
              rw [Option.toList_none, List.append_nil] at large
              exact absurd small large
          | some rp =>
              have refused := holds.append_of_not_fits large
              cases appended : batchRp.append rp with
              | mk outcome next =>
                  rw [appended] at refused
                  subst refused
                  simp only [appended]
  | cons first rest ih =>
      have later := service.fits_behind fits
      rw [List.cons_append, replies_cons, ← List.append_assoc] at large
      rw [List.cons_append, List.cons_append, batchLoop_cons, replies_cons]
      cases answer : service.reply first world with
      | mk rp after =>
          rw [answer] at later large
          cases rp with
          | none =>
              simp only [Option.toList_none, List.append_nil] at later large
              exact ih holds later large
          | some rp =>
              have here := later 0
              simp only [Option.toList_some, List.take_zero, replies, List.append_nil] at here
              obtain ⟨next, appended, holdsNext, sameLimit, -⟩ := holds.append_of_fits here
              simp only [Option.toList_some] at later large
              rw [← sameLimit] at later large ⊢
              simp only [appended]
              exact ih holdsNext later large

/-- The batch gets through. -/
theorem batch_of_fits {entries : List Entry} {world : σ}
    (fits : ∀ k, Fits service.maxResponseBodySize (service.replies (entries.take k) world).1) :
    service.batch entries world =
      (closing (service.replies entries world).1 (gather ∅ (service.replies entries world).1)
        (entries.any Entry.isNotification), (service.replies entries world).2) := by
  have done := @batchLoop_of_fits σ service entries _ _ false world
    (BatchResponseBuilder.holds_newWithLimit service.maxResponseBodySize) fits
  rwa [List.nil_append, Bool.false_or] at done

/-- The batch is cut short. -/
theorem batch_of_not_fits {before after : List Entry} {entry : Entry} {world : σ}
    (fits : ∀ k, Fits service.maxResponseBodySize (service.replies (before.take k) world).1)
    (large : ¬ Fits service.maxResponseBodySize (service.replies (before ++ [entry]) world).1) :
    service.batch (before ++ entry :: after) world =
      (.error .null (rejectTooBigBatchResponse service.maxResponseBodySize),
        (service.replies (before ++ [entry]) world).2) :=
  service.batchLoop_of_not_fits (BatchResponseBuilder.holds_newWithLimit _) fits large

/-- The single error of an empty batch. -/
def invalidRequest : RawText := .ofJson (Response.new (.error (.ofCode .invalidRequest)) .null).toJson

theorem tooBig_json_ne (limit : Nat) :
    (MethodResponse.error .null (rejectTooBigBatchResponse limit)).json ≠ invalidRequest := by
  intro same
  have values := congrArg RawText.value same
  simp [invalidRequest, MethodResponse.error, RawText.ofJson, Response.toJson, Response.new, ErrorObject.toJson,
    rejectTooBigBatchResponse, exceeded, ErrorObject.owned, ErrorObject.ofCode] at values

/-- How the batch ends: with a refused entry, or behind the last one. -/
theorem batch_cases (entries : List Entry) (world : σ) :
    (service.batch entries world).1 = .error .null (rejectTooBigBatchResponse service.maxResponseBodySize) ∧
        (service.replies entries world).1 ≠ [] ∨
      (service.batch entries world).1 = closing (service.replies entries world).1
        (gather ∅ (service.replies entries world).1) (entries.any Entry.isNotification) := by
  by_cases fits : ∀ k, Fits service.maxResponseBodySize (service.replies (entries.take k) world).1
  · rw [service.batch_of_fits fits]
    exact .inr rfl
  · obtain ⟨before, entry, after, rfl, fits, large⟩ := exists_first
      (p := fun entries => Fits service.maxResponseBodySize (service.replies entries world).1) (.inl rfl) fits
    rw [service.batch_of_not_fits fits large]
    refine .inl ⟨rfl, fun silent => large (.inl ?_)⟩
    rw [replies_eq_nil_iff] at silent ⊢
    intro other member
    refine silent other ?_
    rcases List.mem_append.mp member with earlier | last
    · exact List.mem_append_left _ earlier
    · rw [List.mem_singleton.mp last]
      exact List.mem_append_right _ List.mem_cons_self

/-- Among notifications only, there is one exactly when there is an entry. -/
theorem any_isNotification_iff {entries : List Entry} (silent : ∀ entry ∈ entries, entry.isNotification = true) :
    entries.any Entry.isNotification = true ↔ entries ≠ [] := by
  cases entries with
  | nil => simp
  | cons entry rest => simp [silent entry List.mem_cons_self]

/-- The loop over something answered is not the loop over nothing. -/
theorem ne_nil_of_replies {entries : List Entry} {world : σ} (answered : (service.replies entries world).1 ≠ []) :
    entries ≠ [] := by
  rintro rfl
  exact answered rfl

theorem batch_silent_iff (entries : List Entry) (world : σ) :
    (service.batch entries world).1.kind = .notification ↔
      entries ≠ [] ∧ ∀ entry ∈ entries, entry.isNotification = true := by
  rw [← service.replies_eq_nil_iff entries world]
  rcases service.batch_cases entries world with ⟨refused, answered⟩ | ended
  · rw [refused]
    simp [MethodResponse.error, answered]
  · rw [ended, closing]
    by_cases silent : (service.replies entries world).1 = []
    · rw [if_pos silent, ← any_isNotification_iff ((service.replies_eq_nil_iff entries world).mp silent)]
      cases entries.any Entry.isNotification <;> simp [MethodResponse.notification, MethodResponse.fromBatch, silent]
    · rw [if_neg silent]
      simp [MethodResponse.fromBatch, silent]

theorem batch_invalid_iff (entries : List Entry) (world : σ) :
    (service.batch entries world).1.json = invalidRequest ↔ entries = [] := by
  rcases service.batch_cases entries world with ⟨refused, answered⟩ | ended
  · rw [refused]
    exact iff_of_false (tooBig_json_ne _) (service.ne_nil_of_replies answered)
  · rw [ended, closing]
    by_cases silent : (service.replies entries world).1 = []
    · have some := any_isNotification_iff ((service.replies_eq_nil_iff entries world).mp silent)
      rw [if_pos silent]
      cases notified : entries.any Entry.isNotification with
      | true =>
          refine iff_of_false (fun same => ?_) (some.mp notified)
          cases congrArg RawText.value same
      | false =>
          refine iff_of_true rfl ?_
          by_contra nonempty
          rw [some.mpr nonempty] at notified
          cases notified
    · rw [if_neg silent]
      refine iff_of_false (fun same => ?_) (service.ne_nil_of_replies silent)
      cases congrArg RawText.value same

/-- The semantics of a batch: the array of the individual responses while it
    fits, and otherwise an error at the first entry that does not fit, behind which
    nothing is executed. A batch of notifications is silent, and an empty batch is
    an invalid request. What is no request and no notification is an invalid
    request with the id that can be read from it. -/
theorem batch_semantics (entries : List Entry) (world : σ) :
    ((service.replies entries world).1 ≠ [] →
      (∀ k, Fits service.maxResponseBodySize (service.replies (entries.take k) world).1) →
      service.batch entries world =
        (.fromBatch
          { json := arrayOf (service.replies entries world).1
            extensions := gather ∅ (service.replies entries world).1 },
          (service.replies entries world).2)) ∧
    ((¬ ∀ k, Fits service.maxResponseBodySize (service.replies (entries.take k) world).1) →
      ∃ before entry after, entries = before ++ entry :: after ∧
        (∀ k, Fits service.maxResponseBodySize (service.replies (before.take k) world).1) ∧
        ¬ Fits service.maxResponseBodySize (service.replies (before ++ [entry]) world).1 ∧
        service.batch entries world =
          (.error .null (rejectTooBigBatchResponse service.maxResponseBodySize),
            (service.replies (before ++ [entry]) world).2)) ∧
    ((service.batch entries world).1.kind = .notification ↔
      entries ≠ [] ∧ ∀ entry ∈ entries, entry.isNotification = true) ∧
    ((service.batch entries world).1.json = invalidRequest ↔ entries = []) ∧
    (∀ extensions call e, readEntry extensions call = .error e →
      e = { id := (readInvalidRequest call).getD .null, err := .ofCode .invalidRequest }) := by
  refine ⟨?_, ?_, ?_, ?_, ?_⟩
  · intro answered fits
    rw [service.batch_of_fits fits, closing, if_neg answered]
  · intro fails
    obtain ⟨before, entry, after, rfl, fits, large⟩ := exists_first
      (p := fun entries => Fits service.maxResponseBodySize (service.replies entries world).1) (.inl rfl) fails
    exact ⟨before, entry, after, rfl, fits, large, service.batch_of_not_fits fits large⟩
  · exact service.batch_silent_iff entries world
  · exact service.batch_invalid_iff entries world
  · intro extensions call e invalid
    unfold readEntry at invalid
    split at invalid
    · cases invalid
    · split at invalid <;> cases invalid
      rfl

/-- A service with one method, which counts its calls. -/
def counting (limit : Nat) : RpcService Nat :=
  { methods := (∅ : Table String (MethodCallback Nat)).insert "echo" (.sync fun id _ max extensions calls =>
      ((MethodResponse.response id (.payload (.success (.str "a")) none) max).withExtensions extensions, calls + 1))
    maxResponseBodySize := limit
    connId := 0
    cfg := .onlyCalls }

/-- A call of its method. -/
def echo (id : UInt64) : Entry := .ok (.call { id := .number id, method := "echo", params := none } ∅)

/-- A call and an invalid entry that fit, and three calls of which the second one
    does not. -/
theorem batch_semantics_echo :
    ((counting 200).batch [echo 1, readEntry ∅ (.obj [("id", .int 7)])] 0 =
      (.fromBatch
        { json := arrayOf ((counting 200).replies [echo 1, readEntry ∅ (.obj [("id", .int 7)])] 0).1
          extensions := gather ∅ ((counting 200).replies [echo 1, readEntry ∅ (.obj [("id", .int 7)])] 0).1 }, 1)) ∧
    ((counting 50).batch [echo 1, echo 2, echo 3] 0).2 = 2 ∧
    ((counting 50).batch [echo 1, echo 2, echo 3] 0).1.json.value =
      (Response.new (.error (rejectTooBigBatchResponse 50)) .null).toJson := by
  refine ⟨?_, by decide +kernel, ?_⟩
  · refine ((counting 200).batch_semantics [echo 1, readEntry ∅ (.obj [("id", .int 7)])] 0).1 (by decide +kernel) ?_
    intro k
    match k with
    | 0 => exact .inl rfl
    | 1 => exact .inr (by decide +kernel)
    | k + 2 =>
        rw [List.take_of_length_le (by simp)]
        exact .inr (by decide +kernel)
  · have cut := ((counting 50).batch_semantics [echo 1, echo 2, echo 3] 0).2.1 (fun all =>
      absurd (all 2) (by decide +kernel))
    obtain ⟨before, entry, after, -, -, -, same⟩ := cut
    rw [same]
    rfl

end RpcService

end Server

end Jsonrpsee
