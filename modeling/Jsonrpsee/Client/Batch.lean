import Jsonrpsee.Lib.Slots
import Jsonrpsee.Client.Step

/-! # Received arrays of responses

The handler of a received array keeps the least and the greatest id it has
seen, and the range between them is the key of the pending batch. The responses
are then written into slots by their distance from the first id. Both loops are
described here once: the range spans the ids, and the slots hold, for every
offset, the last response with that id.
-/

namespace Jsonrpsee

/-- The number of a response's id; ids that are no numbers are refused before
    it is used. -/
def Response.number (rp : Response) : UInt64 :=
  match rp.id.tryParseInnerAsNumber with
  | .ok n => n
  | .error _ => 0

/-- The slot of a response in a batch that starts at `start`. -/
def Response.slot (start : UInt64) (rp : Response) : Nat := rp.number.toNat - start.toNat

theorem Response.number_intoId {rp : Response} {kind : IdKind} {n : UInt64}
    (named : rp.id = kind.intoId n) : rp.number = n := by
  rw [number, named, IdKind.tryParse_intoId]

/-- The id of the response is a number in the slots of the batch. -/
def Response.Fits (start : UInt64) (len : Nat) (rp : Response) : Prop :=
  rp.id.tryParseInnerAsNumber = .ok rp.number ∧ start ≤ rp.number ∧ rp.slot start < len

namespace Backend

/-- The loop succeeds exactly when every response has a slot, and then it is
    the plain writing loop. -/
theorem storeResponses_eq_ok_iff {start : UInt64} {rps slots out : List Response} :
    storeResponses start rps slots = .ok out ↔
      (∀ rp ∈ rps, rp.Fits start slots.length) ∧ out = Slots.writeAll (Response.slot start) id rps slots := by
  induction rps generalizing slots with
  | nil =>
      simp only [storeResponses, Except.ok.injEq, List.not_mem_nil, false_implies, implies_true,
        true_and, Slots.writeAll, List.foldl_nil]
      exact eq_comm
  | cons rp rest ih =>
      have written : Slots.writeAll (Response.slot start) id (rp :: rest) slots =
          Slots.writeAll (Response.slot start) id rest (slots.set (rp.slot start) rp) := rfl
      simp only [List.forall_mem_cons, written]
      cases parsed : rp.id.tryParseInnerAsNumber with
      | error e =>
          simp only [storeResponses, parsed, Response.Fits, reduceCtorEq, false_and]
      | ok n =>
          have number : rp.number = n := by rw [Response.number, parsed]
          simp only [storeResponses, parsed, Response.Fits, number, true_and, slotOf, Response.slot]
          by_cases above : start ≤ n
          · by_cases inside : n.toNat - start.toNat < slots.length
            · simp only [above, inside, if_true, true_and, ih, List.length_set]
              rfl
            · simp only [above, inside, if_true, if_false, reduceCtorEq, and_false, false_and]
          · simp only [above, if_false, reduceCtorEq, false_and]

end Backend

/-! ## The range of an array -/

/-- The range runs from the least to the greatest number, both included. -/
structure Spans (range : Range) (ns : List UInt64) : Prop where
  start_mem : range.start ∈ ns
  stop_mem : range.stop ∈ ns
  start_le : ∀ n ∈ ns, range.start ≤ n
  le_stop : ∀ n ∈ ns, n ≤ range.stop

/-- The same numbers are spanned by one range only. -/
theorem Spans.unique {range range' : Range} {ns ns' : List UInt64} (spans : Spans range ns)
    (spans' : Spans range' ns') (same : ∀ n, n ∈ ns ↔ n ∈ ns') : range = range' := by
  obtain ⟨start, stop⟩ := range
  obtain ⟨start', stop'⟩ := range'
  have low : start = start' := UInt64.le_antisymm
    (spans.start_le _ ((same _).mpr spans'.start_mem)) (spans'.start_le _ ((same _).mp spans.start_mem))
  have high : stop = stop' := UInt64.le_antisymm
    (spans'.le_stop _ ((same _).mp spans.stop_mem)) (spans.le_stop _ ((same _).mpr spans'.stop_mem))
  rw [low, high]

theorem Spans.perm {range : Range} {ns ns' : List UInt64} (spans : Spans range ns) (same : ns.Perm ns') :
    Spans range ns' where
  start_mem := same.mem_iff.mp spans.start_mem
  stop_mem := same.mem_iff.mp spans.stop_mem
  start_le n member := spans.start_le n (same.mem_iff.mpr member)
  le_stop n member := spans.le_stop n (same.mem_iff.mpr member)

namespace Backend

theorem widen_spans {range : Range} {ns : List UInt64} (spans : Spans range ns) (n : UInt64) :
    Spans (widen (some range) n) (ns ++ [n]) := by
  obtain ⟨startMem, stopMem, startLe, leStop⟩ := spans
  constructor <;> simp only [widen, Option.getD_some] <;> grind

/-- The loop over the ids ends with their span. -/
theorem foldl_widen_spans (n : UInt64) (ns : List UInt64) :
    ∃ range, (n :: ns).foldl (fun range n => some (widen range n)) none = some range ∧
      Spans range (n :: ns) := by
  induction ns using List.reverseRecOn with
  | nil => exact ⟨widen none n, rfl, by constructor <;> simp [widen]⟩
  | append_singleton ns last ih =>
      obtain ⟨range, folded, spans⟩ := ih
      refine ⟨widen (some range) last, ?_, widen_spans spans last⟩
      rw [← List.cons_append, List.foldl_append, folded, List.foldl_cons, List.foldl_nil]

end Backend

namespace Range

theorem mem_numbers {range : Range} {n : UInt64} :
    n ∈ range.numbers ↔ range.start ≤ n ∧ n < range.stop := by
  have bound := range.stop.toNat_lt
  simp only [numbers, size, List.mem_map, List.mem_range, UInt64.le_iff_toNat_le, UInt64.lt_iff_toNat_lt]
  constructor
  · rintro ⟨offset, inside, rfl⟩
    rw [UInt64.toNat_ofNat_of_lt' (show _ < 2 ^ 64 by omega)]
    omega
  · rintro ⟨above, below⟩
    refine ⟨n.toNat - range.start.toNat, by omega, ?_⟩
    rw [Nat.add_sub_cancel' above, UInt64.ofNat_toNat]

@[simp] theorem length_numbers (range : Range) : range.numbers.length = range.size := by
  simp only [numbers, List.length_map, List.length_range]

theorem toNat_stop_sub_one {range : Range} (nonempty : range.start < range.stop) :
    (range.stop - 1).toNat = range.stop.toNat - 1 := by
  rw [UInt64.lt_iff_toNat_lt] at nonempty
  rw [UInt64.toNat_sub_of_le _ _ (by rw [UInt64.le_iff_toNat_le, UInt64.toNat_one]; omega), UInt64.toNat_one]

/-- The exclusive end of the range does not wrap. -/
theorem stop_sub_one_lt {range : Range} (nonempty : range.start < range.stop) :
    (range.stop - 1).toNat + 1 < 2 ^ 64 := by
  have bound := range.stop.toNat_lt
  rw [toNat_stop_sub_one nonempty]
  rw [UInt64.lt_iff_toNat_lt] at nonempty
  omega

/-- The inclusive range of the ids of a batch. -/
theorem spans_numbers {range : Range} (nonempty : range.start < range.stop) :
    Spans { range with stop := range.stop - 1 } range.numbers := by
  have last := toNat_stop_sub_one nonempty
  rw [UInt64.lt_iff_toNat_lt] at nonempty
  constructor
  · exact mem_numbers.mpr ⟨UInt64.le_refl _, UInt64.lt_iff_toNat_lt.mpr nonempty⟩
  · rw [mem_numbers, UInt64.le_iff_toNat_le, UInt64.lt_iff_toNat_lt]
    dsimp only
    omega
  · exact fun n member => (mem_numbers.mp member).1
  · intro n member
    have below := (mem_numbers.mp member).2
    rw [UInt64.lt_iff_toNat_lt] at below
    rw [UInt64.le_iff_toNat_le]
    dsimp only
    omega

end Range

/-- Responses with ids between the ends of the range have a slot. -/
theorem Spans.fits {range : Range} {rps : List Response}
    (spans : Spans { range with stop := range.stop - 1 } (rps.map Response.number))
    (nonempty : range.start < range.stop) {rp : Response}
    (numeric : rp.id.tryParseInnerAsNumber = .ok rp.number) (member : rp ∈ rps) :
    rp.Fits range.start range.size := by
  have low := spans.start_le _ (List.mem_map_of_mem member)
  have high := UInt64.le_iff_toNat_le.mp (spans.le_stop _ (List.mem_map_of_mem member))
  rw [Range.toNat_stop_sub_one nonempty] at high
  have below := UInt64.le_iff_toNat_le.mp low
  rw [UInt64.lt_iff_toNat_lt] at nonempty
  refine ⟨numeric, low, ?_⟩
  simp only [Response.slot, Range.size]
  dsimp only at below
  omega

/-! ## A batch that is answered in full -/

section Answered

variable {kind : IdKind} {range : Range} {rps : List Response}
  (ids : (rps.map Response.id).Perm (range.numbers.map kind.intoId))

include ids

/-- Every response carries an id of the batch. -/
theorem id_of_answered {rp : Response} (member : rp ∈ rps) :
    rp.id = kind.intoId rp.number ∧ rp.number ∈ range.numbers := by
  obtain ⟨n, inside, named⟩ := List.mem_map.mp (ids.mem_iff.mp (List.mem_map_of_mem member))
  have number := Response.number_intoId named.symm
  exact ⟨by rw [number, named], number ▸ inside⟩

theorem fits_of_answered {rp : Response} (member : rp ∈ rps) : rp.Fits range.start range.size := by
  obtain ⟨named, inside⟩ := id_of_answered ids member
  obtain ⟨above, below⟩ := Range.mem_numbers.mp inside
  rw [UInt64.lt_iff_toNat_lt] at below
  have le := UInt64.le_iff_toNat_le.mp above
  refine ⟨by rw [named, IdKind.tryParse_intoId], above, ?_⟩
  simp only [Response.slot, Range.size]
  omega

/-- The numbers of the responses are the numbers of the batch. -/
theorem numbers_of_answered : (rps.map Response.number).Perm range.numbers := by
  have decoded := ids.map fun id =>
    match id.tryParseInnerAsNumber with
    | .ok n => n
    | .error _ => 0
  simp only [List.map_map, Function.comp_def, IdKind.tryParse_intoId, List.map_id'] at decoded
  exact decoded

theorem slots_of_answered : (rps.map (Response.slot range.start)).Perm (List.range range.size) := by
  have shifted := (numbers_of_answered ids).map fun n => n.toNat - range.start.toNat
  have offsets : range.numbers.map (fun n => n.toNat - range.start.toNat) = List.range range.size := by
    have bound := range.stop.toNat_lt
    rw [Range.numbers, List.map_map]
    conv_rhs => rw [← List.map_id (List.range range.size)]
    apply List.map_congr_left
    intro offset inside
    rw [List.mem_range, Range.size] at inside
    rw [Function.comp_apply, UInt64.toNat_ofNat_of_lt' (show _ < 2 ^ 64 by omega),
      id_eq]
    omega
  rw [offsets] at shifted
  rw [List.map_map] at shifted
  exact shifted

/-- The slots hold the responses of the batch in the order of their ids. -/
theorem storeResponses_answered :
    ∃ sorted, Backend.storeResponses range.start rps (List.replicate range.size Backend.placeholder) =
        .ok sorted ∧ sorted.Perm rps ∧ sorted.map Response.id = range.numbers.map kind.intoId := by
  have slots := slots_of_answered ids
  refine ⟨_, Backend.storeResponses_eq_ok_iff.mpr ⟨?_, rfl⟩, ?_, ?_⟩
  · intro rp member
    rw [List.length_replicate]
    exact fits_of_answered ids member
  · exact Slots.writeAll_perm _ slots List.length_replicate
  · have perm := Slots.writeAll_perm (Response.slot range.start) slots
      (List.length_replicate (a := Backend.placeholder))
    have keys := Slots.keys_writeAll (Response.slot range.start) slots
      (List.length_replicate (a := Backend.placeholder))
    rw [Range.numbers, ← keys, List.map_map, List.map_map]
    apply List.map_congr_left
    intro rp member
    obtain ⟨named, inside⟩ := id_of_answered ids (perm.mem_iff.mp member)
    have above := UInt64.le_iff_toNat_le.mp (Range.mem_numbers.mp inside).1
    simp only [Function.comp_apply, Response.slot]
    rw [Nat.add_sub_cancel' above, UInt64.ofNat_toNat, ← named]

end Answered

/-! ## The handler of an array of responses -/

/-- The responses a received text holds when it is an array of nothing else. -/
def SerdeJson.responses (serde : SerdeJson) (raw : List UInt8) : Option (List Response) :=
  match raw.find? (fun byte => !Backend.isAsciiWhitespace byte), serde.fromSlice raw with
  | some 91, .ok (.arr elems) => elems.mapM Response.fromJson
  | _, _ => none

namespace Backend

theorem handleElements_responses {serde : SerdeJson} {raw : List UInt8} {whole : Json}
    {elems : List Json} {rps : List Response} (parsed : elems.mapM Response.fromJson = some rps)
    (numeric : ∀ rp ∈ rps, rp.id.tryParseInnerAsNumber = .ok rp.number) (st : ArrayState) :
    handleElements serde raw whole elems st =
      (.ok (), { st with
        batch := st.batch ++ rps
        range := (rps.map Response.number).foldl (fun range n => some (widen range n)) st.range }) := by
  induction elems generalizing rps st with
  | nil =>
      obtain rfl := Option.some.inj (parsed.symm.trans List.mapM_nil)
      simp only [handleElements, List.append_nil, List.map_nil, List.foldl_nil]
  | cons r rest ih =>
      rw [List.mapM_cons] at parsed
      obtain ⟨rp, first, parsed⟩ := Option.bind_eq_some_iff.mp parsed
      obtain ⟨others, tail, same⟩ := Option.bind_eq_some_iff.mp parsed
      obtain rfl := Option.some.inj same
      have number := numeric rp List.mem_cons_self
      simp only [handleElements, first, number]
      rw [ih tail fun rp member => numeric rp (List.mem_cons_of_mem _ member)]
      simp only [List.append_assoc, List.singleton_append, List.map_cons, List.foldl_cons]

/-- An id that is no number fails the array before anything is changed. -/
theorem handleElements_unnumbered {serde : SerdeJson} {raw : List UInt8} {whole : Json}
    {elems : List Json} {rps : List Response} (parsed : elems.mapM Response.fromJson = some rps)
    (unnumbered : ∃ rp ∈ rps, rp.id.tryParseInnerAsNumber ≠ .ok rp.number) (st : ArrayState) :
    ∃ e st', handleElements serde raw whole elems st = (.err e, st') ∧ st'.backend = st.backend := by
  induction elems generalizing rps st with
  | nil =>
      obtain rfl := Option.some.inj (parsed.symm.trans List.mapM_nil)
      obtain ⟨rp, member, -⟩ := unnumbered
      cases member
  | cons r rest ih =>
      rw [List.mapM_cons] at parsed
      obtain ⟨rp, first, parsed⟩ := Option.bind_eq_some_iff.mp parsed
      obtain ⟨others, tail, same⟩ := Option.bind_eq_some_iff.mp parsed
      obtain rfl := Option.some.inj same
      simp only [handleElements, first]
      cases number : rp.id.tryParseInnerAsNumber with
      | error e => exact ⟨_, st, rfl, rfl⟩
      | ok n =>
          obtain ⟨bad, member, odd⟩ := unnumbered
          rcases List.mem_cons.mp member with rfl | later
          · refine absurd ?_ odd
            rw [Response.number, number]
          · exact ih tail ⟨bad, later, odd⟩ _

/-- The section of a batch passes nothing on to `send_task`. -/
theorem batch_messages (cfg : Config) (b : Backend) (rps : List Response) (range : Range) :
    (b.apply cfg (.batch rps range)).1.messages = [] := by
  simp only [apply]
  split <;> rfl

/-- An array of responses runs the section of the batch whose range its ids
    span. -/
theorem recv_responses {serde : SerdeJson} {raw : List UInt8} {rps : List Response}
    (holds : serde.responses raw = some rps)
    (numeric : ∀ rp ∈ rps, rp.id.tryParseInnerAsNumber = .ok rp.number) {range : Range}
    (spans : Spans range (rps.map Response.number)) (inside : range.stop.toNat + 1 < 2 ^ 64)
    (cfg : Config) (b : Backend) :
    b.handleRecvMessage serde cfg raw =
      (match (b.apply cfg (.batch rps { range with stop := range.stop + 1 })).1.error with
        | some e => .err (.invalidRequestId e)
        | none => .ok [],
      (b.apply cfg (.batch rps { range with stop := range.stop + 1 })).2) := by
  have folded : (rps.map Response.number).foldl (fun range n => some (widen range n)) none = some range := by
    cases shape : rps.map Response.number with
    | nil =>
        rw [shape] at spans
        cases spans.start_mem
    | cons n ns =>
        obtain ⟨found, folded, spans'⟩ := foldl_widen_spans n ns
        rw [folded, spans'.unique spans fun m => by rw [shape]]
  unfold SerdeJson.responses at holds
  split at holds
  · rename_i elems bracket parsed
    simp only [handleRecvMessage, bracket, parsed]
    rw [handleElements_responses holds numeric]
    have small : ¬ (cfg.overflowChecks = true ∧ range.stop.toNat + 1 = 2 ^ 64) := by omega
    simp only [finishArray, folded, List.nil_append, small, if_false, apply]
    split <;> simp only [*, Output.failure, Output.none]
  · cases holds

/-- An array of responses leaves the state alone, or it runs the section of the
    batch whose range its ids span. -/
theorem recv_responses_state {serde : SerdeJson} {raw : List UInt8} {rps : List Response}
    (holds : serde.responses raw = some rps) (cfg : Config) (b : Backend) :
    (b.handleRecvMessage serde cfg raw).2 = b ∨
      (∀ rp ∈ rps, rp.id.tryParseInnerAsNumber = .ok rp.number) ∧
        ∃ range, Spans range (rps.map Response.number) ∧ (b.handleRecvMessage serde cfg raw).2 =
          (b.apply cfg (.batch rps { range with stop := range.stop + 1 })).2 := by
  unfold SerdeJson.responses at holds
  split at holds
  · rename_i elems bracket parsed
    simp only [handleRecvMessage, bracket, parsed]
    by_cases numeric : ∀ rp ∈ rps, rp.id.tryParseInnerAsNumber = .ok rp.number
    · rw [handleElements_responses holds numeric]
      cases shape : rps.map Response.number with
      | nil => exact .inl rfl
      | cons n ns =>
          obtain ⟨range, folded, spans⟩ := foldl_widen_spans n ns
          simp only [finishArray, folded, List.nil_append, apply]
          split
          · exact .inl rfl
          · refine .inr ⟨numeric, range, spans, ?_⟩
            split <;> simp only [*]
    · obtain ⟨e, st, failed, same⟩ := handleElements_unnumbered holds (by
        simpa only [not_forall, exists_prop] using numeric)
        { backend := b, batch := [], range := none, gotNotif := false, messages := [] }
      rw [failed]
      exact .inl same
  · cases holds

end Backend

end Jsonrpsee
