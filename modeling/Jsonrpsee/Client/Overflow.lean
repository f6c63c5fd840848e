import Jsonrpsee.Client.Batch
import Jsonrpsee.Client.Streams

/-! # Arithmetic on received ids

The only arithmetic on the ids of a received array makes the range of the batch
exclusive. It overflows when the greatest id of the array is the greatest
number there is. An element that no deserializer accepts, or an id that is no
number, ends the loop before.
-/

namespace Jsonrpsee

/-- An element of an array that the loop gets past. The close notification is
    looked for in the whole array. -/
def Readable (whole r : Json) : Prop :=
  match Response.fromJson r with
  | some rp => ∃ n, rp.id.tryParseInnerAsNumber = .ok n
  | none =>
      (SubscriptionResponse.fromJson r).isSome ∨ (SubscriptionError.fromJson whole).isSome ∨
        (PlainNotification.fromJson r).isSome

/-- The ids of the responses among the elements of an array. -/
def responseNumbers (elems : List Json) : List UInt64 :=
  elems.filterMap fun r => (Response.fromJson r).map Response.number

/-- The text is an array that the loop gets through, and one of its responses
    has the greatest id. -/
def SerdeJson.Exhausts (serde : SerdeJson) (raw : List UInt8) : Prop :=
  ∃ elems, raw.find? (fun byte => !Backend.isAsciiWhitespace byte) = some 91 ∧
    serde.fromSlice raw = .ok (.arr elems) ∧ (∀ r ∈ elems, Readable (.arr elems) r) ∧
    ∃ r ∈ elems, ∃ rp, Response.fromJson r = some rp ∧
      rp.id.tryParseInnerAsNumber = .ok (UInt64.ofNat (2 ^ 64 - 1))

namespace Backend

variable {serde : SerdeJson} {raw : List UInt8} {whole : Json}

/-- When the loop gets through, every element was readable and the range is that
    of the ids. -/
theorem handleElements_range {elems : List Json} {st st' : ArrayState}
    (done : handleElements serde raw whole elems st = (.ok (), st')) :
    (∀ r ∈ elems, Readable whole r) ∧
      st'.range = (responseNumbers elems).foldl (fun range n => some (widen range n)) st.range := by
  have quiet : ∀ {r rest range range'}, Response.fromJson r = none → Readable whole r →
      (∀ x ∈ rest, Readable whole x) ∧
        range' = (responseNumbers rest).foldl (fun range n => some (widen range n)) range →
      (∀ x ∈ r :: rest, Readable whole x) ∧
        range' = (responseNumbers (r :: rest)).foldl (fun range n => some (widen range n)) range := by
    intro r rest range range' unread readable ⟨all, ends⟩
    refine ⟨List.forall_mem_cons.mpr ⟨readable, all⟩, ?_⟩
    rw [responseNumbers, List.filterMap_cons_none (by rw [unread, Option.map_none])]
    exact ends
  fun_induction handleElements serde raw whole elems st with
  | case1 st =>
      cases done
      exact ⟨by simp, rfl⟩
  | case2 | case5 | case8 => cases done
  | case3 r rest st response parsed id numeric ih =>
      obtain ⟨all, ends⟩ := ih done
      have own : response.number = id := by rw [Response.number, numeric]
      refine ⟨List.forall_mem_cons.mpr ⟨?_, all⟩, ?_⟩
      · simp only [Readable, parsed]
        exact ⟨id, numeric⟩
      · rw [responseNumbers, List.filterMap_cons_some (by rw [parsed, Option.map_some]), List.foldl_cons, own]
        exact ends
  | case4 r rest st unread response parsed closed backend handled messages ih =>
      exact quiet unread (by simp [Readable, unread, parsed]) (ih done)
  | case6 r rest st unread _ response parsed backend handled ih =>
      exact quiet unread (by simp [Readable, unread, parsed]) (ih done)
  | case7 r rest st unread _ _ notif parsed backend ih =>
      exact quiet unread (by simp [Readable, unread, parsed]) (ih done)

/-- The loop gets through readable elements, unless the table is broken. -/
theorem handleElements_done {elems : List Json} {st : ArrayState}
    (readable : ∀ r ∈ elems, Readable whole r) :
    (handleElements serde raw whole elems st).1 = .ok () ∨
      (handleElements serde raw whole elems st).1 = .panic .subscriptionMissing := by
  fun_induction handleElements serde raw whole elems st with
  | case1 => exact .inl rfl
  | case2 r rest st response parsed e unnumbered =>
      have first := (List.forall_mem_cons.mp readable).1
      simp only [Readable, parsed, unnumbered, reduceCtorEq, exists_false] at first
  | case3 r rest st response parsed id numeric ih => exact ih (List.forall_mem_cons.mp readable).2
  | case4 r rest st unread response parsed closed backend handled messages ih =>
      exact ih (List.forall_mem_cons.mp readable).2
  | case5 => exact .inr rfl
  | case6 r rest st unread _ response parsed backend handled ih =>
      exact ih (List.forall_mem_cons.mp readable).2
  | case7 r rest st unread _ _ notif parsed backend ih => exact ih (List.forall_mem_cons.mp readable).2
  | case8 r rest st unread noItem noClose noNotif =>
      have first := (List.forall_mem_cons.mp readable).1
      simp only [Readable, unread, noItem, noClose, noNotif, Option.isSome_none, Bool.false_eq_true,
        or_self] at first

/-- The loop itself does no arithmetic. -/
theorem handleElements_arithmetic (elems : List Json) (st : ArrayState) :
    (handleElements serde raw whole elems st).1 ≠ .panic .rangeOverflow := by
  fun_induction handleElements serde raw whole elems st with
  | case1 | case2 | case5 | case8 => simp only [ne_eq, Outcome.panic.injEq, reduceCtorEq, not_false_eq_true]
  | case3 | case4 | case6 | case7 => assumption

/-- The range of an array ends at the greatest number exactly when one of the ids
    is that number. -/
theorem foldl_widen_stop {ns : List UInt64} {range : Range}
    (folded : ns.foldl (fun range n => some (widen range n)) none = some range) (greatest : UInt64)
    (top : ∀ n, n ≤ greatest) : range.stop = greatest ↔ greatest ∈ ns := by
  cases ns with
  | nil => cases folded
  | cons n ns =>
      obtain ⟨range', folded', spans⟩ := foldl_widen_spans n ns
      obtain rfl := Option.some.inj (folded'.symm.trans folded)
      constructor
      · rintro rfl
        exact spans.stop_mem
      · exact fun member => UInt64.le_antisymm (top _) (spans.le_stop _ member)

theorem finishArray_overflow_iff {cfg : Config} {st : ArrayState} :
    (finishArray cfg st).1 = .panic .rangeOverflow ↔
      cfg.overflowChecks = true ∧ ∃ range, st.range = some range ∧ range.stop.toNat + 1 = 2 ^ 64 := by
  unfold finishArray
  cases found : st.range with
  | none =>
      simp only [reduceCtorEq, false_and, exists_false, and_false, iff_false]
      split <;> simp only [reduceCtorEq, not_false_eq_true]
  | some range =>
      simp only [Option.some.injEq, exists_eq_left']
      split
      · rename_i overflows
        simp only [overflows, and_self]
      · rename_i fits
        simp only [fits, iff_false]
        split <;> simp only [reduceCtorEq, not_false_eq_true]

/-- Only the end of an array does arithmetic. -/
theorem array_of_overflow {cfg : Config} {b : Backend}
    (crashed : (b.handleRecvMessage serde cfg raw).1 = .panic .rangeOverflow) :
    ∃ elems, raw.find? (fun byte => !isAsciiWhitespace byte) = some 91 ∧
      serde.fromSlice raw = .ok (.arr elems) ∧ ∃ st,
        handleElements serde raw (.arr elems) elems
          { backend := b, batch := [], range := none, gotNotif := false, messages := [] } = (.ok (), st) ∧
        (finishArray cfg st).1 = .panic .rangeOverflow := by
  unfold handleRecvMessage at crashed
  split at crashed
  · split at crashed
    · unfold handleObject at crashed
      split at crashed
      · split at crashed <;> cases crashed
      · split at crashed
        · cases crashed
        · split at crashed
          · split at crashed <;> cases crashed
          · split at crashed <;> cases crashed
    · cases crashed
  · rename_i bracket
    split at crashed
    · rename_i elems parsed
      refine ⟨elems, bracket, parsed, ?_⟩
      dsimp only at crashed
      split at crashed
      · rename_i st done
        exact ⟨st, done, crashed⟩
      · cases crashed
      · rename_i reason st handled
        obtain rfl := Outcome.panic.inj crashed
        have none := @handleElements_arithmetic serde raw (.arr elems) elems
          { backend := b, batch := [], range := none, gotNotif := false, messages := [] }
        rw [handled] at none
        exact absurd rfl none
    · cases crashed
  · cases crashed

/-- The addition overflows exactly on an exhausting array. -/
theorem recv_overflow_iff (cfg : Config) {b : Backend} (table : SubscriptionTable b.manager) :
    (b.handleRecvMessage serde cfg raw).1 = .panic .rangeOverflow ↔
      cfg.overflowChecks = true ∧ serde.Exhausts raw := by
  have largest : (UInt64.ofNat (2 ^ 64 - 1)).toNat = 2 ^ 64 - 1 := by decide
  have top : ∀ n : UInt64, n ≤ UInt64.ofNat (2 ^ 64 - 1) := by
    intro n
    have bound := n.toNat_lt
    rw [UInt64.le_iff_toNat_le, largest]
    omega
  constructor
  · intro crashed
    obtain ⟨elems, bracket, parsed, st, done, overflows⟩ := array_of_overflow crashed
    obtain ⟨readable, folded⟩ := handleElements_range done
    obtain ⟨checks, range, found, full⟩ := finishArray_overflow_iff.mp overflows
    rw [found] at folded
    have stop : range.stop = UInt64.ofNat (2 ^ 64 - 1) := by
      rw [← UInt64.toNat_inj, largest]
      omega
    obtain ⟨r, member, response⟩ := List.mem_filterMap.mp ((foldl_widen_stop folded.symm _ top).mp stop)
    obtain ⟨rp, response, number⟩ := Option.map_eq_some_iff.mp response
    refine ⟨checks, elems, bracket, parsed, readable, r, member, rp, response, ?_⟩
    have numbered := readable r member
    simp only [Readable, response] at numbered
    obtain ⟨n, numeric⟩ := numbered
    rw [← number, Response.number, numeric]
  · rintro ⟨checks, elems, bracket, parsed, readable, r, member, rp, response, greatest⟩
    let start : ArrayState := { backend := b, batch := [], range := none, gotNotif := false, messages := [] }
    have expected := handleElements_expect serde cfg raw (.arr elems) elems start table
    have through : (handleElements serde raw (.arr elems) elems start).1 = .ok () :=
      (handleElements_done readable).resolve_right expected
    obtain ⟨st, done⟩ : ∃ st, handleElements serde raw (.arr elems) elems start = (.ok (), st) :=
      ⟨_, Prod.ext through rfl⟩
    have spanned := (handleElements_range done).2
    have found : UInt64.ofNat (2 ^ 64 - 1) ∈ responseNumbers elems := by
      refine List.mem_filterMap.mpr ⟨r, member, ?_⟩
      rw [response, Option.map_some, Response.number, greatest]
    cases ranged : st.range with
    | none =>
        rw [ranged] at spanned
        cases numbers : responseNumbers elems with
        | nil =>
            rw [numbers] at found
            cases found
        | cons n ns =>
            obtain ⟨range, folded, _⟩ := foldl_widen_spans n ns
            rw [numbers] at spanned
            cases spanned.trans folded
    | some range =>
        have stop := (foldl_widen_stop (spanned.symm.trans ranged) _ top).mpr found
        have full : range.stop.toNat + 1 = 2 ^ 64 := by
          rw [stop, largest, Nat.sub_add_cancel Nat.one_le_two_pow]
        have overflows := finishArray_overflow_iff.mpr ⟨checks, range, ranged, full⟩
        simp only [handleRecvMessage, bracket, parsed]
        rw [done]
        exact overflows

/-- A received text crashes no build of the client exactly when it is not an
    array with the greatest id: otherwise it is handled, or refused with an
    error. -/
theorem recv_survives_iff {cfg : Config} {us b} (run : Run (event cfg) .new us b) (raw : List UInt8) :
    (∀ overflowChecks reason,
      (b.handleRecvMessage serde { cfg with overflowChecks } raw).1 ≠ .panic reason) ↔
    ¬ serde.Exhausts raw := by
  have table := (run_created run).1
  constructor
  · intro survives exhausts
    exact survives true .rangeOverflow ((recv_overflow_iff _ table).mpr ⟨rfl, exhausts⟩)
  · intro fits overflowChecks reason crashed
    cases reason with
    | subscriptionMissing => exact recv_expect _ raw table crashed
    | rangeOverflow => exact fits ((recv_overflow_iff _ table).mp crashed).2

/-- The smallest array with the greatest id, received by a client that has sent
    nothing. -/
theorem recv_overflow_greatest :
    let text := Exchange.array [Exchange.success (UInt64.ofNat (2 ^ 64 - 1)) 7]
    let serde := Exchange.reader [text]
    let cfg : Config := { maxBufferCapacityPerSubscription := 1, overflowChecks := true }
    ∃ us b, Run (event cfg) .new us b ∧
      (b.handleRecvMessage serde cfg (Exchange.bytes text.1)).1 = .panic .rangeOverflow := by
  intro text serde cfg
  refine ⟨[], .new, .nil, (recv_overflow_iff cfg SubscriptionTable.new).mpr ⟨rfl, ?_⟩⟩
  refine ⟨_, by decide +kernel, Exchange.reader_head text [], ?_, _, List.mem_singleton_self _, _, rfl, rfl⟩
  intro r member
  obtain rfl := List.mem_singleton.mp member
  exact ⟨_, rfl⟩

/-- The array with the next smaller id does no harm. -/
theorem recv_survives_iff_smaller :
    let text := Exchange.array [Exchange.success (UInt64.ofNat (2 ^ 64 - 2)) 7]
    let serde := Exchange.reader [text]
    let cfg : Config := { maxBufferCapacityPerSubscription := 1, overflowChecks := true }
    ∃ us b, Run (event cfg) .new us b ∧ ∀ overflowChecks reason,
      (b.handleRecvMessage serde { cfg with overflowChecks } (Exchange.bytes text.1)).1 ≠ .panic reason := by
  intro text serde cfg
  refine ⟨[], .new, .nil, (recv_survives_iff .nil _).mpr ?_⟩
  rintro ⟨elems, -, parsed, -, r, member, rp, response, greatest⟩
  obtain rfl : [(Exchange.success (UInt64.ofNat (2 ^ 64 - 2)) 7).2] = elems :=
    Json.arr.inj (Except.ok.inj ((Exchange.reader_head text []).symm.trans parsed))
  obtain rfl := List.mem_singleton.mp member
  obtain rfl := Option.some.inj response
  exact absurd (Except.ok.inj greatest) (by decide)

end Backend

end Jsonrpsee
