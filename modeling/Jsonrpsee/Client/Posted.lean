import Jsonrpsee.Client.Delivery
import Jsonrpsee.Client.Frames

/-! # The text that has an id

A message that somebody waits for stays in the queue until `send_task` puts its
text on the wire. As no drawn id goes out twice, no other text is taken for that
of the caller.
-/

namespace Jsonrpsee

/-- A message whose names are free goes out as it is. -/
theorem Backend.Step.frames_of_free {cfg : Config} {b after : Backend} {msg : FrontToBack} {out : Output} {raw : Json}
    (step : b.Step cfg (.front msg) out after) (free : (Op.front msg).Free b) (waits : msg.registration ≠ none)
    (text : msg.text = some raw) : out.frames = [raw] := by
  cases step with
  | batch | request | subscribe =>
      cases text
      rfl
  | batchOccupied taken =>
      rw [free] at taken
      cases taken
  | requestOccupied taken waiting =>
      rw [free (by rw [waiting]; exact Option.some_ne_none _)] at taken
      cases taken
  | requestDenied taken silent => simp [FrontToBack.registration, silent] at waits
  | subscribeOccupied refused => exact absurd free refused
  | notification | unsubscribe | closedEarlier | unregister => exact absurd rfl waits
  | register | registerOccupied => cases text

/-- Runs of the same numbers are the same. -/
theorem Consecutive.eq_of_perm {idKind : IdKind} {ids ids' : List Id} (consecutive : Consecutive idKind ids)
    (consecutive' : Consecutive idKind ids') (same : ids.Perm ids') : ids = ids' := by
  obtain ⟨start, len, fits, rfl⟩ := consecutive
  obtain ⟨start', len', fits', rfl⟩ := consecutive'
  obtain rfl : len = len' := by simpa using same.length_eq
  rcases Nat.eq_zero_or_pos len with rfl | nonempty
  · rfl
  · have meets : ∀ {m n : Nat}, m + len ≤ 2 ^ 64 → n + len ≤ 2 ^ 64 →
        idKind.intoId (UInt64.ofNat (m + 0)) ∈ (List.range len).map (fun offset => idKind.intoId (UInt64.ofNat (n + offset))) →
        n ≤ m := by
      intro m n mFits nFits member
      obtain ⟨offset, inside, same⟩ := List.mem_map.mp member
      rw [List.mem_range] at inside
      have equal := intoId_inj (by omega) (by omega) same
      omega
    have first : ∀ n, idKind.intoId (UInt64.ofNat (n + 0)) ∈
        (List.range len).map (fun offset => idKind.intoId (UInt64.ofNat (n + offset))) :=
      fun n => List.mem_map.mpr ⟨0, List.mem_range.mpr nonempty, rfl⟩
    have le := meets fits fits' (same.mem_iff.mp (first start))
    have ge := meets fits' fits (same.mem_iff.mpr (first start'))
    obtain rfl : start = start' := Nat.le_antisymm ge le
    rfl

namespace Client

variable {serde : SerdeJson} {cfg : Config} {c c' : Client} {a : ClientAction} {msg : FrontToBack} {raw : Json}

/-- The message is in the queue, or its text is among the frames. -/
def Posted (c : Client) (frames : List Json) (msg : FrontToBack) (raw : Json) : Prop :=
  msg ∈ c.inFlight ∨ raw ∈ frames

theorem Posted.of_move {frames : List Json} (posted : c.Posted frames msg raw) (fresh : Fresh c)
    (waits : msg.registration ≠ none) (text : msg.text = some raw) (move : c.Move serde cfg a c') :
    c'.Posted (frames ++ c.frames cfg a) msg raw := by
  rcases posted with queued | out
  · cases move with
    | outside | subscribing => exact .inl queued
    | posted | registered | requested | batched | subscribed => exact .inl (List.mem_append_left _ queued)
    | received => exact .inl (List.mem_append_left _ queued)
    | sent found =>
        rcases List.mem_cons.mp ((perm_eraseIdx found).mem_iff.mp queued) with rfl | stays
        · have step := Backend.apply_step cfg c.backend (.front msg)
          have sends := step.frames_of_free (fresh.free queued) waits text
          rw [frames_send found, sends]
          exact .inr (List.mem_append_right _ List.mem_cons_self)
        · exact .inl stays
  · exact .inr (List.mem_append_left _ out)

/-- The frame with the drawn id of a text that waits or is out is this text. -/
theorem Placed.sole {frames : List Json} (placed : Placed frames c) (posted : c.Posted frames msg raw) {id : Id}
    (carried : id ∈ msg.carried c.ids.idKind) (own : id ∈ drawnIds [raw]) {frame : Json} (there : frame ∈ frames)
    (same : id ∈ drawnIds [frame]) : frame = raw := by
  obtain ⟨once, -, apart⟩ := List.nodup_append.mp placed.ids.nodup
  have gone : ∀ {text}, text ∈ frames → id ∈ drawnIds [text] → id ∈ drawnIds frames := by
    intro text member carries
    rw [drawnIds, List.flatMap_singleton] at carries
    exact List.mem_flatMap.mpr ⟨text, member, carries⟩
  rcases posted with queued | out
  · have waits : id ∈ c.waiting := List.mem_append_left _ (List.mem_flatMap.mpr ⟨msg, queued, carried⟩)
    exact absurd rfl (apart id (gone there same) id waits)
  · by_contra different
    rw [drawnIds, List.flatMap_singleton] at own same
    have : Std.Symm (Function.onFun List.Disjoint fun text => (frameIds text).take 1) := ⟨fun _ _ apart => apart.symm⟩
    exact (List.nodup_flatMap.mp once).2.forall there out different same own

section Runs

variable {idKind : IdKind} {ts : List (Transition Client ClientAction)}
  (run : Run (Client.step serde cfg) (.new idKind) ts c) (conformant : ∀ t ∈ ts, Conformant serde t)

include run conformant

/-- What a step has queued is found where it belongs for the rest of the run. -/
theorem posted {t} (member : t ∈ ts) (queued : msg ∈ t.after.inFlight) (waits : msg.registration ≠ none)
    (text : msg.text = some raw) : c.Posted (wire cfg ts) msg raw := by
  induction run with
  | nil => cases member
  | @snoc ts s a s' earlier taken ih =>
      have conforms : ∀ t ∈ ts, Conformant serde t := fun t member => conformant t (List.mem_append_left _ member)
      have more : wire cfg (ts ++ [⟨s, a, s'⟩]) = wire cfg ts ++ s.frames cfg a := by
        rw [wire, List.flatMap_append, List.flatMap_singleton]
        rfl
      rw [more]
      rcases List.mem_append.mp member with old | last
      · have before := sound earlier conforms
        have move := before.balanced.move (conformant _ (List.mem_append_right _ List.mem_cons_self)) taken
        exact (ih conforms old).of_move before.fresh waits text move
      · obtain rfl := List.mem_singleton.mp last
        exact .inl queued

/-- The frame with the id of a call is that of the call. -/
theorem frame_of_request {t} (member : t ∈ ts) {method : String} {params : Option RawValue}
    (action : t.action = .request method params) {frame : Json} (there : frame ∈ wire cfg ts)
    (carries : requestId frame = some (idKind.intoId t.before.ids.currentId)) :
    frame = Request.toJson { id := idKind.intoId t.before.ids.currentId, method, params } := by
  obtain ⟨pre, post, rfl, earlier, taken, -⟩ := run.split member
  have before := sound earlier fun t member => conformant t (List.mem_append_left _ member)
  have final := sound run conformant
  rw [action] at taken
  simp only [step] at taken
  obtain ⟨-, after⟩ := draw_eq_some taken
  rw [before.kind] at after
  have queued : FrontToBack.request
      { raw := Request.toJson { id := idKind.intoId t.before.ids.currentId, method, params }
        id := idKind.intoId t.before.ids.currentId
        sendBack := some t.before.nextOneshot } ∈ t.after.inFlight := by
    rw [after]
    exact List.mem_append_right _ List.mem_cons_self
  have posted := posted run conformant member queued (by simp [FrontToBack.registration]) rfl
  refine (placed run).sole posted List.mem_cons_self ?_ there ?_
  · rw [drawnIds_request (requestId_toJson _)]
    exact List.mem_cons_self
  · rw [drawnIds_request carries]
    exact List.mem_cons_self

/-- The frame with the ids of a batch is that of the batch. -/
theorem frame_of_batch {t} (member : t ∈ ts) {batch : List (String × Option RawValue)}
    (action : t.action = .batchRequest batch) (nonempty : batch ≠ [])
    (fits : t.before.ids.currentId.toNat + batch.length < 2 ^ 64) {frame : Json} (there : frame ∈ wire cfg ts)
    {ids : List Id} (carries : batchIds frame = some ids)
    (same : ids.Perm (batchIdsFrom idKind t.before.ids.currentId batch.length)) :
    frame = .arr ((batchRequests idKind batch (.ofLen t.before.ids.currentId batch.length)).map Request.toJson) := by
  obtain ⟨pre, post, rfl, earlier, taken, -⟩ := run.split member
  have before := sound earlier fun t member => conformant t (List.mem_append_left _ member)
  have final := sound run conformant
  have placed := placed run
  rw [action] at taken
  simp only [step, nonempty, if_false] at taken
  obtain ⟨-, after⟩ := draw_eq_some taken
  simp only [generateBatchIdRange_intoId, fits, if_true] at after
  have kind : t.before.advance.ids.idKind = idKind := before.kind
  rw [kind] at after
  have queued : FrontToBack.batch
      { raw := .arr ((batchRequests idKind batch (.ofLen t.before.ids.currentId batch.length)).map Request.toJson)
        ids := .ofLen t.before.ids.currentId batch.length
        sendBack := t.before.nextOneshot } ∈ t.after.inFlight := by
    rw [after]
    exact List.mem_append_right _ List.mem_cons_self
  have posted := posted run conformant member queued (by simp [FrontToBack.registration]) rfl
  have filled := List.length_pos_iff.mpr nonempty
  have own : batchIds (.arr ((batchRequests idKind batch (.ofLen t.before.ids.currentId batch.length)).map
      Request.toJson)) = some ((Range.ofLen t.before.ids.currentId batch.length).numbers.map idKind.intoId) :=
    batchIds_batchRequests (Range.size_ofLen fits)
  have draws := drawnIds_batch rfl own (Range.start_lt_ofLen fits filled)
  -- The frame has the same ids in the same order.
  have frameIds_ : frameIds frame = ids := by
    cases frame with
    | arr elems => simp only [frameIds, requestId, carries, Option.getD_some]
    | _ => cases carries
  have consecutive := placed.consecutive frame there
  rw [final.kind, frameIds_] at consecutive
  rw [← numbers_batch idKind fits] at same
  have equal := consecutive.eq_of_perm (.of_range (Range.start_lt_ofLen fits filled)) same
  refine placed.sole posted ?_ (draws ▸ List.mem_cons_self) there ?_
  · rw [final.kind]
    exact List.mem_cons_self
  · rw [drawnIds, List.flatMap_singleton, frameIds_, equal, ← List.map_take,
      Range.take_numbers (Range.start_lt_ofLen fits filled)]
    exact List.mem_cons_self

end Runs

end Client

/-! ## Nobody is forgotten -/

/-- A subscribe call whose request is out waits for the answer to it. -/
def Awaits (requests : Table Id Kind) (calls : List Id) : Prop :=
  ∀ id u oneshot unsub, requests.lookup id = some (.pendingSubscription u oneshot unsub) → id ∈ calls

theorem CallMove.awaits {op : Op} {requests requests' : Table Id Kind} {calls calls' : List Id}
    (move : CallMove op requests calls requests' calls') (awaits : Awaits requests calls) : Awaits requests' calls' := by
  -- An entry that was there before is awaited unless its id has been answered.
  have others : ∀ {answered id u oneshot unsub}, id ≠ answered →
      requests.lookup id = some (.pendingSubscription u oneshot unsub) → id ∈ calls.erase answered :=
    fun other pending => (List.mem_erase_of_ne other).mpr (awaits _ _ _ _ pending)
  intro id u oneshot unsub pending
  cases move with
  | kept => exact awaits _ _ _ _ pending
  | @requested key free sendBack =>
      rw [Table.lookup_insert_ite] at pending
      split at pending
      · cases pending
      · exact List.mem_append_left _ (awaits _ _ _ _ pending)
  | @subscribed msg front free unsubFree distinct =>
      rw [Table.lookup_insert_ite, Table.lookup_insert_ite] at pending
      split at pending
      · cases pending
      · split at pending
        · rename_i here
          exact List.mem_append_right _ (List.mem_singleton.mpr here)
        · exact List.mem_append_left _ (awaits _ _ _ _ pending)
  | unsubscribed active =>
      rw [Table.lookup_insert_ite] at pending
      split at pending
      · cases pending
      · exact List.mem_append_left _ (awaits _ _ _ _ pending)
  | @answered key owed =>
      by_cases here : id = key
      · rw [here, Finmap.lookup_erase] at pending
        cases pending
      · rw [Finmap.lookup_erase_ne here] at pending
        exact others here pending
  | @passed key _ _ _ kind owed before passed =>
      by_cases here : id = key
      · rw [here, Finmap.lookup_insert] at pending
        obtain rfl | ⟨sink, rfl⟩ := passed <;> cases pending
      · rw [Finmap.lookup_insert_of_ne _ here] at pending
        exact others here pending
  | @closed key _ _ _ active =>
      by_cases here : id = key
      · rw [here, Finmap.lookup_erase] at pending
        cases pending
      · rw [Finmap.lookup_erase_ne here] at pending
        exact awaits _ _ _ _ pending

namespace Client

variable {serde : SerdeJson} {cfg : Config} {c c' : Client} {a : ClientAction}

theorem awaits_of_move (balanced : Balanced c) (awaits : Awaits c.backend.manager.requests c.calls)
    (move : c.Move serde cfg a c') : Awaits c'.backend.manager.requests c'.calls := by
  cases move with
  | outside same =>
      intro id u oneshot unsub pending
      exact awaits _ _ _ _ (same ▸ pending)
  | posted | registered | requested | batched | subscribing | subscribed => exact awaits
  | @sent msg position found =>
      have step := Backend.apply_step cfg c.backend (.front msg)
      have expected : (Op.front msg).Expected c.ids.idKind c.calls c.backend.manager.batches :=
        balanced.wellFormed msg (List.mem_of_getElem? found)
      exact (step.callMove balanced.calls expected).awaits awaits
  | @received raw op receives =>
      have step := Backend.apply_step cfg c.backend op
      have moved := (step.callMove balanced.calls receives.expected).awaits awaits
      rw [step.frames_eq_nil receives.back, List.filterMap_nil, List.append_nil] at moved
      exact moved

section Runs

variable {idKind : IdKind} {ts : List (Transition Client ClientAction)}
  (run : Run (Client.step serde cfg) (.new idKind) ts c) (conformant : ∀ t ∈ ts, Conformant serde t)

include run conformant

theorem awaits : Awaits c.backend.manager.requests c.calls := by
  refine (run.invariant (fun c => Sound idKind c ∧ Awaits c.backend.manager.requests c.calls) (Conformant serde)
    conformant ⟨.new, fun _ _ _ _ pending => by cases pending⟩ ?_).2
  rintro t conforms ⟨sound, awaits⟩ taken
  have move := sound.balanced.move conforms taken
  exact ⟨sound.of_move move, awaits_of_move sound.balanced awaits move⟩

/-- A client that has sent everything and waits for nothing has answered every
    caller, and none of them twice. -/
theorem all_answered (sent : c.inFlight = []) (calls : c.calls = []) (batches : c.batches = []) :
    (∀ {oneshot registration}, c.issued.lookup oneshot = some registration → oneshot ∈ c.backend.channels.answered) ∧
      c.backend.channels.answered.Nodup := by
  have final := sound run conformant
  obtain ⟨handed, tracked⟩ := final.tracked
  refine ⟨fun {oneshot registration} issued => ?_, tracked.routed.once⟩
  rcases tracked.complete issued with waits | held | answered
  · rw [newOneshots, sent] at waits
    cases waits
  · cases held with
    | call pending =>
        have owed := final.balanced.calls.waited pending
        rw [calls] at owed
        cases owed
    | subscription pending =>
        have owed := awaits run conformant _ _ _ _ pending
        rw [calls] at owed
        cases owed
    | batch pending =>
        have owed := final.balanced.batches.mem_iff.mpr ⟨_, by rw [pending]; exact Option.some_ne_none _, rfl⟩
        rw [batches] at owed
        cases owed
  · exact answered

end Runs

end Client

end Jsonrpsee
