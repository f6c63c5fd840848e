import Jsonrpsee.Client.Freshness

/-! # Ids on the wire

Every number that is drawn from the counter is in one place at a time: it waits
in a call or in a message, it is reserved for an unsubscribe request, or it has
gone out. So no drawn id goes out twice, whatever the server sends. A batch,
however, also uses the numbers that follow the one it has drawn, and these are
drawn again by the calls after it.
-/

namespace Jsonrpsee

/-- The request ids in a frame: that of a request object, or those of the
    elements of a batch. -/
def frameIds (frame : Json) : List Id :=
  match requestId frame with
  | some id => [id]
  | none => (batchIds frame).getD []

/-- All request ids that are put on the wire, counting the elements of batches. -/
def wireIds (frames : List Json) : List Id := frames.flatMap frameIds

/-- The ids of frames that were drawn from the counter: of a batch the first. -/
def drawnIds (frames : List Json) : List Id := frames.flatMap fun frame => (frameIds frame).take 1

/-- The other ids of batches. -/
def derivedIds (frames : List Json) : List Id := frames.flatMap fun frame => (frameIds frame).drop 1

/-- The ids of consecutive numbers. -/
def Consecutive (idKind : IdKind) (ids : List Id) : Prop :=
  ∃ start len : Nat, start + len ≤ 2 ^ 64 ∧
    ids = (List.range len).map fun offset => idKind.intoId (UInt64.ofNat (start + offset))

theorem wireIds_perm (frames : List Json) : (wireIds frames).Perm (drawnIds frames ++ derivedIds frames) := by
  have split : wireIds frames = frames.flatMap fun frame => (frameIds frame).take 1 ++ (frameIds frame).drop 1 := by
    simp only [wireIds, List.take_append_drop]
  rw [split]
  exact (List.flatMap_append_perm ..).symm

namespace Consecutive

variable {idKind : IdKind} {ids ids' : List Id}

theorem nil : Consecutive idKind [] := ⟨0, 0, Nat.zero_le _, rfl⟩

theorem singleton (n : UInt64) : Consecutive idKind [idKind.intoId n] := by
  have bound := n.toNat_lt
  refine ⟨n.toNat, 1, by omega, ?_⟩
  rw [List.range_one, List.map_singleton, Nat.add_zero, UInt64.ofNat_toNat]

/-- The ids of a range. -/
theorem of_range {range : Range} (nonempty : range.start < range.stop) :
    Consecutive idKind (range.numbers.map idKind.intoId) := by
  have bound := range.stop.toNat_lt
  rw [UInt64.lt_iff_toNat_lt] at nonempty
  refine ⟨range.start.toNat, range.size, ?_, ?_⟩
  · rw [Range.size]
    omega
  · rw [Range.numbers, List.map_map]
    rfl

theorem intoId_inj {m n : Nat} (mSmall : m < 2 ^ 64) (nSmall : n < 2 ^ 64)
    (same : idKind.intoId (UInt64.ofNat m) = idKind.intoId (UInt64.ofNat n)) : m = n := by
  have numbers := congrArg UInt64.toNat (idKind.intoId_injective same)
  rwa [UInt64.toNat_ofNat_of_lt' mSmall, UInt64.toNat_ofNat_of_lt' nSmall] at numbers

theorem nodup (consecutive : Consecutive idKind ids) : ids.Nodup := by
  obtain ⟨start, len, fits, rfl⟩ := consecutive
  refine List.nodup_range.map_on ?_
  intro i iLt j jLt same
  rw [List.mem_range] at iLt jLt
  have numbers := intoId_inj (by omega) (by omega) same
  omega

private theorem mem_drop_range {len i : Nat} : i ∈ (List.range len).drop 1 ↔ 0 < i ∧ i < len := by
  rw [List.range_eq_range', List.drop_range', List.mem_range'_1]
  omega

private theorem take_range {len : Nat} (nonempty : 0 < len) : (List.range len).take 1 = [0] := by
  obtain ⟨n, rfl⟩ := Nat.exists_eq_succ_of_ne_zero (Nat.pos_iff_ne_zero.mp nonempty)
  rw [List.range_succ_eq_map]
  rfl

/-- When two runs of numbers meet behind their first ones, the first of one of
    them is one of the later ones of the other. -/
theorem first_of_common (consecutive : Consecutive idKind ids) (consecutive' : Consecutive idKind ids') {id : Id}
    (common : id ∈ ids.drop 1) (common' : id ∈ ids'.drop 1) (different : ids.take 1 ≠ ids'.take 1) :
    (∃ first ∈ ids'.take 1, first ∈ ids.drop 1) ∨ ∃ first ∈ ids.take 1, first ∈ ids'.drop 1 := by
  obtain ⟨start, len, fits, rfl⟩ := consecutive
  obtain ⟨start', len', fits', rfl⟩ := consecutive'
  rw [← List.map_drop] at common common' ⊢
  rw [← List.map_drop]
  obtain ⟨i, inside, rfl⟩ := List.mem_map.mp common
  obtain ⟨j, inside', same⟩ := List.mem_map.mp common'
  rw [mem_drop_range] at inside inside'
  have meets := intoId_inj (by omega) (by omega) same
  rw [← List.map_take, ← List.map_take, take_range (by omega), take_range (by omega)] at different ⊢
  simp only [List.map_singleton, Nat.add_zero] at different ⊢
  have apart : start ≠ start' := by
    rintro rfl
    exact different rfl
  rcases Nat.lt_or_gt_of_ne apart with before | after
  · refine .inl ⟨_, List.mem_singleton_self _, List.mem_map.mpr ⟨start' - start, ?_, ?_⟩⟩
    · rw [mem_drop_range]
      omega
    · rw [Nat.add_sub_cancel' (Nat.le_of_lt before)]
  · refine .inr ⟨_, List.mem_singleton_self _, List.mem_map.mpr ⟨start - start', ?_, ?_⟩⟩
    · rw [mem_drop_range]
      omega
    · rw [Nat.add_sub_cancel' (Nat.le_of_lt after)]

end Consecutive

/-- Ids that are drawn once are pairwise distinct on the wire exactly when none of
    them is among the later ids of a batch. -/
theorem wireIds_nodup_iff {idKind : IdKind} {frames : List Json}
    (consecutive : ∀ frame ∈ frames, Consecutive idKind (frameIds frame)) (drawn : (drawnIds frames).Nodup) :
    (wireIds frames).Nodup ↔ ∀ id ∈ derivedIds frames, id ∉ drawnIds frames := by
  rw [(wireIds_perm frames).nodup_iff, List.nodup_append]
  constructor
  · rintro ⟨-, -, disjoint⟩ id derived drawn
    exact disjoint id drawn id derived rfl
  · intro apart
    refine ⟨drawn, ?_, fun id drawn id' derived same => apart id' derived (same ▸ drawn)⟩
    refine List.nodup_flatMap.mpr ⟨fun frame member => (consecutive frame member).nodup.drop, ?_⟩
    refine (List.nodup_flatMap.mp drawn).2.imp_of_mem ?_
    intro frame frame' member member' starts id common common'
    dsimp only at common common'
    have different : (frameIds frame).take 1 ≠ (frameIds frame').take 1 := by
      intro same
      cases ids : frameIds frame with
      | nil =>
          rw [ids] at common
          cases common
      | cons first later =>
          have here : first ∈ (frameIds frame).take 1 := by simp [ids]
          have there : first ∈ (frameIds frame').take 1 := same ▸ here
          exact starts here there
    rcases (consecutive frame member).first_of_common (consecutive frame' member') common common' different with
      ⟨first, drawn, derived⟩ | ⟨first, drawn, derived⟩
    · exact apart first (List.mem_flatMap.mpr ⟨frame, member, derived⟩) (List.mem_flatMap.mpr ⟨frame', member', drawn⟩)
    · exact apart first (List.mem_flatMap.mpr ⟨frame', member', derived⟩) (List.mem_flatMap.mpr ⟨frame, member, drawn⟩)

/-! ## Where a drawn id can be -/

/-- The drawn ids that a message carries. -/
def FrontToBack.carried (idKind : IdKind) : FrontToBack → List Id
  | .request msg => [msg.id]
  | .subscribe msg => [msg.subscribeId, msg.unsubscribeId]
  | .batch msg => [idKind.intoId msg.ids.start]
  | .notification _ | .registerNotification _ | .unregisterNotification _ | .subscriptionClosed _ => []

/-- An id is reserved for an unsubscribe request. -/
def RequestManager.Reserves (m : RequestManager) (u : Id) : Prop := ∃ r, reservation m.requests r = some u

@[simp] theorem drawnIds_append (frames more : List Json) :
    drawnIds (frames ++ more) = drawnIds frames ++ drawnIds more :=
  List.flatMap_append ..

theorem drawnIds_request {raw : Json} {id : Id} (carries : requestId raw = some id) : drawnIds [raw] = [id] := by
  simp only [drawnIds, List.flatMap_cons, List.flatMap_nil, frameIds, carries, List.take_succ_cons, List.take_zero,
    List.append_nil]

theorem drawnIds_silent {raw : Json} (noRequest : requestId raw = none) (noBatch : batchIds raw = none) :
    drawnIds [raw] = [] := by
  simp only [drawnIds, List.flatMap_cons, List.flatMap_nil, frameIds, noRequest, noBatch, Option.getD_none,
    List.take_nil, List.append_nil]

/-- The first number of a range is the one it was generated from. -/
theorem Range.take_numbers {range : Range} (nonempty : range.start < range.stop) :
    range.numbers.take 1 = [range.start] := by
  rw [UInt64.lt_iff_toNat_lt] at nonempty
  obtain ⟨n, size⟩ : ∃ n, range.size = n + 1 := Nat.exists_eq_succ_of_ne_zero (by rw [Range.size]; omega)
  rw [Range.numbers, size, List.range_succ_eq_map, List.map_cons, List.take_succ_cons, List.take_zero, Nat.add_zero,
    UInt64.ofNat_toNat]

theorem drawnIds_batch {idKind : IdKind} {raw : Json} {range : Range} (noRequest : requestId raw = none)
    (carries : batchIds raw = some (range.numbers.map idKind.intoId)) (nonempty : range.start < range.stop) :
    drawnIds [raw] = [idKind.intoId range.start] := by
  simp only [drawnIds, List.flatMap_cons, List.flatMap_nil, frameIds, noRequest, carries, Option.getD_some,
    List.append_nil, ← List.map_take, Range.take_numbers nonempty, List.map_singleton]

/-- What a section does with the drawn ids `taken` of its message and with the
    reserved ones. -/
inductive IdMove (idKind : IdKind) (b : Backend) (taken : List Id) (out : Output) (after : Backend) : Prop where
  /-- Ids of the message go out or are lost, and reservations are given up. -/
  | keeps (shrinks : ∀ {r u}, reservation after.manager.requests r = some u →
        reservation b.manager.requests r = some u)
      (sent : (drawnIds out.frames).Sublist taken)
      (passed : out.messages.flatMap (FrontToBack.carried idKind) = [])
  /-- A subscribe request goes out; its second id is reserved. -/
  | reserves {id u : Id} (ids : taken = [id, u]) (sent : drawnIds out.frames = [id])
      (passed : out.messages.flatMap (FrontToBack.carried idKind) = [])
      (grows : ∀ {r v}, reservation after.manager.requests r = some v →
        r = id ∧ v = u ∨ reservation b.manager.requests r = some v)
  /-- A reserved id goes out, or is passed on in a message. -/
  | spends (none : taken = []) (reserved : reservation b.manager.requests r = some u)
      (moved : drawnIds out.frames ++ out.messages.flatMap (FrontToBack.carried idKind) = [u])
      (shrinks : ∀ {r' v}, reservation after.manager.requests r' = some v →
        r' ≠ r ∧ reservation b.manager.requests r' = some v)

/-- The drawn ids that a section takes from the queue. -/
def Op.taken (idKind : IdKind) : Op → List Id
  | .front msg => msg.carried idKind
  | .single _ | .batch _ _ | .notify _ | .close _ | .plain _ => []

/-- The message of a section is well formed. -/
def Op.Formed (idKind : IdKind) : Op → Prop
  | .front msg => msg.WellFormed idKind
  | .single _ | .batch _ _ | .notify _ | .close _ | .plain _ => True

theorem Backend.Step.idMove {cfg : Config} {b after : Backend} {op : Op} {out : Output} {idKind : IdKind}
    (step : b.Step cfg op out after) (formed : op.Formed idKind) :
    IdMove idKind b (op.taken idKind) out after := by
  cases step with
  | batch free =>
      obtain ⟨noRequest, carries, nonempty⟩ := formed
      refine .keeps id ?_ rfl
      rw [Output.frame, drawnIds_batch noRequest carries nonempty]
      exact .refl _
  | notification =>
      refine .keeps id ?_ rfl
      rw [Output.frame, drawnIds_silent formed.1 formed.2]
      exact .refl _
  | request free =>
      refine .keeps ?_ ?_ rfl
      · intro r u reserved
        grind
      · rw [Output.frame, drawnIds_request formed.1]
        exact .refl _
  | subscribe free unsubFree distinct =>
      refine .reserves rfl (drawnIds_request formed.1) rfl ?_
      intro r v reserved
      grind
  | unsubscribe known active =>
      refine .spends rfl (reservation_of_lookup active) ?_ ?_
      · rw [Output.frame, unsubscribeRequest, drawnIds_request (requestId_toJson _)]
        rfl
      · intro r' v reserved
        grind
  | abandon pending =>
      refine .spends rfl (reservation_of_lookup pending) rfl ?_
      intro r' v reserved
      grind
  | answerCall pending | release pending | subscribeRefused pending | subscribeUnreadable pending
  | subscribeDuplicate pending | activate pending | closed known active =>
      refine .keeps ?_ (List.nil_sublist _) rfl
      intro r u reserved
      grind
  | _ => exact .keeps id (List.nil_sublist _) rfl

/-- No id is reserved twice. -/
def ReservedOnce (b : Backend) : Prop :=
  ∀ {r r' u}, reservation b.manager.requests r = some u → reservation b.manager.requests r' = some u → r = r'

/-- What a section takes, puts on the wire, passes on and reserves stays
    allocated. -/
theorem IdMove.allocated {idKind : IdKind} {b after : Backend} {taken rest : List Id} {out : Output}
    {drawn : Id → Prop} (move : IdMove idKind b taken out after)
    (ids : Allocated drawn (taken ++ rest) b.manager.Reserves) (once : ReservedOnce b) :
    Allocated drawn (drawnIds out.frames ++ out.messages.flatMap (FrontToBack.carried idKind) ++ rest)
      after.manager.Reserves ∧ ReservedOnce after := by
  cases move with
  | keeps shrinks sent passed =>
      rw [passed, List.append_nil]
      refine ⟨(ids.mono id (.refl _) ?_).forget (sent.append (.refl _)),
        fun reserved reserved' => once (shrinks reserved) (shrinks reserved')⟩
      rintro u ⟨r, reserved⟩
      exact ⟨r, shrinks reserved⟩
  | @reserves id u taken sent passed grows =>
      subst taken
      rw [sent, passed, List.append_nil]
      have free : ∀ {r}, reservation b.manager.requests r ≠ some u := by
        intro r reserved
        exact ids.disjoint (by simp) ⟨r, reserved⟩
      have second : ([id, u] ++ rest).Perm ([u] ++ ([id] ++ rest)) := .swap u id rest
      refine ⟨ids.use second ?_, ?_⟩
      · rintro v ⟨r, reserved⟩
        rcases grows reserved with ⟨-, rfl⟩ | old
        · exact .inr (List.mem_singleton_self v)
        · exact .inl ⟨r, old⟩
      · intro r r' v reserved reserved'
        rcases grows reserved with ⟨rfl, rfl⟩ | old <;> rcases grows reserved' with ⟨same, here⟩ | old'
        · exact same.symm
        · exact absurd old' free
        · exact absurd (here ▸ old) free
        · exact once old old'
  | @spends r u none reserved moved shrinks =>
      subst none
      rw [moved]
      refine ⟨ids.release ⟨r, reserved⟩ ?_,
        fun reserved reserved' => once (shrinks reserved).2 (shrinks reserved').2⟩
      rintro v ⟨r', reserved'⟩
      obtain ⟨other, old⟩ := shrinks reserved'
      refine ⟨⟨r', old⟩, ?_⟩
      rintro rfl
      exact other (once old reserved)

/-- A frame has one id, or it is a batch with the ids of its range. -/
theorem Backend.Step.frames_ids {cfg : Config} {b after : Backend} {op : Op} {out : Output} {idKind : IdKind}
    (step : b.Step cfg op out after) (formed : op.Formed idKind) :
    ∀ frame ∈ out.frames, (∃ id, frameIds frame = [id]) ∨ Consecutive idKind (frameIds frame) := by
  have single : ∀ {raw : Json} {id : Id}, requestId raw = some id → ∀ frame ∈ [raw],
      (∃ id, frameIds frame = [id]) ∨ Consecutive idKind (frameIds frame) := by
    intro raw id carries frame member
    rw [List.mem_singleton.mp member, frameIds, carries]
    exact .inl ⟨id, rfl⟩
  cases step with
  | batch free =>
      obtain ⟨noRequest, carries, nonempty⟩ := formed
      intro frame member
      rw [List.mem_singleton.mp member, frameIds, noRequest]
      simp only [carries, Option.getD_some]
      exact .inr (.of_range nonempty)
  | notification =>
      intro frame member
      rw [List.mem_singleton.mp member, frameIds, formed.1]
      simp only [formed.2, Option.getD_none]
      exact .inr .nil
  | request | subscribe => exact single formed.1
  | unsubscribe => exact single (requestId_toJson _)
  | _ => exact fun frame member => by cases member

namespace Client

/-- Drawn ids that wait in a call or in a message. -/
def waiting (c : Client) : List Id :=
  c.inFlight.flatMap (FrontToBack.carried c.ids.idKind) ++ c.subscribing.map SubscribeCall.subscribeId

/-- The frames that a step hands to the transport. -/
def sentFrames (cfg : Config) (t : Transition Client ClientAction) : List Json :=
  match t.action with
  | .send position =>
      match t.before.inFlight[position]? with
      | some msg => (t.before.backend.handleFrontendMessages cfg msg).1
      | none => []
  | _ => []

/-- The frames of a run, in order. -/
def wire (cfg : Config) (ts : List (Transition Client ClientAction)) : List Json := ts.flatMap (sentFrames cfg)

/-- Every drawn id is in one place: on the wire, waiting, or reserved once. -/
structure Placed (frames : List Json) (c : Client) : Prop where
  ids : Allocated c.Drawn (drawnIds frames ++ c.waiting) c.backend.manager.Reserves
  once : ReservedOnce c.backend
  consecutive : ∀ frame ∈ frames, Consecutive c.ids.idKind (frameIds frame)
  wellFormed : ∀ msg ∈ c.inFlight, msg.WellFormed c.ids.idKind

theorem Placed.new (idKind : IdKind) : Placed [] (.new idKind) where
  ids := .empty (by
    rintro u ⟨r, reserved⟩
    cases reserved)
  once reserved := by cases reserved
  consecutive _ member := by cases member
  wellFormed _ member := by cases member

variable {serde : SerdeJson} {cfg : Config} {c c' : Client} {frames : List Json}

theorem waiting_queue_perm (c : Client) (msg : FrontToBack) :
    (msg.carried c.ids.idKind ++ c.waiting).Perm (c.queue msg).waiting := by
  simp only [waiting, queue, List.flatMap_append, List.flatMap_cons, List.flatMap_nil, List.append_nil]
  rw [← List.append_assoc]
  exact List.perm_append_comm.append_right _

/-- What waits comes behind the wire; a name that joins it may stand in front. -/
theorem perm_front {α : Type} (new before after : List α) : (new ++ (before ++ after)).Perm (before ++ (new ++ after)) := by
  rw [← List.append_assoc, ← List.append_assoc]
  exact List.perm_append_comm.append_right _

namespace Placed

/-- A message is queued, perhaps with the number that was drawn for it. -/
theorem queued (placed : Placed frames c) {d : Client} {msg : FrontToBack}
    (ids : Allocated d.Drawn (msg.carried d.ids.idKind ++ (drawnIds frames ++ d.waiting)) c.backend.manager.Reserves)
    (same : d.backend = c.backend) (kind : d.ids.idKind = c.ids.idKind) (messages : d.inFlight = c.inFlight)
    (formed : msg.WellFormed c.ids.idKind) : Placed frames (d.queue msg) := by
  refine ⟨ids.mono id ((perm_front _ _ _).trans ((waiting_queue_perm d msg).append_left _)) ?_, ?_, ?_, ?_⟩
  · rintro u ⟨r, reserved⟩
    exact ⟨r, same ▸ reserved⟩
  · intro r r' u
    rw [queue, same]
    exact placed.once
  · rw [queue, kind]
    exact placed.consecutive
  · rw [queue, kind, messages]
    intro other member
    rcases List.mem_append.mp member with earlier | last
    · exact placed.wellFormed other earlier
    · rw [List.mem_singleton.mp last]
      exact formed

/-- The calls of the public interface keep the ids in their places. -/
theorem of_call (placed : Placed frames c) {a : ClientAction} (move : c.Move serde cfg a c')
    (call : ∀ position, a ≠ .send position) (calls : ∀ raw, a ≠ .receive raw) : Placed frames c' := by
  have next : c.ids.currentId.toNat + 1 < 2 ^ 64 →
      Allocated c.advance.Drawn ([c.ids.idKind.intoId c.ids.currentId] ++ (drawnIds frames ++ c.waiting))
        c.backend.manager.Reserves :=
    fun small => placed.ids.draw not_drawn_next (·.mono rfl (le_advance small)) (drawn_advance small)
  cases move with
  | outside same silent kind le =>
      refine ⟨placed.ids.mono (·.mono kind le) (.of_eq ?_) ?_, ?_, ?_, ?_⟩
      · simp only [waiting, kind]
      · rintro u ⟨r, reserved⟩
        exact ⟨r, same ▸ reserved⟩
      · intro r r' u
        rw [same]
        exact placed.once
      · rw [kind]
        exact placed.consecutive
      · rw [kind]
        exact placed.wellFormed
  | @posted _ msg drawn plain kind le =>
      have silent : msg.carried drawn.idKind = [] := by
        cases msg with
        | notification | unregisterNotification | subscriptionClosed => rfl
        | batch | request | subscribe | registerNotification => cases plain
      refine @queued c frames placed { c with ids := drawn } msg ?_ rfl kind rfl (plain.wellFormed _)
      rw [silent, List.nil_append]
      exact placed.ids.mono (·.mono kind le) (.of_eq (by simp only [waiting, kind])) id
  | @registered _ msg own => exact placed.queued placed.ids rfl rfl rfl trivial
  | @requested _ msg small drawn own wellFormed =>
      refine placed.queued ?_ rfl rfl rfl wellFormed
      rw [FrontToBack.carried, drawn]
      exact next small
  | @batched _ msg small drawn own wellFormed =>
      refine placed.queued ?_ rfl rfl rfl wellFormed
      rw [FrontToBack.carried, drawn]
      exact next small
  | @subscribing _ call small drawn =>
      refine ⟨(next small).mono id ?_ id, placed.once, placed.consecutive, placed.wellFormed⟩
      refine List.perm_iff_count.mpr fun x => ?_
      simp only [waiting, advance, RequestIdManager.nextRequestId, List.map_append, List.map_cons, List.map_nil, drawn,
        List.count_append]
      omega
  | @subscribed _ msg call position small found first drawn own wellFormed =>
      refine placed.queued ?_ rfl rfl rfl wellFormed
      refine (next small).mono id ?_ id
      -- The subscribe id moves from the call into the message.
      have moved := (perm_eraseIdx found).map SubscribeCall.subscribeId
      rw [List.map_cons, ← first] at moved
      rw [FrontToBack.carried, ← drawn]
      refine List.perm_iff_count.mpr fun x => ?_
      have counted := moved.count_eq x
      simp only [waiting, issue, advance, RequestIdManager.nextRequestId, List.count_append, List.count_cons,
        List.count_nil] at counted ⊢
      omega
  | sent => exact absurd rfl (call _)
  | received => exact absurd rfl (calls _)

/-- Reservations are given up, and messages that carry nothing are passed on. -/
theorem shrink (placed : Placed frames c) {after : Backend} {messages : List FrontToBack}
    (shrinks : ∀ {r u}, reservation after.manager.requests r = some u →
      reservation c.backend.manager.requests r = some u)
    (silent : messages.flatMap (FrontToBack.carried c.ids.idKind) = [])
    (formed : ∀ msg ∈ messages, msg.WellFormed c.ids.idKind) :
    Placed frames { c with backend := after, inFlight := c.inFlight ++ messages } := by
  refine ⟨placed.ids.mono id (.of_eq ?_) ?_, fun reserved reserved' => placed.once (shrinks reserved) (shrinks reserved'),
    placed.consecutive, ?_⟩
  · simp only [waiting, List.flatMap_append, silent, List.append_nil]
  · rintro u ⟨r, reserved⟩
    exact ⟨r, shrinks reserved⟩
  · intro msg member
    exact (List.mem_append.mp member).elim (placed.wellFormed msg) (formed msg)

/-- Frames with drawn ids have consecutive ones. -/
theorem frames_consecutive (placed : Placed frames c) {more : List Json}
    (ids : ∀ frame ∈ more, (∃ id, frameIds frame = [id]) ∨ Consecutive c.ids.idKind (frameIds frame))
    (drawn : ∀ {id}, id ∈ drawnIds more → c.Drawn id) :
    ∀ frame ∈ frames ++ more, Consecutive c.ids.idKind (frameIds frame) := by
  intro frame member
  rcases List.mem_append.mp member with old | new
  · exact placed.consecutive frame old
  · rcases ids frame new with ⟨id, single⟩ | consecutive
    · have listed : id ∈ drawnIds more := List.mem_flatMap.mpr ⟨frame, new, by simp [single]⟩
      obtain ⟨n, -, rfl⟩ := drawn listed
      rw [single]
      exact .singleton n
    · exact consecutive

/-- `send_task` takes a message. -/
theorem send (placed : Placed frames c) {position : Nat} {msg : FrontToBack}
    (found : c.inFlight[position]? = some msg) (calls : List Id) (batches : List (List Id)) :
    Placed (frames ++ (c.backend.apply cfg (.front msg)).1.frames)
      { c with
        backend := (c.backend.apply cfg (.front msg)).2
        inFlight := c.inFlight.eraseIdx position
        calls
        batches } := by
  have formed : (Op.front msg).Formed c.ids.idKind := placed.wellFormed msg (List.mem_of_getElem? found)
  have step := c.backend.apply_step cfg (.front msg)
  have frameIds := step.frames_ids formed
  have silent : (c.backend.apply cfg (.front msg)).1.messages = [] := rfl
  have later : ∀ other ∈ c.inFlight.eraseIdx position, other.WellFormed c.ids.idKind :=
    fun other member => placed.wellFormed other (List.mem_of_mem_eraseIdx member)
  have moved : c.waiting.Perm (msg.carried c.ids.idKind ++
      waiting { c with inFlight := c.inFlight.eraseIdx position }) := by
    have taken := (perm_eraseIdx found).flatMap_right (FrontToBack.carried c.ids.idKind)
    rw [List.flatMap_cons] at taken
    simp only [waiting, ← List.append_assoc]
    exact taken.append_right _
  have front : (drawnIds frames ++ c.waiting).Perm (msg.carried c.ids.idKind ++
      (drawnIds frames ++ waiting { c with inFlight := c.inFlight.eraseIdx position })) :=
    (moved.append_left _).trans (perm_front _ _ _).symm
  obtain ⟨ids, once⟩ := (step.idMove formed).allocated (placed.ids.mono id front id) placed.once
  rw [silent, List.flatMap_nil, List.append_nil] at ids
  have behind := ids.mono id (perm_front _ _ _) id
  rw [← List.append_assoc, ← drawnIds_append] at behind
  refine ⟨behind, once, placed.frames_consecutive frameIds ?_, later⟩
  intro id listed
  exact ids.waiting_drawn (List.mem_append_left _ listed)

/-- `read_task` runs one section. -/
theorem critical (placed : Placed frames c) {op : Op} (back : ∀ msg, op ≠ .front msg) :
    Placed frames { c with
      backend := (c.backend.apply cfg op).2
      inFlight := c.inFlight ++ (c.backend.apply cfg op).1.messages } := by
  have step := c.backend.apply_step cfg op
  have formed : op.Formed c.ids.idKind := by
    cases op with
    | front msg => exact absurd rfl (back msg)
    | single | batch | notify | close | plain => trivial
  have none : op.taken c.ids.idKind = [] := by
    cases op with
    | front msg => exact absurd rfl (back msg)
    | single | batch | notify | close | plain => rfl
  have silent := step.frames_eq_nil back
  have move := step.idMove formed
  rw [none] at move
  have whole : Allocated c.Drawn ([] ++ (drawnIds frames ++ c.waiting)) c.backend.manager.Reserves := placed.ids
  obtain ⟨ids, once⟩ := move.allocated whole placed.once
  have nothing : drawnIds (c.backend.apply cfg op).1.frames = [] := by
    rw [silent]
    rfl
  rw [nothing, List.nil_append] at ids
  refine ⟨ids.mono id ?_ id, once, placed.consecutive, ?_⟩
  · refine List.perm_iff_count.mpr fun x => ?_
    simp only [waiting, List.flatMap_append, List.count_append]
    omega
  · intro msg member
    exact (List.mem_append.mp member).elim (placed.wellFormed msg) (step.messages_wellFormed msg)

end Placed

end Client

/-- Sections of notifications and batches give reservations up at most. -/
theorem Backend.Step.reservation_shrinks {cfg : Config} {b after : Backend} {op : Op} {out : Output}
    (step : b.Step cfg op out after) (silent : op.Quiet ∨ ∃ rps range, op = .batch rps range) {r u : Id}
    (reserved : reservation after.manager.requests r = some u) : reservation b.manager.requests r = some u := by
  rcases silent with quiet | ⟨rps, range, rfl⟩
  · cases step <;> first | exact quiet.elim | exact reserved | skip
    grind
  · cases step <;> exact reserved

/-- The end of a subscription. -/
def FrontToBack.Ends (msg : FrontToBack) : Prop := ∃ subId, msg = .subscriptionClosed subId

theorem ends_of_closed {closed : Option SubscriptionId} {msg : FrontToBack}
    (member : msg ∈ (closed.map FrontToBack.subscriptionClosed).toList) : msg.Ends := by
  cases closed with
  | none => cases member
  | some subId => exact ⟨subId, List.mem_singleton.mp member⟩

namespace Backend

variable {serde : SerdeJson} {cfg : Config} {raw : List UInt8}

theorem handleElements_ends {whole : Json} {elems : List Json} {st st' : ArrayState} {outcome : Outcome Unit}
    (handled : handleElements serde raw whole elems st = (outcome, st')) (before : ∀ msg ∈ st.messages, msg.Ends) :
    ∀ msg ∈ st'.messages, msg.Ends := by
  fun_induction handleElements serde raw whole elems st with
  | case1 | case2 | case5 | case8 =>
      cases handled
      exact before
  | case3 r rest st response parsed id numeric ih => exact ih handled before
  | case4 r rest st unread response parsed closed backend given messages ih =>
      refine ih handled fun msg member => ?_
      rcases List.mem_append.mp member with earlier | last
      · exact before msg earlier
      · exact ends_of_closed last
  | case6 r rest st unread _ response parsed backend given ih => exact ih handled before
  | case7 r rest st unread _ _ notif parsed backend ih => exact ih handled before

/-- A message that holds no single response passes on nothing but the end of
    subscriptions. -/
theorem recv_ends {b after : Backend} {messages : List FrontToBack} (other : serde.single raw = none)
    (handled : b.handleRecvMessage serde cfg raw = (.ok messages, after)) : ∀ msg ∈ messages, msg.Ends := by
  unfold handleRecvMessage at handled
  split at handled
  · rename_i brace
    split at handled
    · rename_i json parsed
      simp only [SerdeJson.single, brace, parsed] at other
      simp only [handleObject, other] at handled
      split at handled
      · cases handled
        exact fun msg => ends_of_closed
      · split at handled
        · split at handled <;> cases handled
          exact fun msg member => by cases member
        · split at handled <;> cases handled
          exact fun msg member => by cases member
    · cases handled
  · split at handled
    · dsimp only at handled
      split at handled
      · rename_i st done
        have ends := handleElements_ends done (by simp)
        unfold finishArray at handled
        split at handled
        · split at handled
          · cases handled
          · split at handled <;> cases handled
            exact ends
        · split at handled <;> cases handled
          exact ends
      · cases handled
      · cases handled
    · cases handled
  · cases handled

end Backend

namespace Client

variable {serde : SerdeJson} {cfg : Config} {c c' : Client} {frames : List Json}

/-- Which calls are answered does not matter here. -/
theorem placed_settle (serde : SerdeJson) (raw : List UInt8) {after : Backend} {messages : List FrontToBack}
    (down : Bool) (moved : Placed frames { c with backend := after, inFlight := messages }) :
    Placed frames { c.settle serde raw with backend := after, inFlight := messages, down } := by
  unfold settle
  split <;> exact ⟨moved.ids, moved.once, moved.consecutive, moved.wellFormed⟩

theorem settle_inFlight (serde : SerdeJson) (raw : List UInt8) : (c.settle serde raw).inFlight = c.inFlight := by
  unfold settle
  split <;> rfl

/-- A response that nobody waits for passes on nothing. -/
theorem messages_of_error {b : Backend} {rp : Response} {e : InvalidRequestId}
    (failed : (b.apply cfg (.single rp)).1.error = some e) : (b.apply cfg (.single rp)).1.messages = [] := by
  simp only [Backend.apply] at failed ⊢
  split
  · rfl
  · rename_i handled
    rw [handled] at failed
    cases failed

/-- `read_task` handles a response. -/
theorem Placed.receive_single (placed : Placed frames c) {raw : List UInt8} {rp : Response}
    (holds : serde.single raw = some rp) (taken : c.step serde cfg (.receive raw) = some c') :
    Placed frames c' := by
  have moved := @critical cfg c frames placed (.single rp) (by simp)
  simp only [Client.step, Backend.recv_single holds] at taken
  cases failed : (c.backend.apply cfg (.single rp)).1.error with
  | none =>
      simp only [failed] at taken
      obtain rfl := Option.some.inj taken
      exact placed_settle serde raw _ moved
  | some e =>
      simp only [failed] at taken
      obtain rfl := Option.some.inj taken
      rw [messages_of_error failed, List.append_nil] at moved
      refine placed_settle serde raw _ ?_
      rw [settle_inFlight]
      exact moved

/-- `read_task` handles notifications, an array, or what it cannot read. -/
theorem Placed.receive_other (placed : Placed frames c) {raw : List UInt8} (other : serde.single raw = none)
    (taken : c.step serde cfg (.receive raw) = some c') : Placed frames c' := by
  obtain ⟨quiet, last, ends, quiets, closing⟩ := c.backend.recv_ops serde cfg raw
  have shrinks : ∀ {r u}, reservation (c.backend.handleRecvMessage serde cfg raw).2.manager.requests r = some u →
      reservation c.backend.manager.requests r = some u := by
    intro r u
    rw [ends]
    refine Backend.applyAll_keep (fun b => reservation b.manager.requests r = some u →
      reservation c.backend.manager.requests r = some u) (fun b op member before reserved => ?_) id
    refine before ((b.apply_step cfg op).reservation_shrinks ?_ reserved)
    rcases List.mem_append.mp member with early | late
    · exact .inl (quiets op early)
    · cases closing with
      | none => cases late
      | single first holds => cases other.symm.trans holds
      | batch => exact .inr ⟨_, _, List.mem_singleton.mp late⟩
  simp only [Client.step] at taken
  split at taken
  · rename_i messages after handled
    obtain rfl := Option.some.inj taken
    rw [handled] at shrinks
    have nameless := Backend.recv_ends other handled
    refine placed_settle serde raw _ (placed.shrink shrinks ?_ ?_)
    · refine List.flatMap_eq_nil_iff.mpr fun msg member => ?_
      obtain ⟨subId, rfl⟩ := nameless msg member
      rfl
    · intro msg member
      obtain ⟨subId, rfl⟩ := nameless msg member
      trivial
  · rename_i after _ handled
    obtain rfl := Option.some.inj taken
    rw [handled] at shrinks
    have moved := @shrink c frames placed after [] shrinks rfl (by simp)
    rw [List.append_nil] at moved
    refine placed_settle serde raw _ ?_
    rw [settle_inFlight]
    exact moved

/-- Every step keeps the ids in their places, and its frames join the wire. -/
theorem Placed.step (placed : Placed frames c) {a : ClientAction} (taken : c.step serde cfg a = some c') :
    Placed (frames ++ sentFrames cfg ⟨c, a, c'⟩) c' := by
  by_cases sends : ∃ position, a = .send position
  · obtain ⟨position, rfl⟩ := sends
    simp only [Client.step] at taken
    split at taken
    · cases taken
    · rename_i msg found
      obtain rfl := Option.some.inj taken
      simp only [sentFrames, found]
      exact placed.send found _ _
  · have none : sentFrames cfg ⟨c, a, c'⟩ = [] := by
      cases a <;> first | rfl | exact absurd ⟨_, rfl⟩ sends
    rw [none, List.append_nil]
    by_cases receives : ∃ raw, a = .receive raw
    · obtain ⟨raw, rfl⟩ := receives
      cases holds : serde.single raw with
      | some rp => exact placed.receive_single holds taken
      | none => exact placed.receive_other holds taken
    · have other := not_exists.mp receives
      exact placed.of_call (move_of_step taken other) (not_exists.mp sends) other

theorem placed {idKind : IdKind} {ts : List (Transition Client ClientAction)}
    (run : Run (Client.step serde cfg) (.new idKind) ts c) : Placed (wire cfg ts) c := by
  induction run with
  | nil => exact .new idKind
  | snoc _ taken ih =>
      have next := ih.step taken
      simpa only [wire, List.flatMap_append, List.flatMap_cons, List.flatMap_nil, List.append_nil] using next

/-- On the wire of the asynchronous client the ids are pairwise distinct exactly
    when no drawn id is one that a batch has derived. -/
theorem wire_nodup_iff {idKind : IdKind} {ts : List (Transition Client ClientAction)}
    (run : Run (Client.step serde cfg) (.new idKind) ts c) :
    (wireIds (wire cfg ts)).Nodup ↔ ∀ id ∈ derivedIds (wire cfg ts), id ∉ drawnIds (wire cfg ts) :=
  have placed := placed run
  wireIds_nodup_iff placed.consecutive (List.nodup_append.mp placed.ids.nodup).1

end Client

/-! ## When a batch comes last -/

/-- The later ids of a batch that waits. -/
def FrontToBack.derived (idKind : IdKind) : FrontToBack → List Id
  | .batch msg => (msg.ids.numbers.map idKind.intoId).drop 1
  | .request _ | .subscribe _ | .notification _ | .registerNotification _ | .unregisterNotification _
  | .subscriptionClosed _ => []

/-- A call draws a number from the counter. -/
def ClientAction.Draws : ClientAction → Prop
  | .request _ _ | .drawUnsubscribeId _ | .notification _ _ | .skipId => True
  | .batchRequest batch => batch ≠ []
  | .subscribe subscribeMethod _ unsubscribeMethod => subscribeMethod ≠ unsubscribeMethod
  | .subscribeToMethod _ | .closeSubscription _ | .closeMethod _ | .send _ | .receive _ | .dropOneshot _
  | .dropReceiver _ | .read _ => False

/-- A batch of two or more entries. -/
def ClientAction.Wide : ClientAction → Prop
  | .batchRequest batch => 2 ≤ batch.length
  | .request _ _ | .drawUnsubscribeId _ | .notification _ _ | .skipId | .subscribe _ _ _ | .subscribeToMethod _
  | .closeSubscription _ | .closeMethod _ | .send _ | .receive _ | .dropOneshot _ | .dropReceiver _ | .read _ => False

@[simp] theorem derivedIds_append (frames more : List Json) :
    derivedIds (frames ++ more) = derivedIds frames ++ derivedIds more :=
  List.flatMap_append ..

theorem derivedIds_request {raw : Json} {id : Id} (carries : requestId raw = some id) : derivedIds [raw] = [] := by
  simp only [derivedIds, List.flatMap_cons, List.flatMap_nil, frameIds, carries, List.drop_succ_cons, List.drop_zero,
    List.append_nil]

theorem derivedIds_silent {raw : Json} (noRequest : requestId raw = none) (noBatch : batchIds raw = none) :
    derivedIds [raw] = [] := by
  simp only [derivedIds, List.flatMap_cons, List.flatMap_nil, frameIds, noRequest, noBatch, Option.getD_none,
    List.drop_nil, List.append_nil]

theorem derivedIds_batch {idKind : IdKind} {raw : Json} {range : Range} (noRequest : requestId raw = none)
    (carries : batchIds raw = some (range.numbers.map idKind.intoId)) :
    derivedIds [raw] = (range.numbers.map idKind.intoId).drop 1 := by
  simp only [derivedIds, List.flatMap_cons, List.flatMap_nil, frameIds, noRequest, carries, Option.getD_some,
    List.append_nil]

/-- The later ids of a range are of numbers above the first, and there are some
    only when it has two or more numbers. -/
theorem Range.mem_drop_numbers {idKind : IdKind} {range : Range} {id : Id} (fits : range.start < range.stop)
    (member : id ∈ (range.numbers.map idKind.intoId).drop 1) :
    2 ≤ range.size ∧ ∀ n, n ≤ range.start → id ≠ idKind.intoId n := by
  have bound := range.stop.toNat_lt
  rw [UInt64.lt_iff_toNat_lt] at fits
  rw [← List.map_drop, numbers, ← List.map_drop, List.map_map] at member
  obtain ⟨offset, inside, rfl⟩ := List.mem_map.mp member
  rw [List.range_eq_range', List.drop_range', List.mem_range'_1, size] at inside
  refine ⟨by rw [size]; omega, ?_⟩
  intro n le same
  rw [UInt64.le_iff_toNat_le] at le
  have numbers := congrArg UInt64.toNat (idKind.intoId_injective same)
  rw [UInt64.toNat_ofNat_of_lt' (by show _ < 2 ^ 64; omega)] at numbers
  omega

/-- The derived ids of a frame are those of its message. -/
theorem Backend.Step.frames_derived {cfg : Config} {b after : Backend} {msg : FrontToBack} {out : Output}
    {idKind : IdKind} (step : b.Step cfg (.front msg) out after) (formed : msg.WellFormed idKind) :
    derivedIds out.frames ⊆ msg.derived idKind := by
  have nothing : derivedIds [] ⊆ msg.derived idKind := List.nil_subset _
  cases step with
  | batch free =>
      rw [Output.frame, derivedIds_batch formed.1 formed.2.1]
      exact List.Subset.refl _
  | notification =>
      rw [Output.frame, derivedIds_silent formed.1 formed.2]
      exact nothing
  | request | subscribe =>
      rw [Output.frame, derivedIds_request formed.1]
      exact nothing
  | unsubscribe =>
      rw [Output.frame, unsubscribeRequest, derivedIds_request (requestId_toJson _)]
      exact nothing
  | _ => exact nothing

/-- The back end queues no batches. -/
theorem Backend.Step.messages_derived {cfg : Config} {b after : Backend} {op : Op} {out : Output} {idKind : IdKind}
    (step : b.Step cfg op out after) : out.messages.flatMap (FrontToBack.derived idKind) = [] := by
  cases step <;> rfl

namespace Client

variable {serde : SerdeJson} {cfg : Config} {c c' : Client}

/-- Ids that batches have derived, on the wire or waiting. -/
def spread (frames : List Json) (c : Client) : List Id :=
  derivedIds frames ++ c.inFlight.flatMap (FrontToBack.derived c.ids.idKind)

/-- A step that draws nothing leaves the counter alone. -/
theorem ids_of_step {a : ClientAction} (taken : c.step serde cfg a = some c') (draws : ¬ a.Draws) :
    c'.ids = c.ids := by
  cases a with
  | request | drawUnsubscribeId | notification | skipId => exact absurd trivial draws
  | batchRequest batch =>
      simp only [step, if_pos (Decidable.not_not.mp draws)] at taken
      obtain rfl := Option.some.inj taken
      rfl
  | subscribe subscribeMethod params unsubscribeMethod =>
      simp only [step, if_pos (Decidable.not_not.mp draws)] at taken
      obtain rfl := Option.some.inj taken
      rfl
  | subscribeToMethod | closeSubscription | closeMethod | dropOneshot | dropReceiver =>
      obtain rfl := Option.some.inj taken
      rfl
  | send position =>
      simp only [step] at taken
      split at taken
      · cases taken
      · obtain rfl := Option.some.inj taken
        rfl
  | receive raw =>
      have settled : (c.settle serde raw).ids = c.ids := by
        unfold settle
        split <;> rfl
      simp only [step] at taken
      split at taken
      all_goals
        obtain rfl := Option.some.inj taken
        exact settled
  | read sink =>
      obtain ⟨channels, -, rfl⟩ := Option.map_eq_some_iff.mp taken
      rfl

/-- Only a batch of two or more entries derives ids, and none of them has been
    drawn. -/
theorem derived_of_batch {batch : List (String × Option RawValue)} {id : Id}
    (taken : c.step serde cfg (.batchRequest batch) = some c')
    (member : id ∈ c'.inFlight.flatMap (FrontToBack.derived c'.ids.idKind)) :
    id ∈ c.inFlight.flatMap (FrontToBack.derived c.ids.idKind) ∨ 2 ≤ batch.length ∧ ¬ c'.Drawn id := by
  simp only [step] at taken
  split at taken
  · obtain rfl := Option.some.inj taken
    exact .inl member
  · rename_i nonempty
    obtain ⟨small, rfl⟩ := draw_eq_some taken
    split at member
    · exact .inl member
    · rename_i range generated
      obtain ⟨start, size, filled⟩ := generateBatchIdRange_ok generated
      simp only [queue, issue, List.flatMap_append, List.mem_append] at member
      rcases member with old | new
      · exact .inl old
      · rw [List.flatMap_singleton] at new
        obtain ⟨wide, above⟩ := Range.mem_drop_numbers (filled (List.length_pos_iff.mpr nonempty)) new
        refine .inr ⟨size ▸ wide, ?_⟩
        rintro ⟨n, below, rfl⟩
        refine above n ?_ rfl
        rw [start]
        simp only [queue, issue] at below
        rw [UInt64.lt_iff_toNat_lt, toNat_advance small] at below
        rw [UInt64.le_iff_toNat_le]
        omega

/-- Received texts make the back end queue no batches. -/
theorem recv_derived {raw : List UInt8} {messages : List FrontToBack} {after : Backend} {idKind : IdKind}
    (handled : c.backend.handleRecvMessage serde cfg raw = (.ok messages, after)) :
    messages.flatMap (FrontToBack.derived idKind) = [] := by
  cases holds : serde.single raw with
  | some rp =>
      rw [Backend.recv_single holds] at handled
      split at handled
      · cases handled
      · cases handled
        exact (c.backend.apply_step cfg (.single rp)).messages_derived
  | none =>
      refine List.flatMap_eq_nil_iff.mpr fun msg member => ?_
      obtain ⟨subId, rfl⟩ := Backend.recv_ends holds handled msg member
      rfl

/-- The other calls queue no batches. -/
theorem inFlight_of_step {a : ClientAction} (taken : c.step serde cfg a = some c')
    (notSend : ∀ position, a ≠ .send position) (notBatch : ∀ batch, a ≠ .batchRequest batch) :
    c'.inFlight.flatMap (FrontToBack.derived c'.ids.idKind) =
      c.inFlight.flatMap (FrontToBack.derived c.ids.idKind) := by
  have queued : ∀ {d : Client} {msg : FrontToBack}, msg.derived c.ids.idKind = [] → d.inFlight = c.inFlight →
      (d.queue msg).inFlight.flatMap (FrontToBack.derived c.ids.idKind) =
        c.inFlight.flatMap (FrontToBack.derived c.ids.idKind) := by
    intro d msg silent same
    rw [queue, same, List.flatMap_append, List.flatMap_singleton, silent, List.append_nil]
  cases a with
  | send position => exact absurd rfl (notSend position)
  | batchRequest batch => exact absurd rfl (notBatch batch)
  | request | notification =>
      simp only [step] at taken
      obtain ⟨-, rfl⟩ := draw_eq_some taken
      exact queued rfl rfl
  | skipId =>
      simp only [step] at taken
      obtain ⟨-, rfl⟩ := draw_eq_some taken
      rfl
  | subscribe =>
      simp only [step] at taken
      split at taken
      · obtain rfl := Option.some.inj taken
        rfl
      · obtain ⟨-, rfl⟩ := draw_eq_some taken
        rfl
  | drawUnsubscribeId position =>
      simp only [step] at taken
      split at taken
      · cases taken
      · obtain ⟨-, rfl⟩ := draw_eq_some taken
        exact queued rfl rfl
  | subscribeToMethod | closeSubscription | closeMethod =>
      obtain rfl := Option.some.inj taken
      exact queued rfl rfl
  | dropOneshot | dropReceiver =>
      obtain rfl := Option.some.inj taken
      rfl
  | read sink =>
      obtain ⟨channels, -, rfl⟩ := Option.map_eq_some_iff.mp taken
      rfl
  | receive raw =>
      rw [ids_of_step taken id]
      simp only [step] at taken
      split at taken
      · rename_i messages after handled
        obtain rfl := Option.some.inj taken
        rw [List.flatMap_append, recv_derived handled, List.append_nil]
      · obtain rfl := Option.some.inj taken
        rw [settle_inFlight]

/-- What a step adds to the derived ids. -/
theorem spread_step {frames : List Json} (placed : Placed frames c) {a : ClientAction}
    (taken : c.step serde cfg a = some c') :
    ∀ id ∈ spread (frames ++ sentFrames cfg ⟨c, a, c'⟩) c',
      id ∈ spread frames c ∨ a.Wide ∧ ¬ c'.Drawn id := by
  intro id member
  simp only [spread, derivedIds_append, List.mem_append, or_assoc] at member ⊢
  rcases member with old | sent | waits
  · exact .inl old
  · cases a with
    | send position =>
        simp only [sentFrames] at sent
        split at sent
        · rename_i msg found
          have step := c.backend.apply_step cfg (.front msg)
          have inside := step.frames_derived (placed.wellFormed msg (List.mem_of_getElem? found)) sent
          exact .inr (.inl (List.mem_flatMap.mpr ⟨msg, List.mem_of_getElem? found, inside⟩))
        · cases sent
    | _ => cases sent
  · by_cases sends : ∃ position, a = .send position
    · obtain ⟨position, rfl⟩ := sends
      simp only [step] at taken
      split at taken
      · cases taken
      · obtain rfl := Option.some.inj taken
        obtain ⟨msg, here, inside⟩ := List.mem_flatMap.mp waits
        exact .inr (.inl (List.mem_flatMap.mpr ⟨msg, List.mem_of_mem_eraseIdx here, inside⟩))
    · by_cases batches : ∃ batch, a = .batchRequest batch
      · obtain ⟨batch, rfl⟩ := batches
        exact .inr (derived_of_batch taken waits)
      · rw [inFlight_of_step taken (not_exists.mp sends) (not_exists.mp batches)] at waits
        exact .inr (.inl waits)

/-- When no number is drawn after a batch of two or more entries, all ids on the
    wire are distinct. -/
theorem wire_nodup_of_last {idKind : IdKind} {ts : List (Transition Client ClientAction)}
    (run : Run (Client.step serde cfg) (.new idKind) ts c)
    (last : ts.Pairwise fun t u => t.action.Wide → ¬ u.action.Draws) : (wireIds (wire cfg ts)).Nodup := by
  have undrawn : ∀ id ∈ spread (wire cfg ts) c, (∃ t ∈ ts, t.action.Wide) ∧ ¬ c.Drawn id := by
    refine Run.unspoilt (fun ts c => spread (wire cfg ts) c) (fun c id => ¬ c.Drawn id) rfl ?_ ?_ run last
    · intro ts t earlier taken
      have joined := spread_step (placed earlier) taken
      simpa only [wire, List.flatMap_append, List.flatMap_cons, List.flatMap_nil, List.append_nil] using joined
    · intro t id taken draws undrawn drawn
      have same := ids_of_step taken draws
      simp only [Drawn, same] at drawn
      exact undrawn drawn
  rw [wire_nodup_iff run]
  intro id derived drawn
  refine (undrawn id (List.mem_append_left _ derived)).2 ?_
  exact (placed run).ids.waiting_drawn (List.mem_append_left _ drawn)

end Client

end Jsonrpsee
