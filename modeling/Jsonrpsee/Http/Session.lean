import Jsonrpsee.Client.Uniqueness

/-! # The calls of an HTTP client

The HTTP client has no background task: every call draws its number, builds a
body and posts it. Calls run concurrently, so the bodies may be posted in
another order than the numbers were drawn in. A notification draws no number,
and there are no subscriptions.
-/

namespace Jsonrpsee

structure HttpSession where
  ids : RequestIdManager
  /-- Bodies of calls that have not been posted. -/
  inFlight : List Json

inductive HttpAction where
  | request (method : String) (params : Option RawValue)
  | batchRequest (batch : List (String × Option RawValue))
  | notification (method : String) (params : Option RawValue)
  /-- An id is drawn and the call ends before its body is built. -/
  | skipId
  | post (position : Nat)
  /-- A call times out or is dropped before its body is posted. -/
  | cancel (position : Nat)

namespace HttpSession

def new (idKind : IdKind) : HttpSession := { ids := { currentId := 0, idKind }, inFlight := [] }

/-- Draw an id while the counter has not been used up. -/
def draw (s : HttpSession) (bodies : Id → List Json) : Option HttpSession :=
  if s.ids.currentId.toNat + 1 < 2 ^ 64 then
    let (id, ids) := s.ids.nextRequestId
    some { ids, inFlight := s.inFlight ++ bodies id }
  else none

def step (s : HttpSession) : HttpAction → Option HttpSession
  | .request method params => s.draw fun id => [Request.toJson { id, method, params }]
  | .batchRequest batch =>
      if batch = [] then some s
      else
        s.draw fun id =>
          match generateBatchIdRange id batch.length with
          | .error _ => []
          | .ok range => [.arr ((Client.batchRequests s.ids.idKind batch range).map Request.toJson)]
  | .notification method params =>
      some { s with inFlight := s.inFlight ++ [Notification.toJson { method, params }] }
  | .skipId => s.draw fun _ => []
  | .post position | .cancel position =>
      match s.inFlight[position]? with
      | none => none
      | some _ => some { s with inFlight := s.inFlight.eraseIdx position }

/-- The bodies that a step posts. -/
def posted (t : Transition HttpSession HttpAction) : List Json :=
  match t.action with
  | .post position => t.before.inFlight[position]?.toList
  | _ => []

/-- The bodies of a run, in order. -/
def wire (ts : List (Transition HttpSession HttpAction)) : List Json := ts.flatMap posted

/-- The id has been drawn from the counter. -/
def Drawn (s : HttpSession) (id : Id) : Prop := ∃ n, n < s.ids.currentId ∧ id = s.ids.idKind.intoId n

/-- Every drawn id is on the wire, waits, or is lost. -/
structure Placed (frames : List Json) (s : HttpSession) : Prop where
  ids : Allocated s.Drawn (drawnIds (frames ++ s.inFlight)) fun _ => False
  consecutive : ∀ frame ∈ frames ++ s.inFlight, Consecutive s.ids.idKind (frameIds frame)

theorem Placed.new (idKind : IdKind) : Placed [] (.new idKind) where
  ids := .empty fun _ => id
  consecutive _ member := by cases member

section Steps

variable {s s' : HttpSession} {frames : List Json}

theorem draw_eq_some {bodies : Id → List Json} (drawn : s.draw bodies = some s') :
    s.ids.currentId.toNat + 1 < 2 ^ 64 ∧
      s' = ⟨s.ids.nextRequestId.2, s.inFlight ++ bodies (s.ids.idKind.intoId s.ids.currentId)⟩ := by
  obtain ⟨small, same⟩ := Option.ite_none_right_eq_some.mp drawn
  exact ⟨small, (Option.some.inj same).symm⟩

theorem toNat_next (small : s.ids.currentId.toNat + 1 < 2 ^ 64) :
    s.ids.nextRequestId.2.currentId.toNat = s.ids.currentId.toNat + 1 := by
  simp only [RequestIdManager.nextRequestId, UInt64.toNat_add, UInt64.toNat_one]
  exact Nat.mod_eq_of_lt small

/-- A number is drawn, and a body that starts with it waits. -/
theorem Placed.draw (placed : Placed frames s) {bodies : Id → List Json} (drawn : s.draw bodies = some s')
    (shape : bodies (s.ids.idKind.intoId s.ids.currentId) = [] ∨
      ∃ body, bodies (s.ids.idKind.intoId s.ids.currentId) = [body] ∧
        drawnIds [body] = [s.ids.idKind.intoId s.ids.currentId] ∧ Consecutive s.ids.idKind (frameIds body)) :
    Placed frames s' := by
  obtain ⟨small, rfl⟩ := draw_eq_some drawn
  have before : s.ids.currentId < s.ids.nextRequestId.2.currentId := by
    rw [UInt64.lt_iff_toNat_lt, toNat_next small]
    exact Nat.lt_succ_self _
  have grows : ∀ {id}, s.Drawn id → ∃ n, n < s.ids.nextRequestId.2.currentId ∧ id = s.ids.idKind.intoId n := by
    rintro id ⟨n, below, rfl⟩
    exact ⟨n, UInt64.lt_trans below before, rfl⟩
  have new : ¬ s.Drawn (s.ids.idKind.intoId s.ids.currentId) := by
    rintro ⟨n, below, same⟩
    rw [s.ids.idKind.intoId_injective same] at below
    exact UInt64.lt_irrefl _ below
  rcases shape with nothing | ⟨body, one, first, consecutive⟩
  · refine ⟨placed.ids.mono grows (.of_eq ?_) id, ?_⟩
    · simp only [nothing, List.append_nil]
    · rw [nothing, List.append_nil]
      exact placed.consecutive
  · refine ⟨(placed.ids.draw new grows ⟨_, before, rfl⟩).mono id ?_ id, ?_⟩
    · simp only [one]
      rw [← List.append_assoc, drawnIds_append (frames ++ s.inFlight), first]
      exact (List.perm_append_singleton _ _).symm
    · simp only [one]
      rw [← List.append_assoc]
      intro frame member
      rcases List.mem_append.mp member with old | last
      · exact placed.consecutive frame old
      · rw [List.mem_singleton.mp last]
        exact consecutive

/-- A body is taken from anywhere among those that wait. -/
theorem Placed.take (placed : Placed frames s) {position : Nat} {body : Json}
    (found : s.inFlight[position]? = some body) :
    Placed (frames ++ [body]) { s with inFlight := s.inFlight.eraseIdx position } := by
  have same : (frames ++ s.inFlight).Perm (frames ++ [body] ++ s.inFlight.eraseIdx position) := by
    rw [List.append_assoc]
    exact (Client.perm_eraseIdx found).append_left _
  refine ⟨placed.ids.mono id (same.flatMap_right _) id, ?_⟩
  intro frame member
  exact placed.consecutive frame (same.mem_iff.mpr member)

theorem Placed.step (placed : Placed frames s) {a : HttpAction} (taken : s.step a = some s') :
    Placed (frames ++ posted ⟨s, a, s'⟩) s' := by
  cases a with
  | request method params =>
      rw [posted, List.append_nil]
      simp only [HttpSession.step] at taken
      have carries := requestId_toJson { id := s.ids.idKind.intoId s.ids.currentId, method, params }
      refine placed.draw taken (.inr ⟨_, rfl, drawnIds_request carries, ?_⟩)
      rw [frameIds, carries]
      exact .singleton _
  | batchRequest batch =>
      rw [posted, List.append_nil]
      simp only [HttpSession.step] at taken
      split at taken
      · obtain rfl := Option.some.inj taken
        exact placed
      · rename_i nonempty
        refine placed.draw taken ?_
        split
        · exact .inl rfl
        · rename_i range generated
          obtain ⟨start, size, filled⟩ := Client.generateBatchIdRange_ok generated
          have carries := @Client.batchIds_batchRequests s.ids.idKind batch range size
          have proper := filled (List.length_pos_iff.mpr nonempty)
          refine .inr ⟨_, rfl, ?_, ?_⟩
          · rw [drawnIds_batch rfl carries proper, start]
          · rw [frameIds, show requestId _ = none from rfl]
            simp only [carries, Option.getD_some]
            exact .of_range proper
  | notification method params =>
      rw [posted, List.append_nil]
      obtain rfl := Option.some.inj taken
      have silent : frameIds (Notification.toJson { method, params }) = [] := rfl
      refine ⟨placed.ids.mono id (.of_eq ?_) id, ?_⟩
      · rw [← List.append_assoc, drawnIds_append (frames ++ s.inFlight), drawnIds_silent rfl rfl, List.append_nil]
      · rw [← List.append_assoc]
        intro frame member
        rcases List.mem_append.mp member with old | last
        · exact placed.consecutive frame old
        · rw [List.mem_singleton.mp last, silent]
          exact .nil
  | skipId =>
      rw [posted, List.append_nil]
      simp only [HttpSession.step] at taken
      exact placed.draw taken (.inl rfl)
  | post position =>
      simp only [HttpSession.step] at taken
      split at taken
      · cases taken
      · rename_i body found
        obtain rfl := Option.some.inj taken
        simp only [posted, found, Option.toList_some]
        exact placed.take found
  | cancel position =>
      simp only [HttpSession.step] at taken
      split at taken
      · cases taken
      · rename_i body found
        obtain rfl := Option.some.inj taken
        rw [posted, List.append_nil]
        have moved := placed.take found
        refine ⟨moved.ids.forget ?_, fun frame member => moved.consecutive frame ?_⟩
        · rw [drawnIds_append, drawnIds_append, drawnIds_append]
          exact (List.sublist_append_left _ _).append_right _
        · rw [List.append_assoc]
          exact List.mem_append.mpr ((List.mem_append.mp member).imp_right (List.mem_append_right _))

end Steps

theorem placed {idKind : IdKind} {ts : List (Transition HttpSession HttpAction)} {s : HttpSession}
    (run : Run step (.new idKind) ts s) : Placed (wire ts) s := by
  induction run with
  | nil => exact .new idKind
  | snoc _ taken ih =>
      have next := ih.step taken
      simpa only [wire, List.flatMap_append, List.flatMap_cons, List.flatMap_nil, List.append_nil] using next

/-- The same condition decides on the wire of the HTTP client. -/
theorem wire_nodup_iff {idKind : IdKind} {ts : List (Transition HttpSession HttpAction)} {s : HttpSession}
    (run : Run step (.new idKind) ts s) :
    (wireIds (wire ts)).Nodup ↔ ∀ id ∈ derivedIds (wire ts), id ∉ drawnIds (wire ts) := by
  have placed := placed run
  have drawn := placed.ids.nodup
  rw [drawnIds_append] at drawn
  exact wireIds_nodup_iff (fun frame member => placed.consecutive frame (List.mem_append_left _ member))
    (List.nodup_append.mp drawn).1

end HttpSession

/-- A call draws a number from the counter. -/
def HttpAction.Draws : HttpAction → Prop
  | .request _ _ | .skipId => True
  | .batchRequest batch => batch ≠ []
  | .notification _ _ | .post _ | .cancel _ => False

/-- A batch of two or more entries. -/
def HttpAction.Wide : HttpAction → Prop
  | .batchRequest batch => 2 ≤ batch.length
  | .request _ _ | .skipId | .notification _ _ | .post _ | .cancel _ => False

namespace HttpSession

variable {s s' : HttpSession} {frames : List Json}

theorem ids_of_step {a : HttpAction} (taken : s.step a = some s') (draws : ¬ a.Draws) : s'.ids = s.ids := by
  cases a with
  | request | skipId => exact absurd trivial draws
  | batchRequest batch =>
      simp only [step, if_pos (Decidable.not_not.mp draws)] at taken
      obtain rfl := Option.some.inj taken
      rfl
  | notification =>
      obtain rfl := Option.some.inj taken
      rfl
  | post | cancel =>
      simp only [step] at taken
      split at taken
      · cases taken
      · obtain rfl := Option.some.inj taken
        rfl

theorem derivedIds_mono {frames more : List Json} (inside : frames ⊆ more) : derivedIds frames ⊆ derivedIds more := by
  intro id member
  obtain ⟨frame, here, derived⟩ := List.mem_flatMap.mp member
  exact List.mem_flatMap.mpr ⟨frame, inside here, derived⟩

/-- A body with a single id, or without one, derives nothing. -/
theorem derived_draw {bodies : Id → List Json} (drawn : s.draw bodies = some s')
    (silent : derivedIds (bodies (s.ids.idKind.intoId s.ids.currentId)) = []) :
    derivedIds (frames ++ s'.inFlight) = derivedIds (frames ++ s.inFlight) := by
  obtain ⟨-, rfl⟩ := draw_eq_some drawn
  rw [← List.append_assoc, derivedIds_append (frames ++ s.inFlight), silent, List.append_nil]

/-- What a step adds to the derived ids. -/
theorem derived_step {a : HttpAction} (taken : s.step a = some s') {id : Id}
    (member : id ∈ derivedIds (frames ++ posted ⟨s, a, s'⟩ ++ s'.inFlight)) :
    id ∈ derivedIds (frames ++ s.inFlight) ∨ a.Wide ∧ ¬ s'.Drawn id := by
  cases a with
  | request method params =>
      simp only [step] at taken
      rw [posted, List.append_nil, derived_draw taken (derivedIds_request (requestId_toJson _))] at member
      exact .inl member
  | batchRequest batch =>
      simp only [step] at taken
      rw [posted, List.append_nil] at member
      split at taken
      · obtain rfl := Option.some.inj taken
        exact .inl member
      · rename_i nonempty
        cases generated : generateBatchIdRange (s.ids.idKind.intoId s.ids.currentId) batch.length with
        | error =>
            rw [derived_draw taken (by simp only [generated]; rfl)] at member
            exact .inl member
        | ok range =>
            obtain ⟨small, rfl⟩ := draw_eq_some taken
            obtain ⟨start, size, filled⟩ := Client.generateBatchIdRange_ok generated
            simp only [generated] at member
            rw [← List.append_assoc, derivedIds_append (frames ++ s.inFlight),
              derivedIds_batch rfl (Client.batchIds_batchRequests size)] at member
            refine (List.mem_append.mp member).imp_right fun new => ?_
            obtain ⟨wide, above⟩ := Range.mem_drop_numbers (filled (List.length_pos_iff.mpr nonempty)) new
            refine ⟨wide.trans_eq size, ?_⟩
            rintro ⟨n, below, rfl⟩
            refine above n ?_ rfl
            rw [UInt64.lt_iff_toNat_lt, toNat_next small] at below
            rw [start, UInt64.le_iff_toNat_le]
            omega
  | notification method params =>
      obtain rfl := Option.some.inj taken
      rw [posted, List.append_nil, ← List.append_assoc, derivedIds_append (frames ++ s.inFlight),
        derivedIds_silent rfl rfl, List.append_nil] at member
      exact .inl member
  | skipId =>
      simp only [step] at taken
      rw [posted, List.append_nil, derived_draw taken rfl] at member
      exact .inl member
  | post position =>
      simp only [step] at taken
      split at taken
      · cases taken
      · rename_i body found
        obtain rfl := Option.some.inj taken
        simp only [posted, found, Option.toList_some, List.append_assoc] at member
        refine .inl (derivedIds_mono ?_ member)
        exact ((Client.perm_eraseIdx found).append_left _).symm.subset
  | cancel position =>
      simp only [step] at taken
      split at taken
      · cases taken
      · obtain rfl := Option.some.inj taken
        rw [posted, List.append_nil] at member
        refine .inl (derivedIds_mono ?_ member)
        exact ((List.Sublist.refl _).append (List.eraseIdx_sublist ..)).subset

/-- When no number is drawn after a batch of two or more entries, all ids on the
    wire are distinct. -/
theorem wire_nodup_of_last {idKind : IdKind} {ts : List (Transition HttpSession HttpAction)}
    (run : Run step (.new idKind) ts s)
    (last : ts.Pairwise fun t u => t.action.Wide → ¬ u.action.Draws) : (wireIds (wire ts)).Nodup := by
  have undrawn : ∀ id ∈ derivedIds (wire ts ++ s.inFlight), (∃ t ∈ ts, t.action.Wide) ∧ ¬ s.Drawn id := by
    refine Run.unspoilt (fun ts s => derivedIds (wire ts ++ s.inFlight)) (fun s id => ¬ s.Drawn id) rfl ?_ ?_ run last
    · intro ts t earlier taken id member
      simp only [wire, List.flatMap_append, List.flatMap_cons, List.flatMap_nil, List.append_nil] at member
      exact derived_step taken member
    · intro t id taken draws undrawn drawn
      have same := ids_of_step taken draws
      simp only [Drawn, same] at drawn
      exact undrawn drawn
  rw [wire_nodup_iff run]
  intro id derived drawn
  have waits : id ∈ drawnIds (wire ts ++ s.inFlight) := by
    rw [drawnIds_append]
    exact List.mem_append_left _ drawn
  refine (undrawn id ?_).2 ((placed run).ids.waiting_drawn waits)
  rw [derivedIds_append]
  exact List.mem_append_left _ derived

end HttpSession

/-- On either client, whatever the server sends: the ids of a run are pairwise
    distinct on the wire exactly when no id that is drawn and goes out is among
    those that a batch derives. When nothing is drawn after a batch of two or more
    entries, they are. -/
theorem ids_unique_iff (idKind : IdKind) :
    (∀ {serde : SerdeJson} {cfg : Config} {ts : List (Transition Client ClientAction)} {c : Client},
      Run (Client.step serde cfg) (.new idKind) ts c →
        ((wireIds (Client.wire cfg ts)).Nodup ↔
          ∀ id ∈ derivedIds (Client.wire cfg ts), id ∉ drawnIds (Client.wire cfg ts)) ∧
        ((ts.Pairwise fun t u => t.action.Wide → ¬ u.action.Draws) → (wireIds (Client.wire cfg ts)).Nodup)) ∧
    (∀ {ts : List (Transition HttpSession HttpAction)} {s : HttpSession},
      Run HttpSession.step (.new idKind) ts s →
        ((wireIds (HttpSession.wire ts)).Nodup ↔
          ∀ id ∈ derivedIds (HttpSession.wire ts), id ∉ drawnIds (HttpSession.wire ts)) ∧
        ((ts.Pairwise fun t u => t.action.Wide → ¬ u.action.Draws) → (wireIds (HttpSession.wire ts)).Nodup)) :=
  ⟨fun run => ⟨Client.wire_nodup_iff run, Client.wire_nodup_of_last run⟩,
    fun run => ⟨HttpSession.wire_nodup_iff run, HttpSession.wire_nodup_of_last run⟩⟩

/-- A request and then a batch of two, on either client. -/
theorem ids_unique_iff_last :
    let batch : List (String × Option RawValue) := [("add", none), ("sub", none)]
    let cfg : Config := { maxBufferCapacityPerSubscription := 1, overflowChecks := true }
    (∃ ts c, Run (Client.step (Exchange.reader []) cfg) (.new .number) ts c ∧
      ts.map Transition.action = [.request "add" none, .batchRequest batch, .send 0, .send 0] ∧
      wireIds (Client.wire cfg ts) = [.number 0, .number 1, .number 2] ∧ (wireIds (Client.wire cfg ts)).Nodup) ∧
    (∃ ts s, Run HttpSession.step (.new .number) ts s ∧
      ts.map Transition.action = [.request "add" none, .batchRequest batch, .post 0, .post 0] ∧
      wireIds (HttpSession.wire ts) = [.number 0, .number 1, .number 2] ∧
      (wireIds (HttpSession.wire ts)).Nodup) := by
  intro batch cfg
  have shape : ∀ {σ α : Type} {ts : List (Transition σ α)} {a b c d : α} {wide draws : α → Prop},
      ts.map Transition.action = [a, b, c, d] → ¬ wide a → ¬ draws c → ¬ draws d →
        ¬ wide c → ts.Pairwise fun t u => wide t.action → ¬ draws u.action := by
    intro σ α ts a b c d wide draws labels _ _ _ _
    rw [← List.pairwise_map (f := Transition.action) (R := fun a b => wide a → ¬ draws b), labels]
    simp [*]
  constructor
  · obtain ⟨ts, c, run, labels, ids⟩ := Run.records (Client.step (Exchange.reader []) cfg) (.new .number)
      [.request "add" none, .batchRequest batch, .send 0, .send 0]
      (fun ts _ => wireIds (Client.wire cfg ts) = [.number 0, .number 1, .number 2]) (by decide)
    exact ⟨ts, c, run, labels, of_decide_eq_true ids,
      ((ids_unique_iff .number).1 run).2 (shape labels id id id id)⟩
  · obtain ⟨ts, s, run, labels, ids⟩ := Run.records HttpSession.step (.new .number)
      [.request "add" none, .batchRequest batch, .post 0, .post 0]
      (fun ts _ => wireIds (HttpSession.wire ts) = [.number 0, .number 1, .number 2]) (by decide)
    exact ⟨ts, s, run, labels, of_decide_eq_true ids,
      ((ids_unique_iff .number).2 run).2 (shape labels id id id id)⟩

/-- A batch of two and then a request: both carry the number that follows the
    batch's own. -/
theorem ids_repeat_after_batch :
    let batch : List (String × Option RawValue) := [("add", none), ("sub", none)]
    let cfg : Config := { maxBufferCapacityPerSubscription := 1, overflowChecks := true }
    (∃ ts c, Run (Client.step (Exchange.reader []) cfg) (.new .number) ts c ∧
      ts.map Transition.action = [.batchRequest batch, .request "add" none, .send 0, .send 0] ∧
      wireIds (Client.wire cfg ts) = [.number 0, .number 1, .number 1] ∧ ¬ (wireIds (Client.wire cfg ts)).Nodup) ∧
    (∃ ts s, Run HttpSession.step (.new .number) ts s ∧
      ts.map Transition.action = [.batchRequest batch, .request "add" none, .post 0, .post 0] ∧
      wireIds (HttpSession.wire ts) = [.number 0, .number 1, .number 1] ∧
      ¬ (wireIds (HttpSession.wire ts)).Nodup) := by
  intro batch cfg
  have twice : ¬ [Id.number 0, .number 1, .number 1].Nodup := by decide
  constructor
  · obtain ⟨ts, c, run, labels, ids⟩ := Run.records (Client.step (Exchange.reader []) cfg) (.new .number)
      [.batchRequest batch, .request "add" none, .send 0, .send 0]
      (fun ts _ => wireIds (Client.wire cfg ts) = [.number 0, .number 1, .number 1]) (by decide)
    have ids := of_decide_eq_true ids
    exact ⟨ts, c, run, labels, ids, ids ▸ twice⟩
  · obtain ⟨ts, s, run, labels, ids⟩ := Run.records HttpSession.step (.new .number)
      [.batchRequest batch, .request "add" none, .post 0, .post 0]
      (fun ts _ => wireIds (HttpSession.wire ts) = [.number 0, .number 1, .number 1]) (by decide)
    have ids := of_decide_eq_true ids
    exact ⟨ts, s, run, labels, ids, ids ▸ twice⟩

end Jsonrpsee
