import Jsonrpsee.Lib.Fresh
import Jsonrpsee.Client.Conformance
import Jsonrpsee.Client.Routing

/-! # Nothing is occupied

Request ids, the first ids of batches and oneshots are drawn from counters, wait
in a message for `send_task`, and are then put into the tables. Each of the
three is an allocation of names, so a message that is taken from the queue finds
its names free: no call, batch or subscribe call is refused as occupied. The
unsubscribe request of an abandoned subscription is the one message that carries
an id already in use.
-/

namespace Jsonrpsee

namespace FrontToBack

/-- The request ids a message was given when they were drawn. -/
def newIds : FrontToBack → List Id
  | .request { sendBack := some _, id, .. } => [id]
  | .subscribe msg => [msg.subscribeId, msg.unsubscribeId]
  | .request { sendBack := none, .. } | .batch _ | .notification _ | .registerNotification _
  | .unregisterNotification _ | .subscriptionClosed _ => []

/-- The reserved id of an unsubscribe request. -/
def reusedId : FrontToBack → Option Id
  | .request { sendBack := none, id, .. } => some id
  | .request { sendBack := some _, .. } | .subscribe _ | .batch _ | .notification _
  | .registerNotification _ | .unregisterNotification _ | .subscriptionClosed _ => none

def newStart : FrontToBack → Option UInt64
  | .batch msg => some msg.ids.start
  | .request _ | .subscribe _ | .notification _ | .registerNotification _
  | .unregisterNotification _ | .subscriptionClosed _ => none

def newOneshot (msg : FrontToBack) : Option OneshotId := msg.registration.map Prod.fst

theorem request_names {msg : RequestMessage} {oneshot : OneshotId} (waiting : msg.sendBack = some oneshot) :
    (FrontToBack.request msg).newIds = [msg.id] ∧ (FrontToBack.request msg).reusedId = none ∧
      (FrontToBack.request msg).newOneshot = some oneshot := by
  obtain ⟨raw, id, sendBack⟩ := msg
  subst waiting
  exact ⟨rfl, rfl, rfl⟩

/-- A plain message carries no names. -/
theorem Plain.nameless {msg : FrontToBack} (plain : msg.Plain) :
    msg.newIds = [] ∧ msg.reusedId = none ∧ msg.newStart = none ∧ msg.newOneshot = none := by
  cases msg with
  | notification | unregisterNotification | subscriptionClosed => exact ⟨rfl, rfl, rfl, rfl⟩
  | batch | request | subscribe | registerNotification => cases plain

end FrontToBack

theorem filterMap_toList {α β : Type} (f : α → Option β) (x : α) : [x].filterMap f = (f x).toList := by
  cases here : f x <;> simp only [List.filterMap_cons, here, List.filterMap_nil, Option.toList]

theorem filterMap_cons_toList {α β : Type} (f : α → Option β) (x : α) (xs : List α) :
    (x :: xs).filterMap f = (f x).toList ++ xs.filterMap f := by
  rw [← List.singleton_append, List.filterMap_append, filterMap_toList]

namespace Backend

variable {cfg : Config} {b after : Backend} {op : Op} {out : Output}

/-- A section puts only the ids of its message into the requests. -/
theorem Step.requests_keys (step : b.Step cfg op out after) {id : Id}
    (key : after.manager.requests.lookup id ≠ none) :
    b.manager.requests.lookup id ≠ none ∨
      ∃ msg, op = .front msg ∧ (id ∈ msg.newIds ∨ msg.reusedId = some id) := by
  cases step with
  | @request msg free =>
      by_cases here : id = msg.id
      · refine .inr ⟨_, rfl, ?_⟩
        obtain ⟨raw, _, sendBack⟩ := msg
        cases sendBack with
        | none => exact .inr (congrArg some here.symm)
        | some => exact .inl (List.mem_singleton.mpr here)
      · exact .inl (by simpa only [Finmap.lookup_insert_of_ne _ here] using key)
  | @subscribe msg free unsubFree distinct =>
      by_cases first : id = msg.subscribeId
      · exact .inr ⟨_, rfl, .inl (List.mem_cons.mpr (.inl first))⟩
      · by_cases second : id = msg.unsubscribeId
        · exact .inr ⟨_, rfl, .inl (List.mem_cons_of_mem _ (List.mem_singleton.mpr second))⟩
        · rw [Finmap.lookup_insert_of_ne _ second, Finmap.lookup_insert_of_ne _ first] at key
          exact .inl key
  | unsubscribe known active => exact .inl (by grind)
  | closed known active => exact .inl (by grind)
  | answerCall pending | release pending | subscribeRefused pending | subscribeUnreadable pending
  | subscribeDuplicate pending | activate pending | abandon pending => exact .inl (by grind)
  | _ => exact .inl key

/-- A section puts only the range of its message into the batches. -/
theorem Step.batches_keys (step : b.Step cfg op out after) {range : Range}
    (key : after.manager.batches.lookup range ≠ none) :
    b.manager.batches.lookup range ≠ none ∨ ∃ msg, op = .front (.batch msg) ∧ range = msg.ids := by
  cases step with
  | @batch msg free => grind
  | batchAnswered | batchUnstorable => exact .inl (by grind)
  | _ => exact .inl key

/-- The oneshot is in the tables or has been used. -/
def UsesOneshot (b : Backend) (oneshot : OneshotId) : Prop :=
  (∃ registration, b.manager.Holds oneshot registration) ∨ oneshot ∈ b.channels.answered

/-- A section takes over only the oneshot of its message. -/
theorem Flow.usesOneshot (moved : b.Flow op after) {oneshot : OneshotId}
    (uses : after.UsesOneshot oneshot) :
    b.UsesOneshot oneshot ∨ ∃ msg, op = .front msg ∧ msg.newOneshot = some oneshot := by
  have named : ∀ {msg : FrontToBack} {o reg}, msg.registration = some (o, reg) → msg.newOneshot = some o :=
    fun sender => by rw [FrontToBack.newOneshot, sender, Option.map_some]
  have logged : ∀ {answer : Answer}, after.channels.answers = b.channels.answers ++ [answer] →
      oneshot ∈ after.channels.answered → oneshot ∈ b.channels.answered ∨ oneshot = answer.oneshot := by
    intro answer answers member
    rwa [Channels.answered, answers, List.map_append, List.mem_append, List.map_singleton,
      List.mem_singleton] at member
  have unlogged : after.channels.answers = b.channels.answers →
      oneshot ∈ after.channels.answered → oneshot ∈ b.channels.answered := by
    intro silent member
    rwa [Channels.answered, silent] at member
  cases moved with
  | still silent kept =>
      rcases uses with ⟨reg, held⟩ | member
      · exact .inl (.inl ⟨reg, kept _ _ held⟩)
      · exact .inl (.inr (unlogged silent member))
  | taken front sender silent kept =>
      rcases uses with ⟨reg, held⟩ | member
      · rcases kept _ _ held with before | ⟨rfl, -⟩
        · exact .inl (.inl ⟨reg, before⟩)
        · exact .inr ⟨_, front, named sender⟩
      · exact .inl (.inr (unlogged silent member))
  | denied front sender reason answered kept =>
      rcases uses with ⟨reg, held⟩ | member
      · exact .inl (.inl ⟨reg, kept _ _ held⟩)
      · rcases logged answered member with before | rfl
        · exact .inl (.inr before)
        · exact .inr ⟨_, front, named sender⟩
  | settled back held reason answered kept =>
      rcases uses with ⟨reg, later⟩ | member
      · exact .inl (.inl ⟨reg, (kept _ _ later).1⟩)
      · rcases logged answered member with before | rfl
        · exact .inl (.inr before)
        · exact .inl (.inl ⟨_, held⟩)

/-- What a section passes on to `send_task` carries no new name; a reserved id
    that it carries is in use. -/
theorem Step.messages_reused {calls : List Id} (step : b.Step cfg op out after)
    (ledger : CallLedger b.manager.requests calls) {msg : FrontToBack} (member : msg ∈ out.messages) :
    msg.newIds = [] ∧ msg.newStart = none ∧ msg.newOneshot = none ∧
      ∀ id, msg.reusedId = some id → b.manager.requests.lookup id ≠ none := by
  cases step with
  | abandon pending =>
      obtain rfl := List.mem_singleton.mp member
      refine ⟨rfl, rfl, rfl, ?_⟩
      rintro id ⟨⟩
      rw [(ledger.reserved (reservation_of_lookup pending)).1]
      exact Option.some_ne_none _
  | notifyLost =>
      obtain rfl := List.mem_singleton.mp member
      exact ⟨rfl, rfl, rfl, nofun⟩
  | _ => cases member

end Backend

namespace Client

variable {serde : SerdeJson} {cfg : Config} {c c' : Client} {a : ClientAction}

/-- The id has been drawn from the counter. -/
def Drawn (c : Client) (id : Id) : Prop :=
  ∃ n, n < c.ids.currentId ∧ id = c.ids.idKind.intoId n

/-- Request ids that wait to be put into the tables. -/
def newIds (c : Client) : List Id :=
  c.inFlight.flatMap FrontToBack.newIds ++ c.subscribing.map SubscribeCall.subscribeId

def UsesId (c : Client) (id : Id) : Prop :=
  c.backend.manager.requests.lookup id ≠ none ∨ ∃ msg ∈ c.inFlight, msg.reusedId = some id

def newStarts (c : Client) : List UInt64 := c.inFlight.filterMap FrontToBack.newStart

def UsesStart (c : Client) (start : UInt64) : Prop :=
  ∃ range, c.backend.manager.batches.lookup range ≠ none ∧ range.start = start

def newOneshots (c : Client) : List OneshotId := c.inFlight.filterMap FrontToBack.newOneshot

/-- Ids, first ids of batches and oneshots are allocated. -/
structure Fresh (c : Client) : Prop where
  ids : Allocated c.Drawn c.newIds c.UsesId
  starts : Allocated (· < c.ids.currentId) c.newStarts c.UsesStart
  oneshots : Allocated (· < c.nextOneshot) c.newOneshots c.backend.UsesOneshot

theorem Fresh.new (idKind : IdKind) : Fresh (.new idKind) where
  ids := .empty (by
    rintro id (key | ⟨msg, member, -⟩)
    · exact key rfl
    · cases member)
  starts := .empty (by
    rintro start ⟨range, key, -⟩
    exact key rfl)
  oneshots := .empty (by
    rintro oneshot (⟨registration, held⟩ | member)
    · cases held with | call pending | subscription pending | batch pending => cases pending
    · cases member)

/-! ## The counter -/

theorem lt_advance (small : c.ids.currentId.toNat + 1 < 2 ^ 64) :
    c.ids.currentId < c.advance.ids.currentId := by
  rw [UInt64.lt_iff_toNat_lt, toNat_advance small]
  exact Nat.lt_succ_self _

theorem Drawn.mono {id : Id} (drawn : c.Drawn id) (kind : c'.ids.idKind = c.ids.idKind)
    (le : c.ids.currentId ≤ c'.ids.currentId) : c'.Drawn id := by
  obtain ⟨n, below, rfl⟩ := drawn
  exact ⟨n, UInt64.lt_of_lt_of_le below le, by rw [kind]⟩

/-- The next id has not been drawn. -/
theorem not_drawn_next : ¬ c.Drawn (c.ids.idKind.intoId c.ids.currentId) := by
  rintro ⟨n, below, same⟩
  rw [c.ids.idKind.intoId_injective same] at below
  exact UInt64.lt_irrefl _ below

theorem drawn_advance (small : c.ids.currentId.toNat + 1 < 2 ^ 64) :
    c.advance.Drawn (c.ids.idKind.intoId c.ids.currentId) :=
  ⟨_, lt_advance small, rfl⟩

/-! ## The queue -/

section Queue

variable (c : Client) (msg : FrontToBack)

theorem newIds_queue_perm : (msg.newIds ++ c.newIds).Perm (c.queue msg).newIds := by
  simp only [newIds, queue, List.flatMap_append, List.flatMap_cons, List.flatMap_nil, List.append_nil]
  rw [← List.append_assoc]
  exact List.perm_append_comm.append_right _

theorem usesId_queue (unused : msg.reusedId = none) {id : Id} (uses : (c.queue msg).UsesId id) :
    c.UsesId id := by
  rcases uses with key | ⟨other, member, reused⟩
  · exact .inl key
  · rcases List.mem_append.mp member with earlier | last
    · exact .inr ⟨other, earlier, reused⟩
    · rw [List.mem_singleton.mp last, unused] at reused
      cases reused

theorem newStarts_queue_perm : (msg.newStart.toList ++ c.newStarts).Perm (c.queue msg).newStarts := by
  rw [newStarts, newStarts, queue, List.filterMap_append, filterMap_toList]
  exact List.perm_append_comm

theorem newOneshots_queue_perm :
    (msg.newOneshot.toList ++ c.newOneshots).Perm (c.queue msg).newOneshots := by
  rw [newOneshots, newOneshots, queue, List.filterMap_append, filterMap_toList]
  exact List.perm_append_comm

end Queue

/-- A message is taken from anywhere in the queue. -/
theorem perm_eraseIdx {α : Type} {xs : List α} {position : Nat} {x : α} (found : xs[position]? = some x) :
    xs.Perm (x :: xs.eraseIdx position) := by
  obtain ⟨inside, rfl⟩ := List.getElem?_eq_some_iff.mp found
  exact (List.getElem_cons_eraseIdx_perm inside).symm

/-! ## Every move keeps the allocations -/

/-- The next id is drawn and waits. -/
theorem Fresh.ids_next (fresh : Fresh c) (small : c.ids.currentId.toNat + 1 < 2 ^ 64) :
    Allocated c.advance.Drawn (c.ids.idKind.intoId c.ids.currentId :: c.newIds) c.UsesId :=
  fresh.ids.draw not_drawn_next (·.mono rfl (le_advance small)) (drawn_advance small)

theorem Fresh.ids_of_move (fresh : Fresh c) (balanced : Balanced c) (move : c.Move serde cfg a c') :
    Allocated c'.Drawn c'.newIds c'.UsesId := by
  have allocated := fresh.ids
  cases move with
  | outside same silent kind le =>
      refine allocated.mono (·.mono kind le) (.refl _) ?_
      rintro id (key | reused)
      · exact .inl (by rwa [← same])
      · exact .inr reused
  | @posted _ msg drawn plain kind le =>
      obtain ⟨none, unused, -⟩ := plain.nameless
      have same := newIds_queue_perm { c with ids := drawn } msg
      rw [none, List.nil_append] at same
      exact allocated.mono (·.mono kind le) same (usesId_queue _ _ unused)
  | @registered _ msg own =>
      exact allocated.mono id (newIds_queue_perm _ (.registerNotification msg)) (usesId_queue _ _ rfl)
  | @requested _ msg small drawn own wellFormed =>
      obtain ⟨ids, unused, -⟩ := FrontToBack.request_names own
      have same := newIds_queue_perm (c.advance.issue (.call msg.id)) (.request msg)
      rw [ids, drawn] at same
      exact (fresh.ids_next small).mono id same (usesId_queue _ _ unused)
  | @batched _ msg small drawn own wellFormed =>
      exact allocated.mono (·.mono rfl (le_advance small)) (newIds_queue_perm _ (.batch msg))
        (usesId_queue _ _ rfl)
  | @subscribing _ call small drawn =>
      refine (fresh.ids_next small).mono id ?_ id
      simp only [newIds, advance, List.map_append, List.map_cons, List.map_nil, drawn, ← List.append_assoc]
      exact (List.perm_append_singleton _ _).symm
  | @subscribed _ msg call position small found first drawn own wellFormed =>
      have same := newIds_queue_perm ({ c.advance with subscribing := c.subscribing.eraseIdx position }.issue
        (.subscription msg.subscribeId)) (.subscribe msg)
      refine (fresh.ids_next small).mono id (.trans ?_ same) (usesId_queue _ _ rfl)
      rw [← drawn]
      have moved := (perm_eraseIdx found).map SubscribeCall.subscribeId
      rw [List.map_cons, ← first] at moved
      have whole := (moved.append_left (c.inFlight.flatMap FrontToBack.newIds)).trans List.perm_middle
      exact (whole.cons _).trans (.swap _ _ _)
  | @sent msg position found =>
      have moved := (perm_eraseIdx found).flatMap_right FrontToBack.newIds
      rw [List.flatMap_cons] at moved
      have taken := moved.append_right (c.subscribing.map SubscribeCall.subscribeId)
      rw [List.append_assoc] at taken
      -- A reserved id that goes onto the wire was in use before.
      have kept : ∀ {id : Id}, UsesId { c with
          backend := (c.backend.apply cfg (.front msg)).2
          inFlight := c.inFlight.eraseIdx position } id → c.UsesId id ∨ id ∈ msg.newIds := by
        rintro id (key | ⟨other, member, reused⟩)
        · rcases (Backend.apply_step cfg c.backend (.front msg)).requests_keys key with
            before | ⟨_, ⟨⟩, new | reused⟩
          · exact .inl (.inl before)
          · exact .inr new
          · exact .inl (.inr ⟨msg, List.mem_of_getElem? found, reused⟩)
        · exact .inl (.inr ⟨other, List.mem_of_mem_eraseIdx member, reused⟩)
      exact allocated.use taken kept
  | @received raw op receives =>
      have step := Backend.apply_step cfg c.backend op
      have silent : (c.backend.apply cfg op).1.messages.flatMap FrontToBack.newIds = [] :=
        List.flatMap_eq_nil_iff.mpr fun msg member => (step.messages_reused balanced.calls member).1
      refine allocated.mono id (.of_eq ?_) ?_
      · simp only [newIds, List.flatMap_append, silent, List.append_nil]
      · rintro id (key | ⟨msg, member, reused⟩)
        · rcases step.requests_keys key with before | ⟨msg, front, -⟩
          · exact .inl before
          · exact absurd front (receives.back msg)
        · rcases List.mem_append.mp member with earlier | new
          · exact .inr ⟨msg, earlier, reused⟩
          · exact .inl ((step.messages_reused balanced.calls new).2.2.2 id reused)

theorem Fresh.starts_of_move (fresh : Fresh c) (balanced : Balanced c) (move : c.Move serde cfg a c') :
    Allocated (· < c'.ids.currentId) c'.newStarts c'.UsesStart := by
  have allocated := fresh.starts
  have later : ∀ {n : UInt64}, c.ids.currentId.toNat + 1 < 2 ^ 64 → n < c.ids.currentId →
      n < c.advance.ids.currentId :=
    fun small below => UInt64.lt_trans below (lt_advance small)
  cases move with
  | outside same silent kind le =>
      refine allocated.mono (UInt64.lt_of_lt_of_le · le) (.refl _) ?_
      rintro start ⟨range, key, first⟩
      exact ⟨range, by rwa [← same], first⟩
  | @posted _ msg drawn plain kind le =>
      have same := newStarts_queue_perm { c with ids := drawn } msg
      rw [plain.nameless.2.2.1] at same
      exact allocated.mono (UInt64.lt_of_lt_of_le · le) same id
  | @registered _ msg own => exact allocated.mono id (newStarts_queue_perm _ (.registerNotification msg)) id
  | @requested _ msg small drawn own wellFormed =>
      exact allocated.mono (later small) (newStarts_queue_perm _ (.request msg)) id
  | @batched _ msg small drawn own wellFormed =>
      have next := allocated.draw (UInt64.lt_irrefl c.ids.currentId) (later small) (lt_advance small)
      have same := newStarts_queue_perm (c.advance.issue (.batch msg.ids)) (.batch msg)
      rw [FrontToBack.newStart, drawn] at same
      exact next.mono id same id
  | subscribing small drawn => exact allocated.mono (later small) (.refl _) id
  | @subscribed _ msg call position small found first drawn own wellFormed =>
      exact allocated.mono (later small) (newStarts_queue_perm _ (.subscribe msg)) id
  | @sent msg position found =>
      have taken := (perm_eraseIdx found).filterMap FrontToBack.newStart
      rw [filterMap_cons_toList] at taken
      refine allocated.use taken ?_
      rintro start ⟨range, key, rfl⟩
      rcases (Backend.apply_step cfg c.backend (.front msg)).batches_keys key with before | ⟨_, ⟨⟩, rfl⟩
      · exact .inl ⟨range, before, rfl⟩
      · exact .inr (List.mem_singleton.mpr rfl)
  | @received raw op receives =>
      have step := Backend.apply_step cfg c.backend op
      have silent : (c.backend.apply cfg op).1.messages.filterMap FrontToBack.newStart = [] :=
        List.filterMap_eq_nil_iff.mpr fun msg member => (step.messages_reused balanced.calls member).2.1
      refine allocated.mono id (.of_eq ?_) ?_
      · simp only [newStarts, List.filterMap_append, silent, List.append_nil]
      · rintro start ⟨range, key, rfl⟩
        rcases step.batches_keys key with before | ⟨msg, front, -⟩
        · exact ⟨range, before, rfl⟩
        · exact absurd front (receives.back _)

theorem Fresh.oneshots_of_move (fresh : Fresh c) (balanced : Balanced c) (move : c.Move serde cfg a c') :
    Allocated (· < c'.nextOneshot) c'.newOneshots c'.backend.UsesOneshot := by
  have allocated := fresh.oneshots
  -- A call of the public interface creates one oneshot.
  have created : ∀ {d : Client} {msg : FrontToBack}, d.newOneshots = c.newOneshots →
      msg.newOneshot = some c.nextOneshot →
      Allocated (· < c.nextOneshot + 1) (d.queue msg).newOneshots c.backend.UsesOneshot := by
    intro d msg before own
    have next := allocated.draw (Nat.lt_irrefl c.nextOneshot) Nat.lt_succ_of_lt (Nat.lt_succ_self _)
    have same := newOneshots_queue_perm d msg
    rw [own, before] at same
    exact next.mono id same id
  cases move with
  | outside same silent kind le =>
      refine allocated.mono id (.refl _) ?_
      rintro oneshot (⟨registration, held⟩ | used)
      · exact .inl ⟨registration, same ▸ held⟩
      · rw [Channels.answered, silent] at used
        exact .inr used
  | @posted _ msg drawn plain kind le =>
      have same := newOneshots_queue_perm { c with ids := drawn } msg
      rw [plain.nameless.2.2.2] at same
      exact allocated.mono id same id
  | @registered _ msg own => exact created rfl (congrArg some own)
  | @requested _ msg small drawn own wellFormed => exact created rfl (FrontToBack.request_names own).2.2
  | @batched _ msg small drawn own wellFormed => exact created rfl (congrArg some own)
  | subscribing small drawn => exact allocated
  | @subscribed _ msg call position small found first drawn own wellFormed =>
      exact created rfl (congrArg some own)
  | @sent msg position found =>
      have taken := (perm_eraseIdx found).filterMap FrontToBack.newOneshot
      rw [filterMap_cons_toList] at taken
      refine allocated.use taken fun uses => ?_
      rcases (Backend.apply_step cfg c.backend (.front msg)).flow.usesOneshot uses with before | ⟨_, ⟨⟩, own⟩
      · exact .inl before
      · exact .inr (by rw [own]; exact List.mem_singleton.mpr rfl)
  | @received raw op receives =>
      have step := Backend.apply_step cfg c.backend op
      have silent : (c.backend.apply cfg op).1.messages.filterMap FrontToBack.newOneshot = [] :=
        List.filterMap_eq_nil_iff.mpr fun msg member => (step.messages_reused balanced.calls member).2.2.1
      refine allocated.mono id (.of_eq ?_) fun uses => ?_
      · simp only [newOneshots, List.filterMap_append, silent, List.append_nil]
      · rcases step.flow.usesOneshot uses with before | ⟨msg, front, -⟩
        · exact before
        · exact absurd front (receives.back msg)

theorem Fresh.of_move (fresh : Fresh c) (balanced : Balanced c) (move : c.Move serde cfg a c') :
    Fresh c' where
  ids := fresh.ids_of_move balanced move
  starts := fresh.starts_of_move balanced move
  oneshots := fresh.oneshots_of_move balanced move

theorem fresh {idKind : IdKind} {ts : List (Transition Client ClientAction)}
    (run : Run (Client.step serde cfg) (.new idKind) ts c) (conformant : ∀ t ∈ ts, Conformant serde t) :
    Balanced c ∧ Fresh c :=
  run.invariant (fun c => Balanced c ∧ Fresh c) (Conformant serde) conformant ⟨.new idKind, .new idKind⟩
    fun _ conforms before taken =>
      have move := before.1.move conforms taken
      ⟨before.1.of_move move, before.2.of_move before.1 move⟩

/-! ## A message that is taken finds its names free -/

namespace Fresh

variable (fresh : Fresh c)

include fresh

theorem batch_free {msg : BatchMessage} (queued : .batch msg ∈ c.inFlight) :
    c.backend.manager.batches.lookup msg.ids = none := by
  have waits : msg.ids.start ∈ c.newStarts := List.mem_filterMap.mpr ⟨_, queued, rfl⟩
  by_contra taken
  exact fresh.starts.disjoint waits ⟨msg.ids, taken, rfl⟩

theorem id_free {msg : FrontToBack} (queued : msg ∈ c.inFlight) {id : Id} (new : id ∈ msg.newIds) :
    c.backend.manager.requests.lookup id = none := by
  have waits : id ∈ c.newIds := List.mem_append_left _ (List.mem_flatMap.mpr ⟨msg, queued, new⟩)
  by_contra taken
  exact fresh.ids.disjoint waits (.inl taken)

/-- The two ids of a subscribe call are different. -/
theorem subscribe_distinct {msg : SubscriptionMessage} (queued : .subscribe msg ∈ c.inFlight) :
    msg.subscribeId ≠ msg.unsubscribeId := by
  have pair := (List.nodup_flatMap.mp (List.nodup_append.mp fresh.ids.nodup).1).1 _ queued
  exact fun same => (List.nodup_cons.mp pair).1 (List.mem_singleton.mpr same)

end Fresh

end Client

end Jsonrpsee
