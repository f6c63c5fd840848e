import Jsonrpsee.Client.Freshness

/-! # Every caller gets its own answer

The oneshots a client creates are handed over to the background tasks with the
messages that carry them, so a run of the client routes its answers like a run
of the background tasks. Against a conformant server nothing is refused and no
sender is lost: a caller waits in the queue, on the wire, or has its answer, and
the answer is the response, or the array of responses, to its own ids.
-/

namespace Jsonrpsee

/-- What a section answers the caller of a registration with. -/
inductive Serves (idKind : IdKind) : Op → Registration → Reply → Prop where
  | call : Serves idKind (.single rp) (.call rp.id) (.call (.ok rp))
  | subscription : Serves idKind (.single rp) (.subscription rp.id) (.subscription r)
  | notification :
      Serves idKind (.front (.registerNotification msg)) (.notification msg.method) (.notification r)
  | batch (same : responses.Perm rps)
      (order : responses.map Response.id = range.numbers.map idKind.intoId) :
      Serves idKind (.batch rps range) (.batch range) (.batch (.ok responses))

namespace Op

/-- The names that a message registers are free. -/
def Free (b : Backend) : Op → Prop
  | .front (.batch msg) => b.manager.batches.lookup msg.ids = none
  | .front (.request msg) => msg.sendBack ≠ none → b.manager.requests.lookup msg.id = none
  | .front (.subscribe msg) =>
      b.manager.requests.lookup msg.subscribeId = none ∧
        b.manager.requests.lookup msg.unsubscribeId = none ∧ msg.subscribeId ≠ msg.unsubscribeId
  | _ => True

/-- The section takes over the sender in its message. -/
def Brings (op : Op) (oneshot : OneshotId) (registration : Registration) : Prop :=
  ∃ msg, op = .front msg ∧ msg.registration = some (oneshot, registration)

theorem brings_front {msg : FrontToBack} {oneshot : OneshotId} {registration : Registration} :
    (Op.front msg).Brings oneshot registration ↔ msg.registration = some (oneshot, registration) := by
  constructor
  · rintro ⟨_, ⟨⟩, sender⟩
    exact sender
  · exact fun sender => ⟨msg, rfl, sender⟩

end Op

/-- The sender that an entry holds. -/
@[simp, grind =]
def Kind.sender : Kind → Option OneshotId
  | .pendingMethodCall sendBack => sendBack
  | .pendingSubscription _ sendBack _ => some sendBack
  | .subscription _ _ _ => none

@[grind =]
theorem Channels.send_answered (ch : Channels) (oneshot : OneshotId) (reply : Reply) :
    (ch.send oneshot reply).answered = ch.answered ++ [oneshot] := by
  rw [answered, send_answers, List.map_append]
  rfl

namespace Backend

variable {cfg : Config} {b after : Backend} {op : Op} {out : Output} {calls : List Id} {idKind : IdKind}

/-- An expected section answers at most one caller, and that one with its own
    answer. -/
theorem Step.serves (step : b.Step cfg op out after)
    (expected : op.Expected idKind calls b.manager.batches) (free : op.Free b) :
    after.channels.answers = b.channels.answers ∨
      ∃ oneshot registration reply,
        (b.manager.Holds oneshot registration ∨ op.Brings oneshot registration) ∧
        Serves idKind op registration reply ∧ after.channels.answers =
          b.channels.answers ++ [{ oneshot, reply, delivered := b.channels.isOpen oneshot }] := by
  cases step with
  | register | registerOccupied =>
      exact .inr ⟨_, _, _, .inr ⟨_, rfl, rfl⟩, .notification, Channels.send_answers _ _ _⟩
  | answerCall pending => exact .inr ⟨_, _, _, .inl (.call pending), .call, Channels.send_answers _ _ _⟩
  | subscribeRefused pending | subscribeUnreadable pending | subscribeDuplicate pending
  | activate pending | abandon pending =>
      exact .inr ⟨_, _, _, .inl (.subscription pending), .subscription, Channels.send_answers _ _ _⟩
  | batchAnswered pending stored =>
      obtain ⟨sorted, found, same, order⟩ := storeResponses_answered expected.2
      obtain rfl := Except.ok.inj (stored.symm.trans found)
      exact .inr ⟨_, _, _, .inl (.batch pending), .batch same order, Channels.send_answers _ _ _⟩
  | batchOccupied taken =>
      rw [free] at taken
      cases taken
  | requestOccupied taken waiting =>
      rw [free (by rw [waiting]; exact Option.some_ne_none _)] at taken
      cases taken
  | subscribeOccupied refused => exact absurd free refused
  | notified | notifyLost | delivered | deliveryLost => exact .inl (Channels.trySend_answers _ _ _)
  | _ => exact .inl rfl

/-- A sender is kept when its entry is, and is used otherwise. -/
theorem holds_or_answered {oneshot : OneshotId} {registration : Registration}
    (held : b.manager.Holds oneshot registration)
    (requests : ∀ r kind, b.manager.requests.lookup r = some kind → kind.sender = some oneshot →
      after.manager.requests.lookup r = some kind ∨ oneshot ∈ after.channels.answered)
    (batches : ∀ range, b.manager.batches.lookup range = some { sendBack := oneshot } →
      after.manager.batches.lookup range = some { sendBack := oneshot } ∨
        oneshot ∈ after.channels.answered) :
    after.manager.Holds oneshot registration ∨ oneshot ∈ after.channels.answered := by
  cases held with
  | call pending => exact (requests _ _ pending rfl).imp_left .call
  | subscription pending => exact (requests _ _ pending rfl).imp_left .subscription
  | batch pending => exact (batches _ pending).imp_left .batch

/-- An expected section loses no sender. -/
theorem Step.keeps_sender (step : b.Step cfg op out after)
    (expected : op.Expected idKind calls b.manager.batches) {oneshot : OneshotId}
    {registration : Registration} (held : b.manager.Holds oneshot registration) :
    after.manager.Holds oneshot registration ∨ oneshot ∈ after.channels.answered := by
  cases step with
  | batchUnstorable pending failed =>
      obtain ⟨sorted, stored, -⟩ := storeResponses_answered expected.2
      cases failed.symm.trans stored
  | batch | request | subscribe | unsubscribe | answerCall | release | subscribeRefused
  | subscribeUnreadable | subscribeDuplicate | activate | abandon | batchAnswered | closed =>
      exact holds_or_answered held (by grind) (by grind)
  | _ => exact holds_or_answered held (fun _ _ entry _ => .inl entry) (fun _ entry => .inl entry)

/-- The sender in a message is put into the tables or used at once. -/
theorem Step.takes_sender {msg : FrontToBack} (step : b.Step cfg (.front msg) out after)
    {oneshot : OneshotId} {registration : Registration}
    (sender : msg.registration = some (oneshot, registration)) :
    after.manager.Holds oneshot registration ∨ oneshot ∈ after.channels.answered := by
  cases step with
  | batch =>
      cases sender
      exact .inl (.batch (Finmap.lookup_insert _))
  | @request msg free =>
      obtain ⟨raw, id, sendBack⟩ := msg
      cases sendBack with
      | none => cases sender
      | some waiting =>
          cases sender
          exact .inl (.call (Finmap.lookup_insert _))
  | subscribe free unsubFree distinct =>
      cases sender
      exact .inl (.subscription ((Finmap.lookup_insert_of_ne _ distinct).trans (Finmap.lookup_insert _)))
  | requestOccupied taken waiting =>
      rw [FrontToBack.registration, waiting] at sender
      cases sender
      exact .inr (by grind)
  | requestDenied taken silent =>
      rw [FrontToBack.registration, silent] at sender
      cases sender
  | batchOccupied | subscribeOccupied | register | registerOccupied =>
      cases sender
      exact .inr (by grind)
  | notification | unsubscribe | closedEarlier | unregister => cases sender

/-- An answer is never taken back. -/
theorem Flow.answered_mono (moved : b.Flow op after) {oneshot : OneshotId}
    (used : oneshot ∈ b.channels.answered) : oneshot ∈ after.channels.answered := by
  rcases moved.answers with silent | ⟨_, _, -, grown⟩
  · rwa [Channels.answered, silent]
  · rw [Channels.answered, grown, List.map_append]
    exact List.mem_append_left _ used

end Backend

namespace Client

variable {serde : SerdeJson} {cfg : Config} {c c' : Client} {a : ClientAction}

/-- The senders that have been handed over route their answers, and every
    oneshot is recorded, waiting or answered. -/
structure Tracked (c : Client) (handed : Table OneshotId Registration) : Prop where
  routed : Routed c.backend handed
  recorded : ∀ {oneshot registration}, handed.lookup oneshot = some registration →
    c.issued.lookup oneshot = some registration
  unsent : ∀ {oneshot}, oneshot ∈ c.newOneshots → handed.lookup oneshot = none
  queued : ∀ {msg oneshot registration}, msg ∈ c.inFlight → msg.registration = some (oneshot, registration) →
    c.issued.lookup oneshot = some registration
  created : ∀ {oneshot}, c.issued.lookup oneshot ≠ none → oneshot < c.nextOneshot
  complete : ∀ {oneshot registration}, c.issued.lookup oneshot = some registration →
    oneshot ∈ c.newOneshots ∨ c.backend.manager.Holds oneshot registration ∨
      oneshot ∈ c.backend.channels.answered

theorem mem_newOneshots {oneshot : OneshotId} :
    oneshot ∈ c.newOneshots ↔
      ∃ msg ∈ c.inFlight, ∃ registration, msg.registration = some (oneshot, registration) := by
  simp only [newOneshots, List.mem_filterMap, FrontToBack.newOneshot, Option.map_eq_some_iff, Prod.exists,
    exists_and_right, exists_eq_right]

namespace Tracked

variable {handed : Table OneshotId Registration}

theorem new (idKind : IdKind) : Tracked (.new idKind) ∅ where
  routed := .new
  recorded found := by cases found
  unsent member := by cases member
  queued member := by cases member
  created found := absurd rfl found
  complete found := by cases found

/-- A call creates a oneshot and queues the message that carries it. -/
theorem create (tracked : Tracked c handed) {c' : Client} {msg : FrontToBack} {registration : Registration}
    (sender : msg.registration = some (c.nextOneshot, registration)) (backend : c'.backend = c.backend)
    (issued : c'.issued = c.issued.insert c.nextOneshot registration)
    (next : c'.nextOneshot = c.nextOneshot + 1) (inFlight : c'.inFlight = c.inFlight ++ [msg]) :
    Tracked c' handed := by
  have unissued : c.issued.lookup c.nextOneshot = none := by
    by_contra known
    exact Nat.lt_irrefl _ (tracked.created known)
  have grows : ∀ {oneshot used}, c.issued.lookup oneshot = some used →
      c'.issued.lookup oneshot = some used := by
    intro oneshot used known
    have other : oneshot ≠ c.nextOneshot := by
      rintro rfl
      rw [unissued] at known
      cases known
    rw [issued, Finmap.lookup_insert_of_ne _ other, known]
  have names : ∀ {oneshot}, oneshot ∈ c'.newOneshots ↔ oneshot ∈ c.newOneshots ∨ oneshot = c.nextOneshot := by
    intro oneshot
    rw [newOneshots, inFlight, List.filterMap_append, filterMap_toList, FrontToBack.newOneshot, sender,
      List.mem_append]
    exact or_congr_right List.mem_singleton
  constructor
  · rw [backend]
    exact tracked.routed
  · exact fun found => grows (tracked.recorded found)
  · intro oneshot member
    rcases names.mp member with before | rfl
    · exact tracked.unsent before
    · by_contra known
      obtain ⟨used, found⟩ := Option.ne_none_iff_exists'.mp known
      rw [tracked.recorded found] at unissued
      cases unissued
  · intro other oneshot used member own
    rw [inFlight] at member
    rcases List.mem_append.mp member with before | last
    · exact grows (tracked.queued before own)
    · obtain rfl := List.mem_singleton.mp last
      cases sender.symm.trans own
      rw [issued, Finmap.lookup_insert]
  · intro oneshot known
    rw [next]
    by_cases here : oneshot = c.nextOneshot
    · exact here ▸ Nat.lt_succ_self _
    · rw [issued, Finmap.lookup_insert_of_ne _ here] at known
      exact Nat.lt_succ_of_lt (tracked.created known)
  · intro oneshot used known
    rw [names, backend]
    by_cases here : oneshot = c.nextOneshot
    · exact .inl (.inr here)
    · rw [issued, Finmap.lookup_insert_of_ne _ here] at known
      exact (tracked.complete known).imp_left .inl

/-- What creates no oneshot and runs no section. -/
theorem keep (tracked : Tracked c handed) {c' : Client} (manager : c'.backend.manager = c.backend.manager)
    (silent : c'.backend.channels.answers = c.backend.channels.answers) (issued : c'.issued = c.issued)
    (next : c'.nextOneshot = c.nextOneshot)
    (queue : ∀ msg, msg.registration ≠ none → (msg ∈ c'.inFlight ↔ msg ∈ c.inFlight)) :
    Tracked c' handed := by
  have names : ∀ {oneshot}, oneshot ∈ c'.newOneshots ↔ oneshot ∈ c.newOneshots := by
    intro oneshot
    rw [mem_newOneshots, mem_newOneshots]
    constructor
    · rintro ⟨msg, member, used, own⟩
      exact ⟨msg, (queue msg (by simp [own])).mp member, used, own⟩
    · rintro ⟨msg, member, used, own⟩
      exact ⟨msg, (queue msg (by simp [own])).mpr member, used, own⟩
  constructor
  · exact tracked.routed.congr manager silent
  · rw [issued]
    exact tracked.recorded
  · exact fun member => tracked.unsent (names.mp member)
  · intro msg oneshot used member own
    rw [issued]
    exact tracked.queued ((queue msg (by simp [own])).mp member) own
  · rw [issued, next]
    exact tracked.created
  · intro oneshot used known
    rw [names, manager, Channels.answered, silent]
    rw [issued] at known
    exact tracked.complete known

/-- The caller of a message that is taken from the queue does not lose its
    sender, nor does any other. -/
theorem complete_of_sent (tracked : Tracked c handed) (balanced : Balanced c) {position : Nat}
    {msg : FrontToBack} (found : c.inFlight[position]? = some msg) {oneshot : OneshotId}
    {registration : Registration} (known : c.issued.lookup oneshot = some registration) :
    oneshot ∈ (c.inFlight.eraseIdx position).filterMap FrontToBack.newOneshot ∨
      (c.backend.apply cfg (.front msg)).2.manager.Holds oneshot registration ∨
        oneshot ∈ (c.backend.apply cfg (.front msg)).2.channels.answered := by
  have step := Backend.apply_step cfg c.backend (.front msg)
  have member := List.mem_of_getElem? found
  have expected : (Op.front msg).Expected c.ids.idKind c.calls c.backend.manager.batches :=
    balanced.wellFormed msg member
  have names := (perm_eraseIdx found).filterMap FrontToBack.newOneshot
  rw [filterMap_cons_toList] at names
  rcases tracked.complete known with waits | held | used
  · rcases List.mem_append.mp (names.mem_iff.mp waits) with own | other
    · obtain ⟨⟨_, registration'⟩, sender, rfl⟩ := Option.map_eq_some_iff.mp (Option.mem_toList.mp own)
      obtain rfl := Option.some.inj (known.symm.trans (tracked.queued member sender))
      exact .inr (step.takes_sender sender)
    · exact .inl other
  · exact .inr (step.keeps_sender expected held)
  · exact .inr (.inr (step.flow.answered_mono used))

/-- A message is taken from the queue and its sender handed over. -/
theorem sent (tracked : Tracked c handed) (balanced : Balanced c) (fresh : Fresh c) {position : Nat}
    {msg : FrontToBack} (found : c.inFlight[position]? = some msg) {c' : Client}
    (backend : c'.backend = (c.backend.apply cfg (.front msg)).2) (issued : c'.issued = c.issued)
    (next : c'.nextOneshot = c.nextOneshot) (inFlight : c'.inFlight = c.inFlight.eraseIdx position) :
    ∃ handed', Tracked c' handed' := by
  have step := Backend.apply_step cfg c.backend (.front msg)
  have member := List.mem_of_getElem? found
  have names := (perm_eraseIdx found).filterMap FrontToBack.newOneshot
  rw [filterMap_cons_toList, ← inFlight] at names
  have left : ∀ {oneshot}, oneshot ∈ c'.newOneshots → oneshot ∈ c.newOneshots :=
    fun waits => names.mem_iff.mpr (List.mem_append_right _ waits)
  have later : ∀ {other oneshot registration}, other ∈ c'.inFlight →
      other.registration = some (oneshot, registration) → c'.issued.lookup oneshot = some registration := by
    intro other oneshot registration waits own
    rw [inFlight] at waits
    rw [issued]
    exact tracked.queued (List.mem_of_mem_eraseIdx waits) own
  have complete : ∀ {oneshot registration}, c'.issued.lookup oneshot = some registration →
      oneshot ∈ c'.newOneshots ∨ c'.backend.manager.Holds oneshot registration ∨
        oneshot ∈ c'.backend.channels.answered := by
    intro oneshot registration known
    rw [issued] at known
    rw [newOneshots, backend, inFlight]
    exact tracked.complete_of_sent balanced found known
  cases sender : msg.registration with
  | none =>
      have same : (Op.front msg).handOver handed = some handed := by
        simp only [Op.handOver, FrontToBack.handOver, sender]
      refine ⟨handed, ?_, ?_, fun waits => tracked.unsent (left waits), later, ?_, complete⟩
      · rw [backend]
        exact tracked.routed.flow same step.flow
      · rw [issued]
        exact tracked.recorded
      · rw [issued, next]
        exact tracked.created
  | some entry =>
      obtain ⟨oneshot, registration⟩ := entry
      have own : msg.newOneshot = some oneshot := by rw [FrontToBack.newOneshot, sender, Option.map_some]
      have waits : oneshot ∈ c.newOneshots := List.mem_filterMap.mpr ⟨msg, member, own⟩
      have free := tracked.unsent waits
      have grown : (Op.front msg).handOver handed = some (handed.insert oneshot registration) := by
        simp only [Op.handOver, FrontToBack.handOver, sender, free]
      refine ⟨handed.insert oneshot registration, ?_, ?_, ?_, later, ?_, complete⟩
      · rw [backend]
        exact tracked.routed.flow grown step.flow
      · intro other used known
        rw [issued]
        by_cases here : other = oneshot
        · subst here
          rw [Finmap.lookup_insert] at known
          rw [tracked.queued member sender, known]
        · rw [Finmap.lookup_insert_of_ne _ here] at known
          exact tracked.recorded known
      · intro other still
        -- The sender waited once, so it does not wait any more.
        have here : other ≠ oneshot := by
          rintro rfl
          have nodup := names.nodup_iff.mp fresh.oneshots.nodup
          rw [own] at nodup
          exact (List.nodup_cons.mp nodup).1 still
        rw [Finmap.lookup_insert_of_ne _ here]
        exact tracked.unsent (left still)
      · rw [issued, next]
        exact tracked.created

theorem received (tracked : Tracked c handed) (balanced : Balanced c) {op : Op}
    (back : ∀ msg, op ≠ .front msg)
    (expected : op.Expected c.ids.idKind c.calls c.backend.manager.batches) {c' : Client}
    (backend : c'.backend = (c.backend.apply cfg op).2) (issued : c'.issued = c.issued)
    (next : c'.nextOneshot = c.nextOneshot)
    (inFlight : c'.inFlight = c.inFlight ++ (c.backend.apply cfg op).1.messages) : Tracked c' handed := by
  have step := Backend.apply_step cfg c.backend op
  have silent : (c.backend.apply cfg op).1.messages.filterMap FrontToBack.newOneshot = [] :=
    List.filterMap_eq_nil_iff.mpr fun msg member => (step.messages_reused balanced.calls member).2.2.1
  have names : c'.newOneshots = c.newOneshots := by
    rw [newOneshots, inFlight, List.filterMap_append, silent, List.append_nil]
    rfl
  have same : op.handOver handed = some handed := by
    cases op with
    | front msg => exact absurd rfl (back msg)
    | single | batch | notify | close | plain => rfl
  constructor
  · rw [backend]
    exact tracked.routed.flow same step.flow
  · rw [issued]
    exact tracked.recorded
  · rw [names]
    exact tracked.unsent
  · intro msg oneshot registration member own
    rw [inFlight] at member
    rw [issued]
    rcases List.mem_append.mp member with before | new
    · exact tracked.queued before own
    · have nothing := (step.messages_reused balanced.calls new).2.2.1
      rw [FrontToBack.newOneshot, own] at nothing
      cases nothing
  · rw [issued, next]
    exact tracked.created
  · intro oneshot registration known
    rw [issued] at known
    rw [names, backend]
    rcases tracked.complete known with waits | held | used
    · exact .inl waits
    · exact .inr (step.keeps_sender expected held)
    · exact .inr (.inr (step.flow.answered_mono used))

theorem of_move (tracked : Tracked c handed) (balanced : Balanced c) (fresh : Fresh c)
    (move : c.Move serde cfg a c') : ∃ handed', Tracked c' handed' := by
  cases move with
  | outside same silent => exact ⟨handed, tracked.keep same silent rfl rfl fun _ _ => .rfl⟩
  | @posted _ msg drawn plain =>
      refine ⟨handed, tracked.keep rfl rfl rfl rfl fun other sends => ?_⟩
      have nothing : msg.registration = none := Option.map_eq_none_iff.mp plain.nameless.2.2.2
      refine ⟨fun member => (List.mem_append.mp member).resolve_right fun last => sends ?_,
        List.mem_append_left _⟩
      rw [List.mem_singleton.mp last, nothing]
  | subscribing => exact ⟨handed, tracked.keep rfl rfl rfl rfl fun _ _ => .rfl⟩
  | @registered _ msg own =>
      have sender : (FrontToBack.registerNotification msg).registration =
          some (c.nextOneshot, .notification msg.method) := by rw [FrontToBack.registration, own]
      exact ⟨handed, tracked.create sender rfl rfl rfl rfl⟩
  | @requested _ msg small drawn own =>
      have sender : (FrontToBack.request msg).registration = some (c.nextOneshot, .call msg.id) := by
        rw [FrontToBack.registration, own, Option.map_some]
      exact ⟨handed, tracked.create sender rfl rfl rfl rfl⟩
  | @batched _ msg small drawn own =>
      have sender : (FrontToBack.batch msg).registration = some (c.nextOneshot, .batch msg.ids) := by
        rw [FrontToBack.registration, own]
      exact ⟨handed, tracked.create sender rfl rfl rfl rfl⟩
  | @subscribed _ msg call position small found first drawn own =>
      have sender : (FrontToBack.subscribe msg).registration =
          some (c.nextOneshot, .subscription msg.subscribeId) := by rw [FrontToBack.registration, own]
      exact ⟨handed, tracked.create sender rfl rfl rfl rfl⟩
  | sent found => exact tracked.sent balanced fresh found rfl rfl rfl rfl
  | received receives =>
      exact ⟨handed, tracked.received balanced receives.back receives.expected rfl rfl rfl rfl⟩

end Tracked

/-! ## Runs -/

/-- All that is known of a client whose server conforms. -/
structure Sound (idKind : IdKind) (c : Client) : Prop where
  balanced : Balanced c
  fresh : Fresh c
  tracked : ∃ handed, Tracked c handed
  kind : c.ids.idKind = idKind

variable {idKind : IdKind}

theorem Move.kind (move : c.Move serde cfg a c') : c'.ids.idKind = c.ids.idKind := by
  cases move with
  | outside _ _ kind => exact kind
  | posted _ kind => exact kind
  | _ => rfl

theorem Sound.new : Sound idKind (.new idKind) :=
  ⟨.new idKind, .new idKind, ⟨_, .new idKind⟩, rfl⟩

theorem Sound.of_move (sound : Sound idKind c) (move : c.Move serde cfg a c') : Sound idKind c' := by
  obtain ⟨balanced, fresh, ⟨handed, tracked⟩, kind⟩ := sound
  exact ⟨balanced.of_move move, fresh.of_move balanced move, tracked.of_move balanced fresh move,
    move.kind.trans kind⟩

/-- What a oneshot was created for never changes. -/
theorem Sound.issued_mono (sound : Sound idKind c) (move : c.Move serde cfg a c') {oneshot : OneshotId}
    {registration : Registration} (known : c.issued.lookup oneshot = some registration) :
    c'.issued.lookup oneshot = some registration := by
  obtain ⟨handed, tracked⟩ := sound.tracked
  have earlier : oneshot < c.nextOneshot := tracked.created (by rw [known]; exact Option.some_ne_none _)
  have created : ∀ {used}, (c.issued.insert c.nextOneshot used).lookup oneshot = some registration :=
    (Finmap.lookup_insert_of_ne _ (Nat.ne_of_lt earlier)).trans known
  cases move with
  | registered | requested | batched | subscribed => exact created
  | outside | posted | subscribing | sent | received => exact known

/-- A message that is taken from the queue finds its names free. -/
theorem Fresh.free (fresh : Fresh c) {msg : FrontToBack} (queued : msg ∈ c.inFlight) :
    (Op.front msg).Free c.backend := by
  cases msg with
  | batch msg => exact fresh.batch_free queued
  | request msg =>
      intro waiting
      obtain ⟨oneshot, waiting⟩ := Option.ne_none_iff_exists'.mp waiting
      refine fresh.id_free queued ?_
      rw [(FrontToBack.request_names waiting).1]
      exact List.mem_cons_self
  | subscribe msg =>
      exact ⟨fresh.id_free queued List.mem_cons_self,
        fresh.id_free queued (List.mem_cons_of_mem _ List.mem_cons_self), fresh.subscribe_distinct queued⟩
  | notification | registerNotification | unregisterNotification | subscriptionClosed => trivial

/-- The section of a step that answers a caller. -/
structure Answering (serde : SerdeJson) (idKind : IdKind) (c : Client) (a : ClientAction) (answer : Answer)
    (registration : Registration) (op : Op) : Prop where
  serves : Serves idKind op registration answer.reply
  own : c.issued.lookup answer.oneshot = some registration
  /-- The caller gets the answer unless it has gone away. -/
  delivered : answer.delivered = c.backend.channels.isOpen answer.oneshot
  source : (∃ msg, op = .front msg) ∨ ∃ raw, a = .receive raw ∧ op.Carried serde raw

/-- A batch is answered for a received array, with the responses in it. -/
theorem Answering.batch {answer : Answer} {range : Range} {op : Op}
    (answering : Answering serde idKind c a answer (.batch range) op) :
    ∃ raw rps responses, a = .receive raw ∧ serde.responses raw = some rps ∧
      answer.reply = .batch (.ok responses) ∧
      answer.delivered = c.backend.channels.isOpen answer.oneshot ∧ responses.Perm rps ∧
      responses.map Response.id = range.numbers.map idKind.intoId := by
  obtain ⟨serves, -, delivered, source⟩ := answering
  generalize answer.reply = reply at serves ⊢
  cases serves with
  | batch same order =>
      obtain ⟨msg, front⟩ | ⟨raw, receive, carried⟩ := source
      · cases front
      · exact ⟨raw, _, _, receive, carried, rfl, delivered, same, order⟩

/-- A call is answered for a received response, with that response. -/
theorem Answering.call {answer : Answer} {id : Id} {op : Op}
    (answering : Answering serde idKind c a answer (.call id) op) :
    ∃ raw rp, a = .receive raw ∧ serde.single raw = some rp ∧ answer.reply = .call (.ok rp) ∧
      answer.delivered = c.backend.channels.isOpen answer.oneshot ∧ rp.id = id := by
  obtain ⟨serves, -, delivered, source⟩ := answering
  generalize answer.reply = reply at serves ⊢
  cases serves with
  | call =>
      obtain ⟨msg, front⟩ | ⟨raw, receive, carried⟩ := source
      · cases front
      · exact ⟨raw, _, receive, carried, rfl, delivered, rfl⟩

/-- A step answers at most one caller, and that one with its own answer. -/
theorem Sound.answers (sound : Sound idKind c) (move : c.Move serde cfg a c') :
    c'.backend.channels.answers = c.backend.channels.answers ∨
      ∃ answer registration op, c'.backend.channels.answers = c.backend.channels.answers ++ [answer] ∧
        Answering serde idKind c a answer registration op := by
  obtain ⟨balanced, fresh, ⟨handed, tracked⟩, kind⟩ := sound
  cases move with
  | outside _ silent => exact .inl silent
  | posted | registered | requested | batched | subscribing | subscribed => exact .inl rfl
  | @sent msg position found =>
      have queued := List.mem_of_getElem? found
      have expected : (Op.front msg).Expected c.ids.idKind c.calls c.backend.manager.batches :=
        balanced.wellFormed msg queued
      rcases (Backend.apply_step cfg c.backend (.front msg)).serves expected (fresh.free queued) with
        silent | ⟨oneshot, registration, reply, sender, serves, grown⟩
      · exact .inl silent
      · refine .inr ⟨_, registration, .front msg, grown, kind ▸ serves, ?_, rfl, .inl ⟨msg, rfl⟩⟩
        rcases sender with held | brings
        · exact tracked.recorded (tracked.routed.held held).1
        · exact tracked.queued queued (Op.brings_front.mp brings)
  | @received raw op receives =>
      have free : op.Free c.backend := by
        cases op with
        | front msg => exact absurd rfl (receives.back msg)
        | single | batch | notify | close | plain => trivial
      rcases (Backend.apply_step cfg c.backend op).serves receives.expected free with
        silent | ⟨oneshot, registration, reply, sender, serves, grown⟩
      · exact .inl silent
      · refine .inr ⟨_, registration, op, grown, kind ▸ serves, ?_, rfl, .inr ⟨raw, rfl, receives.carried⟩⟩
        rcases sender with held | ⟨msg, front, -⟩
        · exact tracked.recorded (tracked.routed.held held).1
        · exact absurd front (receives.back msg)

/-- The ids of a batch of `len` requests that starts at `start`. -/
def batchIdsFrom (idKind : IdKind) (start : UInt64) (len : Nat) : List Id :=
  (List.range len).map fun offset => idKind.intoId (UInt64.ofNat (start.toNat + offset))

theorem numbers_batch (idKind : IdKind) {start : UInt64} {len : Nat} (fits : start.toNat + len < 2 ^ 64) :
    (Range.ofLen start len).numbers.map idKind.intoId = batchIdsFrom idKind start len := by
  rw [Range.numbers_ofLen fits, List.map_map]
  rfl

theorem issued_of_batchRequest {batch : List (String × Option RawValue)} (nonempty : batch ≠ [])
    (fits : c.ids.currentId.toNat + batch.length < 2 ^ 64)
    (taken : c.step serde cfg (.batchRequest batch) = some c') :
    c'.issued.lookup c.nextOneshot = some (.batch (.ofLen c.ids.currentId batch.length)) := by
  simp only [step, nonempty, if_false] at taken
  obtain ⟨-, rfl⟩ := draw_eq_some taken
  simp only [generateBatchIdRange_intoId, fits, if_true]
  exact Finmap.lookup_insert _

theorem issued_of_request {method : String} {params : Option RawValue}
    (taken : c.step serde cfg (.request method params) = some c') :
    c'.issued.lookup c.nextOneshot = some (.call (c.ids.idKind.intoId c.ids.currentId)) := by
  simp only [step] at taken
  obtain ⟨-, rfl⟩ := draw_eq_some taken
  exact Finmap.lookup_insert _

section Runs

variable {ts : List (Transition Client ClientAction)}
  (run : Run (Client.step serde cfg) (.new idKind) ts c) (conformant : ∀ t ∈ ts, Conformant serde t)

include run conformant

theorem sound : Sound idKind c :=
  run.invariant (Sound idKind) (Conformant serde) conformant .new
    fun _ conforms before taken => before.of_move (before.balanced.move conforms taken)

/-- Every answer of a run was given in one of its steps, to its own caller. -/
theorem answer_source {answer : Answer} (given : answer ∈ c.backend.channels.answers) :
    ∃ t ∈ ts, ∃ registration op, Answering serde idKind t.before t.action answer registration op ∧
      c.issued.lookup answer.oneshot = some registration := by
  induction run with
  | nil => cases given
  | @snoc ts s a s' earlier taken ih =>
      have before := sound earlier fun t member => conformant t (List.mem_append_left _ member)
      have move := before.balanced.move (conformant _ (List.mem_append_right _ List.mem_cons_self)) taken
      have old : answer ∈ s.backend.channels.answers → ∃ t ∈ ts ++ [⟨s, a, s'⟩], ∃ registration op,
          Answering serde idKind t.before t.action answer registration op ∧
            s'.issued.lookup answer.oneshot = some registration := by
        intro given
        obtain ⟨t, member, registration, op, answering, own⟩ :=
          ih (fun t member => conformant t (List.mem_append_left _ member)) given
        exact ⟨t, List.mem_append_left _ member, registration, op, answering, before.issued_mono move own⟩
      rcases before.answers move with silent | ⟨last, registration, op, grown, answering⟩
      · rw [silent] at given
        exact old given
      · rw [grown, List.mem_append, List.mem_singleton] at given
        rcases given with given | rfl
        · exact old given
        · exact ⟨_, List.mem_append_right _ List.mem_cons_self, registration, op, answering,
            before.issued_mono move answering.own⟩

theorem answering_of_issued {answer : Answer} (given : answer ∈ c.backend.channels.answers)
    {registration : Registration} (issued : c.issued.lookup answer.oneshot = some registration) :
    ∃ t ∈ ts, ∃ op, Answering serde idKind t.before t.action answer registration op := by
  obtain ⟨t, member, registration', op, answering, known⟩ := answer_source run conformant given
  obtain rfl := Option.some.inj (known.symm.trans issued)
  exact ⟨t, member, op, answering⟩

/-- What a step creates a oneshot for is known to the end of the run. -/
theorem issued_of_step {t} (member : t ∈ ts) {oneshot : OneshotId} {registration : Registration}
    (created : t.after.issued.lookup oneshot = some registration) :
    c.issued.lookup oneshot = some registration := by
  obtain ⟨pre, post, rfl, earlier, taken, later⟩ := run.split member
  have before := sound earlier fun t member => conformant t (List.mem_append_left _ member)
  have after := before.of_move (before.balanced.move (conformant t member) taken)
  refine (later.invariant (fun c => Sound idKind c ∧ c.issued.lookup oneshot = some registration)
    (Conformant serde)
    (fun t member => conformant t (List.mem_append_right _ (List.mem_cons_of_mem _ member)))
    ⟨after, created⟩ ?_).2
  rintro t conforms ⟨sound, known⟩ taken
  have move := sound.balanced.move conforms taken
  exact ⟨sound.of_move move, sound.issued_mono move known⟩

/-- Concurrent batches and calls do not mix. A batch gets the responses of one
    received array, all of them, in the order of its ids; a call gets the
    response with its id; either still waits in the queue or on the wire when it
    has no answer; nobody is answered twice, and no batch is refused. -/
theorem batches_do_not_mix :
    (∀ t ∈ ts, ∀ batch, t.action = .batchRequest batch → batch ≠ [] →
      t.before.ids.currentId.toNat + batch.length < 2 ^ 64 →
      (t.before.nextOneshot ∈ c.newOneshots ∨
        batchIdsFrom idKind t.before.ids.currentId batch.length ∈ c.batches ∨
        t.before.nextOneshot ∈ c.backend.channels.answered) ∧
      ∀ answer ∈ c.backend.channels.answers, answer.oneshot = t.before.nextOneshot →
        ∃ t' ∈ ts, ∃ raw rps responses, t'.action = .receive raw ∧ serde.responses raw = some rps ∧
          answer.reply = .batch (.ok responses) ∧
          answer.delivered = t'.before.backend.channels.isOpen answer.oneshot ∧ responses.Perm rps ∧
          responses.map Response.id = batchIdsFrom idKind t.before.ids.currentId batch.length) ∧
    (∀ t ∈ ts, ∀ method params, t.action = .request method params →
      (t.before.nextOneshot ∈ c.newOneshots ∨ idKind.intoId t.before.ids.currentId ∈ c.calls ∨
        t.before.nextOneshot ∈ c.backend.channels.answered) ∧
      ∀ answer ∈ c.backend.channels.answers, answer.oneshot = t.before.nextOneshot →
        ∃ t' ∈ ts, ∃ raw rp, t'.action = .receive raw ∧ serde.single raw = some rp ∧
          answer.reply = .call (.ok rp) ∧
          answer.delivered = t'.before.backend.channels.isOpen answer.oneshot ∧
          rp.id = idKind.intoId t.before.ids.currentId) ∧
    (∀ t ∈ ts, ∀ position msg, t.action = .send position → t.before.inFlight[position]? = some (.batch msg) →
      (t.before.backend.handleFrontendMessages cfg (.batch msg)).1 = [msg.raw]) ∧
    c.backend.channels.answered.Nodup := by
  have final := sound run conformant
  obtain ⟨handed, tracked⟩ := final.tracked
  refine ⟨?_, ?_, ?_, tracked.routed.once⟩
  · intro t member batch action nonempty fits
    obtain ⟨pre, post, -, -, taken, -⟩ := run.split member
    rw [action] at taken
    have issued := issued_of_step run conformant member (issued_of_batchRequest nonempty fits taken)
    rw [← numbers_batch idKind fits]
    constructor
    · refine (tracked.complete issued).imp_right (Or.imp_left fun held => ?_)
      cases held with
      | batch pending =>
          exact final.balanced.batches.mem_iff.mpr
            ⟨_, by rw [pending]; exact Option.some_ne_none _, by rw [final.kind]⟩
    · intro answer given own
      obtain ⟨t', member', op, answering⟩ := answering_of_issued run conformant given (own ▸ issued)
      exact ⟨t', member', answering.batch⟩
  · intro t member method params action
    obtain ⟨pre, post, rfl, earlier, taken, -⟩ := run.split member
    have before := sound earlier fun t member => conformant t (List.mem_append_left _ member)
    rw [action] at taken
    have issued := issued_of_step run conformant member (issued_of_request taken)
    rw [before.kind] at issued
    constructor
    · refine (tracked.complete issued).imp_right (Or.imp_left fun held => ?_)
      cases held with
      | call pending => exact final.balanced.calls.waited pending
    · intro answer given own
      obtain ⟨t', member', op, answering⟩ := answering_of_issued run conformant given (own ▸ issued)
      exact ⟨t', member', answering.call⟩
  · intro t member position msg action found
    obtain ⟨pre, post, rfl, earlier, taken, -⟩ := run.split member
    have before := sound earlier fun t member => conformant t (List.mem_append_left _ member)
    have free := before.fresh.batch_free (List.mem_of_getElem? found)
    simp only [Backend.handleFrontendMessages, RequestManager.insertPendingBatch, free]

end Runs

/-- Two batches and a call whose ids overlap, answered in another order. -/
theorem batches_do_not_mix_overlapping :
    let first := Exchange.array [Exchange.success 1 5, Exchange.success 0 4]
    let second := Exchange.array [Exchange.success 1 8, Exchange.success 2 9]
    let serde := Exchange.reader [Exchange.success 2 7, first, second]
    let cfg : Config := { maxBufferCapacityPerSubscription := 1, overflowChecks := true }
    ∃ ts c, Run (Client.step serde cfg) (.new .number) ts c ∧ (∀ t ∈ ts, Conformant serde t) ∧
      c.backend.channels.answered = [2, 1, 0] ∧ c.backend.channels.answered.Nodup ∧
      ∀ t ∈ ts, ∀ position msg, t.action = .send position →
        t.before.inFlight[position]? = some (.batch msg) →
        (t.before.backend.handleFrontendMessages cfg (.batch msg)).1 = [msg.raw] := by
  intro first second serde cfg
  obtain ⟨ts, c, run, -, order⟩ := Run.reaches
    (restrict (Client.step serde cfg) (Client.answered serde)) (.new .number)
    [.batchRequest [("say_hello", none), ("say_goodbye", none)],
      .batchRequest [("say_hello", none), ("say_goodbye", none)], .request "say_hello" none,
      .send 1, .send 1, .send 0, .receive (Exchange.bytes (Exchange.success 2 7).1),
      .receive (Exchange.bytes second.1), .receive (Exchange.bytes first.1)]
    (fun c => c.backend.channels.answered = [2, 1, 0]) (by decide)
  obtain ⟨run, answered⟩ := run.of_restrict
  have conformant : ∀ t ∈ ts, Conformant serde t :=
    fun t member => conformant_of_answered (answered t member)
  obtain ⟨-, -, accepted, once⟩ := batches_do_not_mix run conformant
  exact ⟨ts, c, run, conformant, of_decide_eq_true order, once, accepted⟩

end Client

end Jsonrpsee
