import Jsonrpsee.Client.World

/-! # Whose answer is it

A oneshot sender moves from a message of the front-end into one entry of the
manager, and out of it into one answer. The world records what each sender was
handed over for; `Routed` says that the entry holding a sender is the entry it
was handed over for, and that a sender still in the manager is unused.
-/

namespace Jsonrpsee

/-- The oneshots used so far, in order. -/
def Channels.answered (ch : Channels) : List OneshotId := ch.answers.map Answer.oneshot

/-- What the senders are recorded for after a critical section. -/
def Op.handOver (op : Op) (handed : Table OneshotId Registration) :
    Option (Table OneshotId Registration) :=
  match op with
  | .front msg => msg.handOver handed
  | .single _ | .batch _ _ | .notify _ | .close _ | .plain _ => some handed

theorem FrontToBack.handOver_some {msg : FrontToBack} {handed handed' oneshot registration}
    (taken : msg.handOver handed = some handed')
    (sender : msg.registration = some (oneshot, registration)) :
    handed.lookup oneshot = none ∧ handed' = handed.insert oneshot registration := by
  simp only [handOver, sender] at taken
  split at taken
  · rename_i free
    exact ⟨free, (Option.some.inj taken).symm⟩
  · cases taken

/-- What a sender was handed over for never changes. -/
theorem FrontToBack.handOver_mono {msg : FrontToBack} {handed handed' oneshot registration}
    (taken : msg.handOver handed = some handed') (known : handed.lookup oneshot = some registration) :
    handed'.lookup oneshot = some registration := by
  cases sender : msg.registration with
  | none =>
      simp only [handOver, sender] at taken
      rw [← Option.some.inj taken, known]
  | some entry =>
      obtain ⟨free, rfl⟩ := handOver_some taken sender
      have other : oneshot ≠ entry.1 := by
        rintro rfl
        rw [known] at free
        cases free
      rw [Finmap.lookup_insert_of_ne _ other, known]

theorem Op.handOver_mono {op : Op} {handed handed' oneshot registration}
    (taken : op.handOver handed = some handed') (known : handed.lookup oneshot = some registration) :
    handed'.lookup oneshot = some registration := by
  cases op with
  | front msg => exact FrontToBack.handOver_mono taken known
  | single | batch | notify | close | plain => rwa [← Option.some.inj taken]

/-- The entry of a registration holds its sender. -/
@[grind cases]
inductive RequestManager.Holds (m : RequestManager) : OneshotId → Registration → Prop where
  | call (pending : m.requests.lookup r = some (.pendingMethodCall (some oneshot))) :
      Holds m oneshot (.call r)
  | subscription (pending : m.requests.lookup r = some (.pendingSubscription unsubReqId oneshot unsub)) :
      Holds m oneshot (.subscription r)
  | batch (pending : m.batches.lookup range = some { sendBack := oneshot }) :
      Holds m oneshot (.batch range)

attribute [grind →] RequestManager.Holds.call RequestManager.Holds.subscription
  RequestManager.Holds.batch

namespace Backend

/-- Why a critical section uses a oneshot. -/
inductive Answers (b : Backend) : Op → OneshotId → Reply → Prop where
  | batchDenied :
      Answers b (.front (.batch msg)) msg.sendBack (.batch (.error (.occupied msg.ids.debug)))
  | callDenied (waiting : msg.sendBack = some oneshot) :
      Answers b (.front (.request msg)) oneshot (.call (.error (.occupied msg.id.toString)))
  | subscribeDenied :
      Answers b (.front (.subscribe msg)) msg.sendBack
        (.subscription (.error (.invalidRequestId (.occupied text))))
  | registered : Answers b (.front (.registerNotification msg)) msg.sendBack (.notification r)
  | call (pending : b.manager.requests.lookup rp.id = some (.pendingMethodCall (some oneshot))) :
      Answers b (.single rp) oneshot (.call (.ok rp))
  | subscription
      (pending : b.manager.requests.lookup rp.id = some (.pendingSubscription unsubReqId oneshot unsub)) :
      Answers b (.single rp) oneshot (.subscription r)
  | batch (pending : b.manager.batches.lookup range = some { sendBack := oneshot }) :
      Answers b (.batch rps range) oneshot (.batch (.ok responses))

/-- How a critical section moves senders. -/
inductive Flow (b : Backend) (op : Op) (after : Backend) : Prop where
  | still (silent : after.channels.answers = b.channels.answers)
      (kept : ∀ o reg, after.manager.Holds o reg → b.manager.Holds o reg)
  | taken (front : op = .front msg) (sender : msg.registration = some (oneshot, registration))
      (silent : after.channels.answers = b.channels.answers)
      (kept : ∀ o reg, after.manager.Holds o reg →
        b.manager.Holds o reg ∨ o = oneshot ∧ reg = registration)
  | denied (front : op = .front msg) (sender : msg.registration = some (oneshot, registration))
      (reason : b.Answers op oneshot reply)
      (answered : after.channels.answers =
        b.channels.answers ++ [{ oneshot, reply, delivered := b.channels.isOpen oneshot }])
      (kept : ∀ o reg, after.manager.Holds o reg → b.manager.Holds o reg)
  | settled (back : ∀ msg, op ≠ .front msg) (held : b.manager.Holds oneshot registration)
      (reason : b.Answers op oneshot reply)
      (answered : after.channels.answers =
        b.channels.answers ++ [{ oneshot, reply, delivered := b.channels.isOpen oneshot }])
      (kept : ∀ o reg, after.manager.Holds o reg → b.manager.Holds o reg ∧ reg ≠ registration)

variable {cfg : Config} {b after : Backend} {op : Op} {out : Output}

theorem Step.flow (step : b.Step cfg op out after) : b.Flow op after := by
  have unmoved : ∀ o reg, b.manager.Holds o reg → b.manager.Holds o reg := fun _ _ held => held
  cases step with
  | notification | requestDenied | closedEarlier | unexpected | batchUnknown | notifyUnknown
  | closeIgnored | plainUnknown =>
      exact .still rfl unmoved
  | unsubscribe | release | batchUnstorable | closed | unregister =>
      exact .still rfl (by grind)
  | notified | notifyLost | delivered | deliveryLost =>
      exact .still (Channels.trySend_answers _ _ _) (by grind)
  | batch | subscribe => exact .taken rfl rfl rfl (by grind)
  | @request msg free =>
      cases sender : msg.sendBack with
      | none => exact .still rfl (by grind)
      | some oneshot =>
          have registered : (FrontToBack.request msg).registration = some (oneshot, .call msg.id) := by
            simp only [FrontToBack.registration, sender, Option.map_some]
          exact .taken rfl registered rfl (by grind)
  | batchOccupied => exact .denied rfl rfl .batchDenied (Channels.send_answers _ _ _) (by grind)
  | requestOccupied taken waiting =>
      exact .denied rfl (by simp only [FrontToBack.registration, waiting, Option.map_some]; rfl)
        (.callDenied waiting) (Channels.send_answers _ _ _) (by grind)
  | subscribeOccupied refused error =>
      subst error
      exact .denied rfl rfl .subscribeDenied (Channels.send_answers _ _ _) (by grind)
  | register | registerOccupied =>
      exact .denied rfl rfl .registered (Channels.send_answers _ _ _) (by grind)
  | answerCall pending =>
      exact .settled (by simp) (.call pending) (.call pending) (Channels.send_answers _ _ _) (by grind)
  | subscribeRefused pending | subscribeUnreadable pending | subscribeDuplicate pending
  | activate pending | abandon pending =>
      exact .settled (by simp) (.subscription pending) (.subscription pending)
        (Channels.send_answers _ _ _) (by grind)
  | batchAnswered pending =>
      exact .settled (by simp) (.batch pending) (.batch pending) (Channels.send_answers _ _ _) (by grind)

/-- A critical section uses at most one oneshot, and for a reason. -/
theorem Flow.answers (moved : b.Flow op after) :
    after.channels.answers = b.channels.answers ∨
      ∃ oneshot reply, b.Answers op oneshot reply ∧ after.channels.answers =
        b.channels.answers ++ [{ oneshot, reply, delivered := b.channels.isOpen oneshot }] := by
  cases moved with
  | still silent | taken _ _ silent => exact .inl silent
  | denied _ _ reason answered | settled _ _ reason answered => exact .inr ⟨_, _, reason, answered⟩

end Backend

/-- Every sender in the manager is unused and sits where it was handed over
    for; no sender is used twice. -/
structure Routed (b : Backend) (handed : Table OneshotId Registration) : Prop where
  held : ∀ {oneshot registration}, b.manager.Holds oneshot registration →
    handed.lookup oneshot = some registration ∧ oneshot ∉ b.channels.answered
  answered : ∀ {oneshot}, oneshot ∈ b.channels.answered → handed.lookup oneshot ≠ none
  once : b.channels.answered.Nodup

namespace Routed

variable {cfg : Config} {b after : Backend} {op : Op} {handed handed' : Table OneshotId Registration}

theorem new : Routed .new ∅ where
  held found := by cases found with | call pending | subscription pending | batch pending => cases pending
  answered used := by cases used
  once := List.nodup_nil

theorem congr (routed : Routed b handed) (same : after.manager = b.manager)
    (silent : after.channels.answers = b.channels.answers) : Routed after handed := by
  obtain ⟨held, answered, once⟩ := routed
  constructor <;> simpa only [Channels.answered, same, silent]

/-- Using a sender that no entry is left with. -/
private theorem settle (routed : Routed b handed) {answer : Answer}
    (unused : answer.oneshot ∉ b.channels.answered)
    (answers : after.channels.answers = b.channels.answers ++ [answer])
    (grows : ∀ {o reg}, handed.lookup o = some reg → handed'.lookup o = some reg)
    (known : handed'.lookup answer.oneshot ≠ none)
    (kept : ∀ {o reg}, after.manager.Holds o reg → b.manager.Holds o reg ∧ o ≠ answer.oneshot) :
    Routed after handed' := by
  have used : after.channels.answered = b.channels.answered ++ [answer.oneshot] := by
    simp only [Channels.answered, answers, List.map_append, List.map_cons, List.map_nil]
  constructor
  · intro o reg found
    obtain ⟨before, other⟩ := kept found
    obtain ⟨recorded, open_⟩ := routed.held before
    refine ⟨grows recorded, ?_⟩
    rw [used, List.mem_append, List.mem_singleton]
    exact fun either => either.elim open_ other
  · intro o member
    rw [used, List.mem_append, List.mem_singleton] at member
    rcases member with earlier | rfl
    · intro missing
      obtain ⟨reg, recorded⟩ := Option.ne_none_iff_exists'.mp (routed.answered earlier)
      rw [grows recorded] at missing
      cases missing
    · exact known
  · rw [used]
    exact List.nodup_append.mpr ⟨routed.once, List.nodup_singleton _, by
      intro o earlier o' last same
      rw [List.mem_singleton.mp last] at same
      exact unused (same ▸ earlier)⟩

theorem flow (routed : Routed b handed) (taken : op.handOver handed = some handed')
    (moved : b.Flow op after) : Routed after handed' := by
  have grows : ∀ {o reg}, handed.lookup o = some reg → handed'.lookup o = some reg :=
    Op.handOver_mono taken
  have quiet : ∀ (silent : after.channels.answers = b.channels.answers) {o},
      o ∈ after.channels.answered → handed'.lookup o ≠ none := by
    intro silent o member missing
    rw [Channels.answered, silent] at member
    obtain ⟨reg, recorded⟩ := Option.ne_none_iff_exists'.mp (routed.answered member)
    rw [grows recorded] at missing
    cases missing
  cases moved with
  | still silent kept =>
      refine ⟨?_, quiet silent, by simpa only [Channels.answered, silent] using routed.once⟩
      intro o reg found
      obtain ⟨recorded, open_⟩ := routed.held (kept o reg found)
      exact ⟨grows recorded, by simpa only [Channels.answered, silent] using open_⟩
  | taken front sender silent kept =>
      subst front
      obtain ⟨free, inserted⟩ := FrontToBack.handOver_some taken sender
      refine ⟨?_, quiet silent, by simpa only [Channels.answered, silent] using routed.once⟩
      intro o reg found
      rcases kept o reg found with before | ⟨rfl, rfl⟩
      · obtain ⟨recorded, open_⟩ := routed.held before
        exact ⟨grows recorded, by simpa only [Channels.answered, silent] using open_⟩
      · refine ⟨by rw [inserted, Finmap.lookup_insert], ?_⟩
        rw [Channels.answered, silent]
        exact fun used => routed.answered used free
  | denied front sender reason answers kept =>
      subst front
      obtain ⟨free, inserted⟩ := FrontToBack.handOver_some taken sender
      refine routed.settle (fun used => routed.answered used free) answers grows ?_ ?_
      · rw [inserted, Finmap.lookup_insert]
        exact Option.some_ne_none _
      · intro o reg found
        refine ⟨kept o reg found, ?_⟩
        rintro rfl
        rw [(routed.held (kept o reg found)).1] at free
        cases free
  | settled back held reason answers kept =>
      obtain ⟨recorded, unused⟩ := routed.held held
      refine routed.settle unused answers grows ?_ ?_
      · rw [grows recorded]
        exact Option.some_ne_none _
      · intro o reg found
        obtain ⟨before, other⟩ := kept o reg found
        refine ⟨before, ?_⟩
        -- One sender is recorded for one registration only.
        rintro rfl
        exact other (Option.some.inj ((routed.held before).1.symm.trans recorded))

/-- Sections that take no sender in keep every sender in place. -/
theorem applyAll (routed : Routed b handed) {ops : List Op} (back : ∀ op ∈ ops, ∀ msg, op ≠ .front msg) :
    Routed (b.applyAll cfg ops) handed := by
  refine Backend.applyAll_keep (fun b => Routed b handed) ?_ routed
  intro b op member before
  have unchanged : op.handOver handed = some handed := by
    cases op with
    | front msg => exact absurd rfl (back _ member msg)
    | single | batch | notify | close | plain => rfl
  exact before.flow unchanged (Backend.apply_step cfg b op).flow

end Routed

/-- Notifications answer nobody. -/
theorem Backend.applyAll_quiet {cfg : Config} {b : Backend} {ops : List Op}
    (quiet : ∀ op ∈ ops, op.Quiet) : (b.applyAll cfg ops).channels.answers = b.channels.answers := by
  refine applyAll_keep (fun b' => b'.channels.answers = b.channels.answers) ?_ rfl
  intro b' op member before
  rw [← before]
  cases (apply_step cfg b' op).flow with
  | still silent => exact silent
  | taken front => exact absurd front ((quiet op member).back _)
  | denied front => exact absurd front ((quiet op member).back _)
  | settled _ _ reason =>
      cases reason <;> exact absurd (quiet _ member) id

namespace World

variable {serde : SerdeJson} {cfg : Config} {w w' : World} {a : Action}

/-- The step that uses a oneshot, and what it was doing. -/
inductive Answers (serde : SerdeJson) (w : World) : Action → OneshotId → Reply → Prop where
  | front (reason : w.backend.Answers (.front msg) oneshot reply) :
      Answers serde w (.front msg) oneshot reply
  | single (holds : serde.single raw = some rp)
      (reason : w.backend.Answers (.single rp) oneshot reply) :
      Answers serde w (.recv raw) oneshot reply
  | batch (recorded : w.handed.lookup oneshot = some (.batch range)) :
      Answers serde w (.recv raw) oneshot (.batch r)

theorem step_routed (taken : w.step serde cfg a = some w') (routed : Routed w.backend w.handed) :
    Routed w'.backend w'.handed := by
  cases a with
  | front msg =>
      obtain ⟨handed, accepted, rfl⟩ := Option.map_eq_some_iff.mp taken
      have recorded : (Op.front msg).handOver w.handed = some handed := accepted
      exact routed.flow recorded (Backend.apply_step cfg w.backend (.front msg)).flow
  | recv raw =>
      obtain rfl := Option.some.inj taken
      obtain ⟨quiet, last, ends, quiets, closing⟩ := w.backend.recv_ops serde cfg raw
      dsimp only
      rw [ends]
      apply routed.applyAll
      intro op member msg
      rcases List.mem_append.mp member with early | late
      · exact (quiets op early).back msg
      · cases closing with
        | none => cases late
        | single | batch => rw [List.mem_singleton.mp late]; exact Op.noConfusion
  | dropOneshot oneshot =>
      obtain rfl := Option.some.inj taken
      exact routed.congr rfl rfl
  | dropReceiver sink =>
      obtain rfl := Option.some.inj taken
      exact routed.congr rfl (Channels.dropReceiver_answers _ sink)
  | read sink =>
      obtain ⟨channels, got, rfl⟩ := Option.map_eq_some_iff.mp taken
      exact routed.congr rfl (Channels.read_answers _ sink got)

/-- A step uses at most one oneshot. -/
theorem step_answers (taken : w.step serde cfg a = some w') (routed : Routed w.backend w.handed) :
    w'.backend.channels.answers = w.backend.channels.answers ∨
      ∃ answer, w'.backend.channels.answers = w.backend.channels.answers ++ [answer] ∧
        Answers serde w a answer.oneshot answer.reply := by
  cases a with
  | front msg =>
      obtain ⟨handed, -, rfl⟩ := Option.map_eq_some_iff.mp taken
      rcases (Backend.apply_step cfg w.backend (.front msg)).flow.answers with silent | ⟨_, _, reason, grown⟩
      · exact .inl silent
      · exact .inr ⟨_, grown, .front reason⟩
  | recv raw =>
      obtain rfl := Option.some.inj taken
      obtain ⟨quiet, last, ends, quiets, closing⟩ := w.backend.recv_ops serde cfg raw
      have silent : (w.backend.applyAll cfg quiet).channels.answers = w.backend.channels.answers :=
        Backend.applyAll_quiet quiets
      dsimp only
      rw [ends, Backend.applyAll_append]
      cases closing with
      | none => exact .inl silent
      | single first holds =>
          subst first
          rcases (Backend.apply_step cfg w.backend (.single _)).flow.answers with same | ⟨_, _, reason, grown⟩
          · exact .inl same
          · exact .inr ⟨_, grown, .single holds reason⟩
      | @batch rps range =>
          have before : Routed (w.backend.applyAll cfg quiet) w.handed :=
            routed.applyAll fun op member => (quiets op member).back
          rcases (Backend.apply_step cfg (w.backend.applyAll cfg quiet) (.batch rps range)).flow.answers with
            same | ⟨_, _, reason, grown⟩
          · exact .inl (same.trans silent)
          · refine .inr ⟨_, grown.trans (by rw [silent]), ?_⟩
            cases reason with
            | batch pending => exact .batch (before.held (.batch pending)).1
  | dropOneshot oneshot =>
      obtain rfl := Option.some.inj taken
      exact .inl rfl
  | dropReceiver sink =>
      obtain rfl := Option.some.inj taken
      exact .inl (Channels.dropReceiver_answers _ sink)
  | read sink =>
      obtain ⟨channels, got, rfl⟩ := Option.map_eq_some_iff.mp taken
      exact .inl (Channels.read_answers _ sink got)

theorem routed {ts w} (run : Run (World.step serde cfg) .new ts w) : Routed w.backend w.handed :=
  run.invariant (fun w => Routed w.backend w.handed) (fun _ => True) (fun _ _ => trivial) .new
    fun _ _ before taken => step_routed taken before

theorem step_handed_mono (taken : w.step serde cfg a = some w') {oneshot registration}
    (known : w.handed.lookup oneshot = some registration) :
    w'.handed.lookup oneshot = some registration := by
  cases a with
  | front msg =>
      obtain ⟨handed, accepted, rfl⟩ := Option.map_eq_some_iff.mp taken
      exact FrontToBack.handOver_mono accepted known
  | recv | dropOneshot | dropReceiver =>
      obtain rfl := Option.some.inj taken
      exact known
  | read sink =>
      obtain ⟨channels, -, rfl⟩ := Option.map_eq_some_iff.mp taken
      exact known

/-- What a sender was handed over for is recorded to the end of the run. -/
theorem handed_mono {start : World} {ts w} (run : Run (World.step serde cfg) start ts w)
    {oneshot registration} (known : start.handed.lookup oneshot = some registration) :
    w.handed.lookup oneshot = some registration :=
  run.invariant (fun w => w.handed.lookup oneshot = some registration) (fun _ => True)
    (fun _ _ => trivial) known fun _ _ recorded taken => step_handed_mono taken recorded

/-- The sender of a message is recorded under what the message asks for. -/
theorem handed_of_front {ts w} (run : Run (World.step serde cfg) .new ts w) {t} (member : t ∈ ts)
    {msg oneshot registration} (front : t.action = .front msg)
    (sender : msg.registration = some (oneshot, registration)) :
    w.handed.lookup oneshot = some registration := by
  obtain ⟨pre, post, -, -, taken, later⟩ := run.split member
  rw [front] at taken
  obtain ⟨handed, accepted, stepped⟩ := Option.map_eq_some_iff.mp taken
  obtain ⟨-, inserted⟩ := FrontToBack.handOver_some accepted sender
  apply handed_mono later
  rw [← stepped, inserted, Finmap.lookup_insert]

/-- A sender that is on record cannot be handed over again. -/
theorem front_fresh (taken : w.step serde cfg a = some w') {msg oneshot registration}
    (front : a = .front msg) (sender : msg.registration = some (oneshot, registration)) :
    w.handed.lookup oneshot = none := by
  subst front
  obtain ⟨handed, accepted, -⟩ := Option.map_eq_some_iff.mp taken
  exact (FrontToBack.handOver_some accepted sender).1

/-- A sender is handed over in one step only. -/
theorem front_unique {ts w} (run : Run (World.step serde cfg) .new ts w)
    {t t' : Transition World Action} (first : t ∈ ts) (second : t' ∈ ts) {msg msg' oneshot}
    {registration registration' : Registration}
    (front : t.action = .front msg) (sender : msg.registration = some (oneshot, registration))
    (front' : t'.action = .front msg') (sender' : msg'.registration = some (oneshot, registration')) :
    t = t' := by
  induction run with
  | nil => cases first
  | snoc earlier taken ih =>
      rcases List.mem_append.mp first with old | new <;>
        rcases List.mem_append.mp second with old' | new'
      · exact ih old old'
      · obtain rfl := List.mem_singleton.mp new'
        have known := handed_of_front earlier old front sender
        rw [front_fresh taken front' sender'] at known
        cases known
      · obtain rfl := List.mem_singleton.mp new
        have known := handed_of_front earlier old' front' sender'
        rw [front_fresh taken front sender] at known
        cases known
      · rw [List.mem_singleton.mp new, List.mem_singleton.mp new']

/-- The answers given in one step. -/
def answered (t : Transition World Action) : List Answer :=
  t.after.backend.channels.answers.drop t.before.backend.channels.answers.length

theorem answered_eq {t : Transition World Action} {new}
    (grown : t.after.backend.channels.answers = t.before.backend.channels.answers ++ new) :
    answered t = new := by
  rw [answered, grown, List.drop_left]

/-- The step behind an answer, with the use the sender was recorded for. -/
theorem answered_source {ts w} (run : Run (World.step serde cfg) .new ts w) {t} (member : t ∈ ts)
    {answer} (given : answer ∈ answered t) :
    Answers serde t.before t.action answer.oneshot answer.reply ∧ Routed t.before.backend t.before.handed := by
  obtain ⟨pre, post, -, before, taken, later⟩ := run.split member
  refine ⟨?_, routed before⟩
  rcases step_answers taken (routed before) with silent | ⟨only, grown, reason⟩
  · rw [answered_eq (silent.trans (List.append_nil _).symm)] at given
    cases given
  · rw [answered_eq grown, List.mem_singleton] at given
    rwa [given]

/-- An answer is the refusal of the message that brought the sender, or it is
    given for what the sender was recorded for. -/
theorem answered_for {ts w} (run : Run (World.step serde cfg) .new ts w) {t t'}
    (member : t ∈ ts) (member' : t' ∈ ts) {msg oneshot registration}
    (front : t.action = .front msg) (sender : msg.registration = some (oneshot, registration))
    {answer} (given : answer ∈ answered t') (own : answer.oneshot = oneshot) :
    (t' = t ∧ t.before.backend.Answers (.front msg) oneshot answer.reply) ∨
    (∃ raw rp, t'.action = .recv raw ∧ serde.single raw = some rp ∧
      (registration = .call rp.id ∧ answer.reply = .call (.ok rp) ∨
        registration = .subscription rp.id ∧ ∃ r, answer.reply = .subscription r)) ∨
    ∃ range, registration = .batch range := by
  have recorded := handed_of_front run member front sender
  obtain ⟨pre, post, -, -, taken, later⟩ := run.split member'
  have same : ∀ {used}, t'.before.handed.lookup oneshot = some used → registration = used := by
    intro used known
    have final := handed_mono later (step_handed_mono taken known)
    exact Option.some.inj (recorded.symm.trans final)
  obtain ⟨source, routed⟩ := answered_source run member' given
  rw [own] at source
  generalize answer.reply = reply at source
  generalize acts : t'.action = action at source
  cases source with
  | @front msg' _ _ reason =>
      obtain ⟨registration', sender'⟩ : ∃ registration',
          msg'.registration = some (oneshot, registration') := by
        cases reason with
        | batchDenied | subscribeDenied | registered => exact ⟨_, rfl⟩
        | callDenied waiting =>
            exact ⟨_, by simp only [FrontToBack.registration, waiting, Option.map_some]; rfl⟩
      obtain rfl := front_unique run member' member acts sender' front sender
      obtain rfl := Action.front.inj (acts.symm.trans front)
      exact .inl ⟨rfl, reason⟩
  | single holds reason =>
      cases reason with
      | call pending =>
          exact .inr (.inl ⟨_, _, rfl, holds, .inl ⟨same (routed.held (.call pending)).1, rfl⟩⟩)
      | subscription pending =>
          exact .inr (.inl ⟨_, _, rfl, holds,
            .inr ⟨same (routed.held (.subscription pending)).1, _, rfl⟩⟩)
  | batch known => exact .inr (.inr ⟨_, same known⟩)

/-- Every run routes its answers: a call gets the response with its own id, a
    subscribe call is answered for a response with its own id or denied when it
    is registered, one step answers at most one oneshot, and no oneshot is
    answered twice. -/
theorem answers_routed {ts w} (run : Run (World.step serde cfg) .new ts w) :
    (∀ t ∈ ts, ∀ msg oneshot, t.action = .front (.request msg) → msg.sendBack = some oneshot →
      ∀ t' ∈ ts, ∀ answer ∈ answered t', answer.oneshot = oneshot →
        ∃ r, answer.reply = .call r ∧ ∀ rp, r = .ok rp → rp.id = msg.id) ∧
    (∀ t ∈ ts, ∀ msg, t.action = .front (.subscribe msg) →
      ∀ t' ∈ ts, ∀ answer ∈ answered t', answer.oneshot = msg.sendBack →
        (t' = t ∧ ∃ text, answer.reply = .subscription (.error (.invalidRequestId (.occupied text)))) ∨
        ∃ raw rp, t'.action = .recv raw ∧ serde.single raw = some rp ∧ rp.id = msg.subscribeId) ∧
    (∀ t ∈ ts, (answered t).length ≤ 1 ∧
      t.after.backend.channels.answers = t.before.backend.channels.answers ++ answered t) ∧
    (w.backend.channels.answers.map Answer.oneshot).Nodup := by
  refine ⟨?_, ?_, ?_, (routed run).once⟩
  · intro t member msg oneshot front waiting t' member' answer given own
    have sender : (FrontToBack.request msg).registration = some (oneshot, .call msg.id) := by
      simp only [FrontToBack.registration, waiting, Option.map_some]
    rcases answered_for run member member' front sender given own with
      ⟨-, denied⟩ | ⟨raw, rp, -, -, ⟨used, reply⟩ | ⟨used, -⟩⟩ | ⟨range, used⟩
    · generalize answer.reply = reply at denied
      cases denied
      exact ⟨_, rfl, fun rp ok => by cases ok⟩
    · refine ⟨_, reply, ?_⟩
      rintro rp ⟨⟩
      exact (Registration.call.inj used).symm
    · cases used
    · cases used
  · intro t member msg front t' member' answer given own
    rcases answered_for run member member' front rfl given own with
      ⟨same, denied⟩ | ⟨raw, rp, received, holds, ⟨used, -⟩ | ⟨used, -⟩⟩ | ⟨range, used⟩
    · generalize answer.reply = reply at denied
      cases denied
      exact .inl ⟨same, _, rfl⟩
    · cases used
    · exact .inr ⟨raw, rp, received, holds, (Registration.subscription.inj used).symm⟩
    · cases used
  · intro t member
    obtain ⟨pre, post, -, before, taken, -⟩ := run.split member
    rcases step_answers taken (routed before) with silent | ⟨answer, grown, -⟩
    · have grown := silent.trans (List.append_nil _).symm
      rw [answered_eq grown]
      exact ⟨Nat.zero_le _, grown⟩
    · rw [answered_eq grown]
      exact ⟨Nat.le_refl _, grown⟩

/-- A call and a subscribe call whose responses arrive in the other order, one
    of them twice. -/
theorem answers_routed_crossed :
    let serde := Exchange.reader [Exchange.success 0 7, Exchange.success 2 5]
    let cfg : Config := { maxBufferCapacityPerSubscription := 1, overflowChecks := true }
    ∃ ts w, Run (World.step serde cfg) .new ts w ∧
      w.backend.channels.answers.map Answer.oneshot = [1, 0] ∧
      (w.backend.channels.answers.map Answer.oneshot).Nodup ∧ ∀ t ∈ ts, (answered t).length ≤ 1 := by
  intro serde cfg
  obtain ⟨ts, w, run, -, order⟩ := Run.reaches (World.step serde cfg) .new
    [.front (Exchange.subscribe 0 1 0), .front (Exchange.call 2 1),
      Exchange.received (Exchange.success 2 5), Exchange.received (Exchange.success 2 5),
      Exchange.received (Exchange.success 0 7)]
    (fun w => w.backend.channels.answers.map Answer.oneshot = [1, 0]) (by decide)
  have routed := answers_routed run
  exact ⟨ts, w, run, of_decide_eq_true order, routed.2.2.2, fun t member => (routed.2.2.1 t member).1⟩

end World

end Jsonrpsee
