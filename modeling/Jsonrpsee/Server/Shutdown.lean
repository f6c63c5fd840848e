import Jsonrpsee.Server.Accounts
import Jsonrpsee.Server.WebSocket

/-! # Graceful shutdown

A server that is stopped does not drop the responses of the calls that it has
received. The receive loop waits until all senders of `pending_calls` are gone,
and a task keeps its sender until its response is on the channel. Only then the
send task is told to stop, and it looks at its channel first.
-/

namespace Jsonrpsee

namespace Server

/-! ## An open connection stays open -/

namespace Hub

variable {cfg : ServerConfig} {h h' : Hub} {a : HubAction} {conn conn' : ConnectionId}

theorem isOpen_onConn {change : Conn → Conn} (keeps : ∀ c, (change c).isOpen = c.isOpen) :
    (h.onConn conn change).isOpen conn' = h.isOpen conn' := by
  rw [isOpen, isOpen, lookup_onConn]
  split
  · rename_i same
    rw [same]
    cases h.conns.lookup conn with
    | none => rfl
    | some c => exact keeps c
  · rfl

theorem isOpen_push {origin : Origin} {json : RawText} :
    (h.push conn origin json).isOpen conn' = h.isOpen conn' := by
  refine isOpen_onConn fun c => ?_
  unfold Conn.push
  split <;> rfl

theorem Move.stays_open (move : Move cfg h a h') (other : a ≠ .close conn) (up : h.isOpen conn = true) :
    h'.isOpen conn = true := by
  cases move with
  | @connect conn' free =>
      rw [isOpen, Table.lookup_insert_ite]
      split
      · rfl
      · exact up
  | @close conn' =>
      have elsewhere : conn ≠ conn' := by
        rintro rfl
        exact other rfl
      rw [isOpen, lookup_onConn, if_neg elsewhere]
      exact up
  | @subscribe call =>
      exact (@isOpen_onConn h call.connId conn (fun c => { c with permits := c.permits - 1 }) fun _ => rfl).trans up
  | @release n s | @dropLast n s =>
      exact (@isOpen_onConn { h with subs := h.subs.erase n } s.uniqSub.connId conn
        (fun c => { c with permits := c.permits + 1 }) fun _ => rfl).trans up
  | unsubscribe =>
      unfold Hub.unsubscribe
      split <;> exact up
  | respond | reject | send => exact isOpen_push.trans up
  | _ => exact up

end Hub

/-! ## The tasks of a connection -/

/-- The response that the task is about to send. -/
def TaskState.response : TaskState → Option MethodResponse
  | .sending rp _ => some rp
  | .calling _ _ _ | .running _ _ _ _ | .subscribing _ _ _ _ | .returned _ _ | .looping _ | .done _ | .panicked => none

namespace Serving

variable {service : Service} {w w' : Serving} {conn : ConnectionId} {t : TaskId} {rp : MethodResponse}

/-- No task has a number that is still to be given. -/
def Fresh (w : Serving) : Prop := ∀ t, w.next ≤ t → w.tasks.lookup t = none

/-- The call or the batch of the task `t` has its response, and the task is about to
    put it on the channel. -/
def Produced (w : Serving) (conn : ConnectionId) (t : TaskId) (rp : MethodResponse) : Prop :=
  ∃ task tooBig, w.tasks.lookup t = some task ∧ task.conn = conn ∧ task.state = .sending rp tooBig ∧
    (rp.isMethodCall || rp.isBatch) = true

/-- Every task of the connection is finished. -/
def Idle (w : Serving) (conn : ConnectionId) : Prop :=
  ∀ t task, w.tasks.lookup t = some task → task.conn = conn → task.state.isFinished = true

theorem idle_of_pendingCallsDone (done : w.pendingCallsDone conn = true) : w.Idle conn := by
  intro t task found same
  have nobody := (Table.count_eq_zero_iff _).mp (of_decide_eq_true done) found
  by_contra unfinished
  exact nobody ⟨same, Bool.eq_false_of_not_eq_true unfinished⟩

theorem Idle.not_produced (idle : w.Idle conn) : ¬ w.Produced conn t rp := by
  rintro ⟨task, tooBig, found, same, state, -⟩
  have finished := idle _ _ found same
  rw [state] at finished
  cases finished

/-- What a connection sees of a step that is not its own. -/
structure Beside (conn : ConnectionId) (w w' : Serving) : Prop where
  isOpen : w.hub.isOpen conn = true → w'.hub.isOpen conn = true
  outgoing : w.hub.outgoing conn <+: w'.hub.outgoing conn
  idle : w.Idle conn → w'.Idle conn
  produced : ∀ {t rp}, w.hub.isOpen conn = true → w.Produced conn t rp →
    w'.Produced conn t rp ∨ (.task t, rp.json) ∈ w'.hub.outgoing conn
  fresh : w'.Fresh

theorem unfinished_of_stepTask {h h' : Hub} {task task' : Task} {a : TaskAction}
    (taken : service.stepTask h t task a = some (h', task')) : task.state.isFinished = false := by
  cases state : task.state with
  | done | panicked => cases a <;> simp [Service.stepTask, state] at taken
  | _ => rfl

theorem push_of_stepTask {h h' : Hub} {task task' : Task} {a : TaskAction} {tooBig : Bool}
    (state : task.state = .sending rp tooBig) (loud : (rp.isMethodCall || rp.isBatch) = true)
    (taken : service.stepTask h t task a = some (h', task')) : h' = h.push task.conn (.task t) rp.json := by
  cases a with
  | send =>
      simp only [Service.stepTask, state, if_pos loud, Option.some.injEq, Prod.mk.injEq] at taken
      exact taken.1.symm
  | _ => simp [Service.stepTask, state] at taken

theorem call_isOpen {h h' : Hub} {task task' : Task} {req : Request} {extensions : Extensions} {rest : Option Loop}
    {result : Result} {subId : SubscriptionId}
    (called : service.call h task req extensions rest result subId = (h', task')) :
    h.isOpen conn = true → h'.isOpen conn = true := by
  intro up
  unfold Service.call at called
  dsimp only at called
  split at called
  case h_5 =>
    split at called
    · rename_i admitted
      cases called
      exact (Task.move_of_subscribe admitted).1.stays_open (by simp) up
    · cases called
      exact up
  case h_6 method _ =>
    cases called
    have move : Hub.Move service.cfg h (.unsubscribe task.conn method req.params) _ := .unsubscribe
    exact move.stays_open (by simp) up
  all_goals
    cases called
    exact up

theorem stepTask_isOpen {h h' : Hub} {task task' : Task} {a : TaskAction}
    (taken : service.stepTask h t task a = some (h', task')) : h.isOpen conn = true → h'.isOpen conn = true := by
  intro up
  unfold Service.stepTask at taken
  split at taken
  · exact call_isOpen (Option.some.inj taken) up
  · cases taken
    exact up
  · cases taken
    exact up
  · obtain ⟨answer, -, same⟩ := Option.map_eq_some_iff.mp taken
    cases same
    exact up
  · split at taken <;> cases taken <;> exact up
  · cases taken
    exact up
  · split at taken <;> cases taken
    · exact Hub.isOpen_push.trans up
    · exact up
  · split at taken <;> cases taken
    exact up
  · cases taken
    exact up
  · cases taken

theorem effect_outgoing {h h' : Hub} {conn' : ConnectionId} (effect : Task.Effect service.cfg h conn' t h') :
    h.outgoing conn <+: h'.outgoing conn := by
  cases effect with
  | none => exact List.prefix_refl _
  | move move => exact move.outgoing_grows
  | push => exact Hub.outgoing_push_grows

/-- Clients and handlers act. -/
theorem Beside.of_hub {a : HubAction} {hub : Hub} (fresh : w.Fresh) (other : a ≠ .close conn)
    (taken : w.hub.step service.cfg a = some hub) : Beside conn w { w with hub } where
  isOpen := (Hub.move_of_step taken).stays_open other
  outgoing := (Hub.move_of_step taken).outgoing_grows
  idle idle := idle
  produced _ produced := .inl produced
  fresh := fresh

theorem Fresh.lookup_insert (fresh : w.Fresh) {task task' : Task} (found : w.tasks.lookup t = some task) :
    (w.tasks.insert w.next task').lookup t = some task := by
  have old : t ≠ w.next := by
    rintro rfl
    cases found.symm.trans (fresh _ (Nat.le_refl _))
  rw [Table.lookup_insert_ite, if_neg old, found]

theorem Fresh.next_insert (fresh : w.Fresh) {task : Task} (late : w.next + 1 ≤ t) :
    (w.tasks.insert w.next task).lookup t = none := by
  rw [Table.lookup_insert_ite, if_neg (Nat.ne_of_gt late), fresh _ (Nat.le_of_succ_le late)]

/-- Another connection receives a message. -/
theorem Beside.of_receive {other : ConnectionId} {data : List UInt8} {extensions : Extensions} (fresh : w.Fresh)
    (elsewhere : other ≠ conn) (taken : w.step service (.receive other data extensions) = some w') :
    Beside conn w w' := by
  simp only [step] at taken
  obtain ⟨-, taken⟩ := Option.ite_none_right_eq_some.mp taken
  cases taken
  refine ⟨fun up => up, List.prefix_refl _, ?_, ?_, fun _ => fresh.next_insert⟩
  · intro idle t task found same
    rw [Table.lookup_insert_ite] at found
    split at found
    · cases found
      exact absurd same elsewhere
    · exact idle _ _ found same
  · rintro t rp - ⟨task, tooBig, found, state⟩
    exact .inl ⟨task, tooBig, fresh.lookup_insert found, state⟩

/-- A task takes a step. -/
theorem Beside.of_task {a : TaskAction} {task task' : Task} {hub : Hub} (fresh : w.Fresh)
    (found : w.tasks.lookup t = some task) (taken : service.stepTask w.hub t task a = some (hub, task')) :
    Beside conn w { w with hub, tasks := w.tasks.insert t task' } := by
  obtain ⟨sameConn, -, effect⟩ := Task.stepTask_effect taken
  refine ⟨stepTask_isOpen taken, effect_outgoing effect, ?_, ?_, ?_⟩
  · intro idle u task₁ found₁ same
    rw [Table.lookup_insert_ite] at found₁
    split at found₁
    · -- A finished task does not take a step.
      cases found₁
      have finished := idle _ _ found (sameConn.symm.trans same)
      rw [unfinished_of_stepTask taken] at finished
      cases finished
    · exact idle _ _ found₁ same
  · rintro u rp up ⟨task₁, tooBig, found₁, same, state, loud⟩
    by_cases here : u = t
    · subst here
      cases found₁.symm.trans found
      refine .inr ?_
      rw [push_of_stepTask state loud taken, Hub.outgoing_push, same, if_pos ⟨rfl, up⟩]
      exact List.mem_append_right _ List.mem_cons_self
    · refine .inl ⟨task₁, tooBig, ?_, same, state, loud⟩
      rw [Table.lookup_insert_ite, if_neg here, found₁]
  · intro u late
    have other : u ≠ t := by
      rintro rfl
      cases found.symm.trans (fresh _ late)
    rw [Table.lookup_insert_ite, if_neg other, fresh _ late]

theorem Beside.of_step {a : ServingAction} (fresh : w.Fresh) (outside : a.isOutside conn = true)
    (taken : w.step service a = some w') : Beside conn w w' := by
  cases a with
  | hub a =>
      simp only [step] at taken
      obtain ⟨-, taken⟩ := Option.ite_none_right_eq_some.mp taken
      obtain ⟨hub, moved, rfl⟩ := Option.map_eq_some_iff.mp taken
      refine .of_hub fresh ?_ moved
      rintro rfl
      simp [ServingAction.isOutside] at outside
  | receive other data extensions => exact .of_receive fresh (of_decide_eq_true outside) taken
  | task t a =>
      obtain ⟨task, found, taken⟩ := Option.bind_eq_some_iff.mp taken
      obtain ⟨⟨hub, task'⟩, moved, rfl⟩ := Option.map_eq_some_iff.mp taken
      exact .of_task fresh found moved

end Serving

/-! ## Orderly connections -/

namespace WsConn

variable {p : BackgroundTaskParams} {s s' : WsConn} {a : WsAction}

/-- The client stays, and the socket neither fails to receive nor to send. -/
def isFaultless (tr : Transition WsConn WsAction) : Bool :=
  match tr.action with
  | .connectionClosed | .disconnect | .sendError => false
  | .deliver => tr.after.sender = .running
  | .serving _ | .incoming _ | .stopped | .pendingCallsDone | .senderGone | .stopSending | .closeChannel => true

/-- What has been handed to `ws_sender`, as it was on the channel. -/
def sent (s : WsConn) (conn : ConnectionId) : List (Origin × RawText) :=
  (s.serving.hub.outgoing conn).take s.handed.length

/-- What holds of a connection without faults. -/
structure Orderly (p : BackgroundTaskParams) (s : WsConn) : Prop where
  isOpen : s.sender = .running → s.serving.hub.isOpen p.conn = true
  handed : s.handed.map Prod.fst = (s.sent p.conn).map Prod.snd
  idle : s.loop = .signalled → s.serving.Idle p.conn
  signalled : s.sender ≠ .running → s.loop = .signalled
  fresh : s.serving.Fresh

theorem Orderly.new {serving : Serving} (fresh : serving.Fresh) (up : serving.hub.isOpen p.conn = true) :
    Orderly p (.new serving) where
  isOpen _ := up
  handed := rfl
  idle signalled := by cases signalled
  signalled stopped := absurd rfl stopped
  fresh := fresh

theorem Orderly.running (orderly : Orderly p s) (unsignalled : s.loop ≠ .signalled) : s.sender = .running := by
  by_contra stopped
  exact unsignalled (orderly.signalled stopped)

/-- A channel that has grown begins with the same messages. -/
theorem Orderly.sent_eq (orderly : Orderly p s) (grown : s.serving.hub.outgoing p.conn <+: s'.serving.hub.outgoing p.conn)
    (same : s'.handed = s.handed) : s'.sent p.conn = s.sent p.conn := by
  have short : s.handed.length ≤ (s.serving.hub.outgoing p.conn).length := by
    have lengths := congrArg List.length orderly.handed
    simp only [sent, List.length_map, List.length_take] at lengths
    omega
  obtain ⟨more, grown⟩ := grown
  rw [sent, sent, same, ← grown, List.take_append_of_le_length short]

theorem handed_deliver {response : RawText} {rest : List RawText} {text : String}
    (handed : s.handed.map Prod.fst = (s.sent p.conn).map Prod.snd) (next : s.queue p.conn = response :: rest) :
    (s.handed ++ [(response, text)]).map Prod.fst =
      ((s.serving.hub.outgoing p.conn).take (s.handed ++ [(response, text)]).length).map Prod.snd := by
  have here : ((s.serving.hub.outgoing p.conn).map Prod.snd)[s.handed.length]? = some response := by
    rw [← List.head?_drop]
    exact congrArg List.head? next
  rw [List.map_append, handed, sent, List.length_append, List.length_singleton, List.map_take, List.map_take,
    List.take_add_one, here]
  rfl

theorem Orderly.of_move (orderly : Orderly p s) (faultless : isFaultless ⟨s, a, s'⟩ = true) (move : Move p s a s') :
    Orderly p s' := by
  have grow {s' : WsConn} (grown : s.serving.hub.outgoing p.conn <+: s'.serving.hub.outgoing p.conn)
      (same : s'.handed = s.handed) : s'.handed.map Prod.fst = (s'.sent p.conn).map Prod.snd := by
    rw [orderly.sent_eq grown same, same]
    exact orderly.handed
  have unsignalled {phase : LoopPhase} (here : s.loop = phase) (other : phase ≠ .signalled) :
      ∀ {Q : Prop}, s.loop = .signalled → Q := fun signalled => absurd (here.symm.trans signalled) other
  cases move with
  | serving outside taken =>
      have beside := Serving.Beside.of_step orderly.fresh outside taken
      refine ⟨fun running => beside.isOpen (orderly.isOpen running), grow beside.outgoing rfl, ?_, orderly.signalled,
        beside.fresh⟩
      exact fun signalled => beside.idle (orderly.idle signalled)
  | spawn message receiving =>
      exact ⟨orderly.isOpen, orderly.handed, unsignalled receiving (by simp), orderly.signalled,
        fun _ => orderly.fresh.next_insert⟩
  | skip => exact ⟨orderly.isOpen, orderly.handed, orderly.idle, orderly.signalled, orderly.fresh⟩
  | refuse receiving =>
      refine ⟨?_, grow Hub.outgoing_push_grows rfl, unsignalled receiving (by simp), orderly.signalled,
        fun _ => orderly.fresh.next_insert⟩
      exact fun running => Hub.isOpen_push.trans (orderly.isOpen running)
  | unheard receiving large closed =>
      -- The channel is open as long as the send task runs, and it runs as long as the loop receives.
      have running := orderly.running (by rw [receiving]; simp)
      exact absurd (orderly.isOpen running) closed
  | stopped receiving =>
      refine ⟨orderly.isOpen, orderly.handed, by simp, ?_, orderly.fresh⟩
      exact fun stopped => unsignalled receiving (by simp) (orderly.signalled stopped)
  | connectionClosed | disconnect | sendError => cases faultless
  | pendingCallsDone draining done =>
      exact ⟨orderly.isOpen, orderly.handed, fun _ => Serving.idle_of_pendingCallsDone done, fun _ => rfl, orderly.fresh⟩
  | senderGone draining gone => exact unsignalled draining (by simp) (orderly.signalled gone)
  | deliver text running next =>
      exact ⟨orderly.isOpen, handed_deliver orderly.handed next, orderly.idle, orderly.signalled, orderly.fresh⟩
  | undeliverable =>
      have running : SenderPhase.closing = .running := of_decide_eq_true faultless
      cases running
  | stopSending running signalled =>
      refine ⟨?_, orderly.handed, orderly.idle, fun _ => signalled, orderly.fresh⟩
      rintro ⟨⟩
  | closeChannel closing taken =>
      have move := Hub.move_of_step taken
      refine ⟨?_, grow move.outgoing_grows rfl, orderly.idle, ?_, orderly.fresh⟩
      · rintro ⟨⟩
      · exact fun _ => orderly.signalled (by rw [closing]; simp)

/-! ## No response is lost -/

/-- A message is on the channel, and the send task has not left it there. -/
def Kept (p : BackgroundTaskParams) (s : WsConn) (entry : Origin × RawText) : Prop :=
  entry ∈ s.serving.hub.outgoing p.conn ∧ (s.sender ≠ .running → entry ∈ s.sent p.conn)

theorem Kept.grow {entry : Origin × RawText} (kept : Kept p s entry) (orderly : Orderly p s)
    (grown : s.serving.hub.outgoing p.conn <+: s'.serving.hub.outgoing p.conn) (same : s'.handed = s.handed)
    (stopped : s'.sender ≠ .running → s.sender ≠ .running) : Kept p s' entry := by
  refine ⟨grown.subset kept.1, fun closing => ?_⟩
  rw [orderly.sent_eq grown same]
  exact kept.2 (stopped closing)

theorem Kept.of_move {entry : Origin × RawText} (kept : Kept p s entry) (orderly : Orderly p s)
    (faultless : isFaultless ⟨s, a, s'⟩ = true) (move : Move p s a s') : Kept p s' entry := by
  cases move with
  | serving outside taken =>
      exact kept.grow orderly (Serving.Beside.of_step orderly.fresh outside taken).outgoing rfl fun stopped => stopped
  | refuse => exact kept.grow orderly Hub.outgoing_push_grows rfl fun stopped => stopped
  | spawn | skip | unheard | stopped | pendingCallsDone | senderGone =>
      exact kept.grow orderly (List.prefix_refl _) rfl fun stopped => stopped
  | connectionClosed | disconnect | sendError => cases faultless
  | deliver text running => exact ⟨kept.1, fun stopped => absurd running stopped⟩
  | undeliverable =>
      have running : SenderPhase.closing = .running := of_decide_eq_true faultless
      cases running
  | stopSending running signalled empty =>
      -- The channel has been looked at first.
      refine ⟨kept.1, fun _ => ?_⟩
      rw [queue, ← List.map_drop, List.map_eq_nil_iff, List.drop_eq_nil_iff] at empty
      rw [sent, List.take_of_length_le empty]
      exact kept.1
  | closeChannel closing taken =>
      exact kept.grow orderly (Hub.move_of_step taken).outgoing_grows rfl fun _ => by rw [closing]; simp

/-- The response of the task `t` waits for its task, or is on the channel. -/
def Secured (p : BackgroundTaskParams) (s : WsConn) (t : TaskId) (rp : MethodResponse) : Prop :=
  s.serving.Produced p.conn t rp ∨ Kept p s (.task t, rp.json)

variable {t : TaskId} {rp : MethodResponse}

theorem Secured.of_move (secured : Secured p s t rp) (orderly : Orderly p s) (faultless : isFaultless ⟨s, a, s'⟩ = true)
    (move : Move p s a s') : Secured p s' t rp := by
  rcases secured with produced | kept
  · -- As long as there is an unfinished task, the send task is running.
    have unsignalled : s.loop ≠ .signalled := fun signalled => (orderly.idle signalled).not_produced produced
    have running := orderly.running unsignalled
    cases move with
    | serving outside taken =>
        have beside := Serving.Beside.of_step orderly.fresh outside taken
        rcases beside.produced (orderly.isOpen running) produced with still | pushed
        · exact .inl still
        · exact .inr ⟨pushed, fun stopped => absurd running stopped⟩
    | spawn | refuse =>
        obtain ⟨task, tooBig, found, state⟩ := produced
        exact .inl ⟨task, tooBig, orderly.fresh.lookup_insert found, state⟩
    | closeChannel closing => cases running.symm.trans closing
    | _ => exact .inl produced
  · exact .inr (kept.of_move orderly faultless move)

/-- What a run without faults keeps. -/
theorem later {ts : List (Transition WsConn WsAction)} (run : Run (step p) s ts s')
    (faultless : ∀ tr ∈ ts, isFaultless tr = true) (orderly : Orderly p s) :
    Orderly p s' ∧ (∀ t rp, Secured p s t rp → Secured p s' t rp) ∧ ∀ entry, Kept p s entry → Kept p s' entry := by
  refine run.invariant
    (fun s' => Orderly p s' ∧ (∀ t rp, Secured p s t rp → Secured p s' t rp) ∧ ∀ entry, Kept p s entry → Kept p s' entry)
    (fun tr => isFaultless tr = true) faultless ⟨orderly, fun _ _ secured => secured, fun _ kept => kept⟩ ?_
  rintro tr good ⟨orderly, secured, kept⟩ taken
  have move := move_of_step taken
  refine ⟨orderly.of_move good move, ?_, ?_⟩
  · exact fun t rp before => (secured t rp before).of_move orderly good move
  · exact fun entry before => (kept entry before).of_move orderly good move

/-! ## The connection is closed in the end -/

section Completes

variable (running : s.sender = .running)
include running

/-- The send task empties its channel when sending works. -/
theorem delivers (sendable : ∀ response ∈ s.queue p.conn,
      (sendMessage p.messageEncryption p.serverCfg.messageCryptoErrorPolicy response).isSome = true) :
    ∃ ts s', Run (step p) s ts s' ∧ (∀ tr ∈ ts, isFaultless tr = true) ∧ s'.sender = .running ∧ s'.loop = s.loop ∧
      s'.serving = s.serving ∧ s'.queue p.conn = [] := by
  induction waiting : s.queue p.conn generalizing s with
  | nil => exact ⟨[], s, .nil, by simp, running, rfl, rfl, waiting⟩
  | cons response rest ih =>
      rw [waiting] at sendable
      obtain ⟨text, sends⟩ := Option.isSome_iff_exists.mp (sendable response List.mem_cons_self)
      let s₁ : WsConn := { s with handed := s.handed ++ [(response, text)] }
      have taken : step p s .deliver = some s₁ := by
        simp only [step, running, waiting, sends]
        rw [← running]
      have shorter : s₁.queue p.conn = rest := by
        have tail := congrArg List.tail waiting
        rw [queue, List.tail_drop] at tail
        rw [queue, List.length_append, List.length_singleton]
        exact tail
      have still : ∀ response ∈ s₁.queue p.conn,
          (sendMessage p.messageEncryption p.serverCfg.messageCryptoErrorPolicy response).isSome = true := by
        intro response later
        rw [shorter] at later
        exact sendable response (List.mem_cons_of_mem _ later)
      obtain ⟨ts, s', run, faultless, now⟩ := @ih s₁ running still shorter
      have first : Run (step p) s [⟨s, .deliver, s₁⟩] s₁ := .snoc .nil taken
      refine ⟨_, s', first.trans run, List.forall_mem_append.mpr ⟨?_, faultless⟩, now⟩
      exact List.forall_mem_singleton.mpr (decide_eq_true running)

/-- The send task has been told to stop. -/
theorem ends (signalled : s.loop = .signalled) (empty : s.queue p.conn = []) :
    ∃ ts s', Run (step p) s ts s' ∧ (∀ tr ∈ ts, isFaultless tr = true) ∧ s'.sender = .closed := by
  let s₁ : WsConn := { s with sender := .closing }
  let hub := s.serving.hub.onConn p.conn fun c => { c with isOpen := false }
  let s₂ : WsConn := { s with sender := .closed, serving := { s.serving with hub } }
  have stops : step p s .stopSending = some s₁ := by
    simp only [step, running, signalled, empty]
    rw [← signalled]
  have closes : step p s₁ .closeChannel = some s₂ := by
    simp only [step, s₁, Hub.step, if_true, Option.map_some]
    rfl
  refine ⟨_, s₂, .snoc (.snoc .nil stops) closes, ?_, rfl⟩
  intro tr member
  simp only [List.nil_append, List.cons_append, List.mem_cons, List.not_mem_nil, or_false] at member
  rcases member with rfl | rfl <;> rfl

end Completes

/-- A call of an async method. -/
def sumRequest : Request := { id := .number 7, method := "sum", params := none }

end WsConn

end Server

end Jsonrpsee
