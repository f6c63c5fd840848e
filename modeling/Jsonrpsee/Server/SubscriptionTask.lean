import Jsonrpsee.Server.Answers

/-! # The tasks of subscriptions

A subscribe call spawns a task that runs the handler and sends a last message for
the subscription when the handler has returned. A oneshot of its own tells this
task that the subscription was accepted; the sender of it belongs to the subscribe
call, which waits for the sink. The task, the call, the handler and all other
senders of the connection take their steps in any order.
-/

namespace Jsonrpsee

namespace Server

/-- What to send when the handler has returned. -/
inductive SubscriptionCloseResponse where
  /-- No further message will be sent. -/
  | none
  /-- Send a subscription notification. -/
  | notif (msg : SubscriptionMessage)
  /-- Send a subscription error notification. -/
  | notifErr (err : RawValue)

def SubscriptionCloseResponse.json (subId : SubscriptionId) (method : String) :
    SubscriptionCloseResponse → Option RawText
  | .none => Option.none
  | .notif msg => some (subMessageToJson msg subId method)
  | .notifErr err => some (subErrToJson err subId method)

/-- The oneshot of `accepted_tx` and `accepted_rx`. -/
inductive Signal where
  | waiting
  | sent
  | dropped
  deriving Repr, DecidableEq

/-- The task that a subscribe call spawns. -/
structure SubscriptionTask where
  /-- The subscription as it was made. -/
  sub : Subscription
  /-- What the handler has returned. -/
  response : Option SubscriptionCloseResponse
  accepted : Signal
  finished : Bool

/-- All connections with their subscriptions. -/
structure Talk where
  hub : Hub
  tasks : Table SinkId SubscriptionTask

inductive TalkAction where
  /-- Subscribe calls, handlers and connections. -/
  | hub (a : HubAction)
  /-- The task of a received message sends its response. -/
  | respond (conn : ConnectionId) (t : Nat) (json : RawText)
  /-- The subscribe call gets the answer of its sink. -/
  | resume (n : SinkId)
  /-- The subscribe call is dropped while it waits. -/
  | abandon (n : SinkId)
  /-- The handler returns. -/
  | returns (n : SinkId) (response : SubscriptionCloseResponse)
  /-- The spawned task has both the result of the handler and the signal. -/
  | close (n : SinkId)

/-- If the subscription was accepted then send a message to the subscription task. -/
def Answer.signal : Answer → Signal
  | .sent rp => if rp.isSuccess then .sent else .dropped
  | .dropped => .dropped

namespace Talk

def new : Talk := { hub := .new, tasks := ∅ }

/-- The subscribe call of the sink waits. -/
def awaits (w : Talk) (n : SinkId) : Bool := (w.tasks.lookup n).any fun task => task.accepted = .waiting

/-- `accept` completes the subscribe call if it waits, and fails otherwise. -/
def admits (w : Talk) : HubAction → Bool
  | .acceptComplete n => w.awaits n
  | .acceptFail n => !w.awaits n
  | .connect _ | .close _ | .subscribe _ | .unsubscribe _ _ _ | .acceptSend _ | .acceptInsert _ | .rejectSend _ _
  | .rejectComplete _ | .dropPending _ | .release _ | .clone _ | .dropCheck _ | .dropRemove _ | .dropPermit _
  | .send _ _ => true

/-- A subscription that has been made comes with its task. -/
def spawn (w : Talk) (hub : Hub) : Talk :=
  match hub.subs.lookup w.hub.next with
  | some sub =>
      { hub, tasks := w.tasks.insert w.hub.next { sub, response := none, accepted := .waiting, finished := false } }
  | none => { w with hub }

/-- A step of the task that belongs to the sink `n`, or of its subscribe call. -/
def stepTask (w : Talk) (n : SinkId) (task : SubscriptionTask) : TalkAction → Option Talk
  | .resume _ =>
      match task.accepted, w.hub.answers.lookup n with
      | .waiting, some answer => some { w with tasks := w.tasks.insert n { task with accepted := answer.signal } }
      | _, _ => none
  | .abandon _ =>
      if task.accepted = .waiting then some { w with tasks := w.tasks.insert n { task with accepted := .dropped } }
      else none
  | .returns _ response =>
      if task.response.isNone then
        some { w with tasks := w.tasks.insert n { task with response := some response } }
      else none
  | .close _ =>
      match task.response, task.accepted, task.finished with
      | some response, .sent, false =>
          let tasks := w.tasks.insert n { task with finished := true }
          match response.json task.sub.uniqSub.subId task.sub.notif with
          | some json => some { hub := w.hub.push task.sub.uniqSub.connId (.sink n) json, tasks }
          | none => some { w with tasks }
      | _, _, _ => none
  | .hub _ | .respond _ _ _ => none

def step (cfg : ServerConfig) (w : Talk) (a : TalkAction) : Option Talk :=
  match a with
  | .hub a => if w.admits a then (w.hub.step cfg a).map w.spawn else none
  | .respond conn t json => some { w with hub := w.hub.push conn (.task t) json }
  | .resume n | .abandon n | .returns n _ | .close n => (w.tasks.lookup n).bind fun task => w.stepTask n task a

/-- What a step can do. -/
inductive Move (cfg : ServerConfig) (w : Talk) : TalkAction → Talk → Prop where
  | hub {a : HubAction} {hub : Hub} (move : Hub.Move cfg w.hub a hub) : Move cfg w (.hub a) (w.spawn hub)
  | respond {conn : ConnectionId} {t : Nat} {json : RawText} :
      Move cfg w (.respond conn t json) { w with hub := w.hub.push conn (.task t) json }
  | resume {n : SinkId} {task : SubscriptionTask} {answer : Answer} (found : w.tasks.lookup n = some task)
      (given : w.hub.answers.lookup n = some answer) :
      Move cfg w (.resume n) { w with tasks := w.tasks.insert n { task with accepted := answer.signal } }
  | abandon {n : SinkId} {task : SubscriptionTask} (found : w.tasks.lookup n = some task) :
      Move cfg w (.abandon n) { w with tasks := w.tasks.insert n { task with accepted := .dropped } }
  | returns {n : SinkId} {task : SubscriptionTask} {response : SubscriptionCloseResponse}
      (found : w.tasks.lookup n = some task) :
      Move cfg w (.returns n response) { w with tasks := w.tasks.insert n { task with response := some response } }
  | close {n : SinkId} {task : SubscriptionTask} {response : SubscriptionCloseResponse} {json : RawText}
      (found : w.tasks.lookup n = some task) (returned : task.response = some response) (accepted : task.accepted = .sent)
      (composed : response.json task.sub.uniqSub.subId task.sub.notif = some json) :
      Move cfg w (.close n)
        { hub := w.hub.push task.sub.uniqSub.connId (.sink n) json
          tasks := w.tasks.insert n { task with finished := true } }
  | finish {n : SinkId} {task : SubscriptionTask} (found : w.tasks.lookup n = some task) :
      Move cfg w (.close n) { w with tasks := w.tasks.insert n { task with finished := true } }

theorem move_of_step {cfg : ServerConfig} {w w' : Talk} {a : TalkAction} (taken : step cfg w a = some w') :
    Move cfg w a w' := by
  cases a with
  | hub a =>
      obtain ⟨-, taken⟩ := Option.ite_none_right_eq_some.mp taken
      obtain ⟨hub, moved, rfl⟩ := Option.map_eq_some_iff.mp taken
      exact .hub (Hub.move_of_step moved)
  | respond conn t json =>
      cases taken
      exact .respond
  | resume n =>
      obtain ⟨task, found, taken⟩ := Option.bind_eq_some_iff.mp taken
      simp only [stepTask] at taken
      split at taken
      · rename_i given
        cases taken
        exact .resume found given
      · cases taken
  | abandon n =>
      obtain ⟨task, found, taken⟩ := Option.bind_eq_some_iff.mp taken
      obtain ⟨-, taken⟩ := Option.ite_none_right_eq_some.mp taken
      cases taken
      exact .abandon found
  | returns n response =>
      obtain ⟨task, found, taken⟩ := Option.bind_eq_some_iff.mp taken
      obtain ⟨-, taken⟩ := Option.ite_none_right_eq_some.mp taken
      cases taken
      exact .returns found
  | close n =>
      obtain ⟨task, found, taken⟩ := Option.bind_eq_some_iff.mp taken
      simp only [stepTask] at taken
      split at taken
      · rename_i returned accepted _
        split at taken <;> cases taken
        · exact .close found returned accepted ‹_›
        · exact .finish found
      · cases taken

end Talk

/-! ## Stages, precisely -/

namespace Stage

/-- `accept` has completed the subscribe call with a success. -/
def isGranted : Stage → Bool
  | .completed rp => rp.isSuccess
  | .accepted _ _ _ => true
  | .pending | .responded _ | .rejected _ | .released => false

/-- The sink was rejected or dropped, or `accept` has failed. -/
def isFailed : Stage → Bool
  | .rejected _ | .released => true
  | .pending | .responded _ | .completed _ | .accepted _ _ _ => false

/-- How a step changes the stage of a subscription and the answer to its call. The
    response of `accept` is on the channel then (`told`). -/
inductive Turn (response : MethodResponse) (told : Prop) :
    Stage → Option Answer → Option Stage → Option Answer → Prop where
  | stay {stage answer} : Turn response told stage answer (some stage) answer
  | respond {answer} (is : told) : Turn response told .pending answer (some (.responded response)) answer
  | reject {answer rp} (error : rp.isSuccess = false) : Turn response told .pending answer (some (.rejected rp)) answer
  | drop {answer} : Turn response told .pending answer (some .released) (some .dropped)
  | complete {answer rp} : Turn response told (.responded rp) answer (some (.completed rp)) (some (.sent rp))
  | fail {answer rp} : Turn response told (.responded rp) answer (some .released) (some .dropped)
  | insert {answer rp} (success : rp.isSuccess = true) :
      Turn response told (.completed rp) answer (some (.accepted 1 0 0)) answer
  | panic {answer rp} (error : rp.isSuccess = false) :
      Turn response told (.completed rp) answer (some .released) answer
  | rejected {answer rp} : Turn response told (.rejected rp) answer (some .released) (some (.sent rp))
  | release {answer} : Turn response told .released answer none answer
  | clones {answer handles leaving left handles' leaving' left'} :
      Turn response told (.accepted handles leaving left) answer (some (.accepted handles' leaving' left')) answer
  | leave {answer handles leaving left} : Turn response told (.accepted handles leaving left) answer none answer

end Stage

namespace Hub

variable {cfg : ServerConfig} {h h' : Hub} {n : SinkId} {s s' : Subscription} {a : HubAction}

/-- The response of `accept` is on the channel. -/
def Announces (cfg : ServerConfig) (h : Hub) (n : SinkId) (s : Subscription) : Prop :=
  (Origin.accept n, (s.acceptResponse cfg).json) ∈ h.outgoing s.uniqSub.connId

/-- The stage of a subscription has been written. -/
theorem turn_of_insert {stage : Stage} (subs : h'.subs = h.subs.insert n { s with stage })
    (turn : s.stage.Turn (s.acceptResponse cfg) (h'.Announces cfg n s) (h.answers.lookup n) (some stage)
      (h'.answers.lookup n)) :
    s.stage.Turn (s.acceptResponse cfg) (h'.Announces cfg n s) (h.answers.lookup n)
      ((h'.subs.lookup n).map Subscription.stage) (h'.answers.lookup n) := by
  rw [subs, Table.lookup_insert_ite, if_pos rfl]
  exact turn

/-- The answer to the call has been given as well. -/
theorem turn_of_answer {stage : Stage} {given : Answer}
    (turn : s.stage.Turn (s.acceptResponse cfg) (((h.answer n given).advance n s stage).Announces cfg n s)
      (h.answers.lookup n) (some stage) (some given)) :
    s.stage.Turn (s.acceptResponse cfg) (((h.answer n given).advance n s stage).Announces cfg n s)
      (h.answers.lookup n) ((((h.answer n given).advance n s stage).subs.lookup n).map Subscription.stage)
      (((h.answer n given).advance n s stage).answers.lookup n) := by
  refine turn_of_insert rfl ?_
  simp only [advance, answer, Table.lookup_insert_ite, if_true]
  exact turn

/-- What a step does to one subscription. -/
theorem Move.turn (move : Move cfg h a h') (sound : Sound cfg h) (found : h.subs.lookup n = some s) :
    s.stage.Turn (s.acceptResponse cfg) (h'.Announces cfg n s) (h.answers.lookup n)
      ((h'.subs.lookup n).map Subscription.stage) (h'.answers.lookup n) := by
  by_cases acts : a.sink = some n
  case neg =>
    have old : n < h.next := by
      by_contra late
      cases found.symm.trans (sound.fresh (Nat.le_of_not_lt late))
    rw [move.subs_of_ne old acts, move.answers_of_ne acts, found]
    exact .stay
  case pos =>
    -- The step finds the same subscription.
    have same : ∀ {s₁}, h.subs.lookup n = some s₁ → s₁ = s := fun found₁ => Option.some.inj (found₁.symm.trans found)
    cases move with
    | connect | close | subscribe | unsubscribe | refuse => cases acts
    | respond found₁ stage up =>
        cases acts
        obtain rfl := same found₁
        refine turn_of_insert (advance_push_subs ..) ?_
        simp only [advance, push_answers, stage]
        refine .respond ?_
        show _ ∈ (h.push _ _ _).outgoing _
        rw [outgoing_push, if_pos ⟨rfl, up⟩]
        exact List.mem_append_right _ List.mem_cons_self
    | reject found₁ stage =>
        cases acts
        obtain rfl := same found₁
        refine turn_of_insert (advance_push_subs ..) ?_
        simp only [advance, push_answers, stage]
        exact .reject rfl
    | send =>
        cases acts
        rw [push_subs, push_answers, found]
        exact .stay
    | unsent =>
        cases acts
        rw [found]
        exact .stay
    | release found₁ stage =>
        cases acts
        obtain rfl := same found₁
        simp only [Hub.free, onConn_subs, onConn_answers, Table.lookup_erase_ite, if_true, Option.map_none, stage]
        exact .release
    | dropLast found₁ stage =>
        cases acts
        obtain rfl := same found₁
        simp only [Hub.free, onConn_subs, onConn_answers, Table.lookup_erase_ite, if_true, Option.map_none, stage]
        exact .leave
    | disconnected found₁ stage | drop found₁ stage =>
        cases acts
        obtain rfl := same found₁
        exact turn_of_answer (stage ▸ .drop)
    | complete found₁ stage =>
        cases acts
        obtain rfl := same found₁
        exact turn_of_answer (stage ▸ .complete)
    | fail found₁ stage =>
        cases acts
        obtain rfl := same found₁
        exact turn_of_answer (stage ▸ .fail)
    | rejected found₁ stage =>
        cases acts
        obtain rfl := same found₁
        exact turn_of_answer (stage ▸ .rejected)
    | insert found₁ stage success =>
        cases acts
        obtain rfl := same found₁
        exact turn_of_insert rfl (stage ▸ .insert success)
    | panics found₁ stage failed =>
        cases acts
        obtain rfl := same found₁
        exact turn_of_insert rfl (stage ▸ .panic failed)
    | clone found₁ stage | checkActive found₁ stage | checkClosed found₁ stage | remove found₁ stage
    | dropShare found₁ stage =>
        cases acts
        obtain rfl := same found₁
        exact turn_of_insert rfl (stage ▸ .clones)

/-- The same for a subscription that is still there. -/
theorem Move.turns (move : Move cfg h a h') (sound : Sound cfg h) (found' : h'.subs.lookup n = some s') :
    n = h.next ∧ s'.stage = .pending ∨
    ∃ s stage, h.subs.lookup n = some s ∧ s' = { s with stage } ∧
      s.stage.Turn (s.acceptResponse cfg) (h'.Announces cfg n s) (h.answers.lookup n) (some stage)
        (h'.answers.lookup n) := by
  rcases move.before found' with ⟨s, stage, found, rfl, -⟩ | new
  · have turn := move.turn sound found
    rw [found', Option.map_some] at turn
    exact .inr ⟨s, stage, found, rfl, turn⟩
  · exact .inl new

/-- What a sink has on a channel was there before, or the step has sent it. -/
theorem Move.sink_outgoing (move : Move cfg h a h') {conn : ConnectionId} {json : RawText}
    (sent : (Origin.sink n, json) ∈ h'.outgoing conn) :
    (Origin.sink n, json) ∈ h.outgoing conn ∨
    ∃ s msg, a = .send n msg ∧ h.subs.lookup n = some s ∧ h.isClosed n s = false ∧
      json = subMessageToJson msg s.uniqSub.subId s.notif := by
  rcases move.outgoing conn with same | ⟨m, s, origin, json', -, found, -, grown, cases⟩
  · rw [same] at sent
    exact .inl sent
  · rw [grown] at sent
    rcases List.mem_append.mp sent with before | last
    · exact .inl before
    · cases List.mem_singleton.mp last
      rcases cases with ⟨other, -⟩ | other | ⟨own, up, msg, acts, composed⟩
      · cases other
      · cases other
      · cases own
        exact .inr ⟨s, msg, acts, found, up, composed⟩

theorem mem_outgoing_push {conn conn' : ConnectionId} {origin : Origin} {json : RawText} {entry : Origin × RawText}
    (sent : entry ∈ (h.push conn origin json).outgoing conn') : entry ∈ h.outgoing conn' ∨ entry = (origin, json) := by
  rw [outgoing_push] at sent
  rcases List.mem_append.mp sent with before | last
  · exact .inl before
  · split at last
    · exact .inr (List.mem_singleton.mp last)
    · cases last

/-- Only accepted sinks are open. -/
theorem Sound.granted (sound : Sound cfg h) (found : h.subs.lookup n = some s) (up : h.isClosed n s = false) :
    s.stage.isGranted = true := by
  rw [isClosed, Bool.or_eq_false_iff, Bool.not_eq_false', Bool.not_eq_false'] at up
  obtain ⟨s₁, handles, leaving, found₁, -, -, stage, -⟩ := sound.table (of_decide_eq_true up.2)
  obtain rfl := Option.some.inj (found₁.symm.trans found)
  rw [stage]
  rfl

end Hub

theorem Stage.Turn.granted {response : MethodResponse} {told : Prop} {stage stage' : Stage}
    {answer answer' : Option Answer} (turn : stage.Turn response told answer (some stage') answer')
    (granted : stage.isGranted = true) : stage'.isGranted = true := by
  cases turn with
  | stay => exact granted
  | insert | clones => rfl
  | panic error => cases error.symm.trans granted
  | _ => cases granted

theorem Stage.Turn.failed {response : MethodResponse} {told : Prop} {stage stage' : Stage}
    {answer answer' : Option Answer} (turn : stage.Turn response told answer (some stage') answer')
    (failed : stage.isFailed = true) : stage'.isFailed = true := by
  cases turn with
  | stay => exact failed
  | rejected => rfl
  | _ => cases failed

theorem Stage.not_granted {stage : Stage} (failed : stage.isFailed = true) : stage.isGranted = false := by
  cases stage with
  | rejected | released => rfl
  | _ => cases failed

end Server

end Jsonrpsee
