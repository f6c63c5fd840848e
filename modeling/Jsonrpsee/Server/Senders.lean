import Jsonrpsee.Server.Responses

/-! # Whose message it is

Every sink belongs to the one task whose subscribe call has made it, and every
message on the channel of a connection has been put there by a task of that
connection or by one of its sinks.
-/

namespace Jsonrpsee

namespace Server

/-- Messages of the task `t` and of its sinks, notifications included. -/
def Task.sends (task : Task) (t : TaskId) : Origin → Bool
  | .task u => u = t
  | .accept n | .reject n | .sink n => n ∈ task.sinks

/-- What a task does to the channels and to the sinks. -/
inductive Task.Talks (h : Hub) (t : TaskId) (task : Task) (h' : Hub) (task' : Task) : Prop where
  | silent (subs : h'.subs = h.subs) (next : h'.next = h.next)
      (outgoing : ∀ conn, h'.outgoing conn = h.outgoing conn) (sinks : task'.sinks = task.sinks)
  | push (rp : MethodResponse) (tooBig : Bool) (state : task.state = .sending rp tooBig)
      (loud : (rp.isMethodCall || rp.isBatch) = true) (hub : h' = h.push task.conn (.task t) rp.json)
      (after : task' = { task with state := .done tooBig })
  | subscribe (call : SubscribeCall) (conn : call.connId = task.conn) (hub : h' = h.enlist call)
      (sinks : task'.sinks = task.sinks ++ [h.next]) (req : Request) (extensions : Extensions) (rest : Option Loop)
      (state : task.state = .calling req extensions rest)

namespace Task

variable {service : Service} {h h' : Hub} {t : TaskId} {task task' : Task}

theorem unsubscribe_outgoing (h : Hub) (connId : ConnectionId) (method : MethodId) (params : Option RawValue)
    (conn : ConnectionId) : (h.unsubscribe connId method params).2.outgoing conn = h.outgoing conn := by
  unfold Hub.unsubscribe
  split <;> rfl

theorem outgoing_enlist (h : Hub) (call : SubscribeCall) (conn : ConnectionId) :
    (h.enlist call).outgoing conn = h.outgoing conn :=
  Hub.outgoing_onConn _ _ (by intros; rfl) _

theorem talks_of_call {req : Request} {extensions : Extensions} {rest : Option Loop} {result : Result}
    {subId : SubscriptionId} (state : task.state = .calling req extensions rest)
    (called : service.call h task req extensions rest result subId = (h', task')) : Talks h t task h' task' := by
  unfold Service.call at called
  dsimp only at called
  split at called
  · cases called
    exact .silent rfl rfl (fun _ => rfl) rfl
  · cases called
    exact .silent rfl rfl (fun _ => rfl) rfl
  · cases called
    exact .silent rfl rfl (fun _ => rfl) rfl
  · cases called
    exact .silent rfl rfl (fun _ => rfl) rfl
  · split at called
    · rename_i admitted
      cases called
      obtain ⟨-, rfl, rfl⟩ := move_of_subscribe admitted
      exact .subscribe _ rfl rfl rfl req extensions rest state
    · cases called
      exact .silent rfl rfl (fun _ => rfl) rfl
  · rename_i method _
    cases called
    refine .silent ?_ ?_ (unsubscribe_outgoing h task.conn method req.params) rfl
    · unfold Hub.unsubscribe
      split <;> rfl
    · unfold Hub.unsubscribe
      split <;> rfl

theorem talks_of_stepTask {a : TaskAction} (taken : service.stepTask h t task a = some (h', task')) :
    Talks h t task h' task' := by
  unfold Service.stepTask at taken
  split at taken
  · exact talks_of_call ‹_› (Option.some.inj taken)
  · cases taken
    exact .silent rfl rfl (fun _ => rfl) rfl
  · cases taken
    exact .silent rfl rfl (fun _ => rfl) rfl
  · obtain ⟨answer, -, same⟩ := Option.map_eq_some_iff.mp taken
    cases same
    exact .silent rfl rfl (fun _ => rfl) rfl
  · split at taken <;> cases taken <;> exact .silent rfl rfl (fun _ => rfl) rfl
  · cases taken
    exact .silent rfl rfl (fun _ => rfl) rfl
  · rename_i state
    split at taken <;> rename_i loud <;> cases taken
    · exact .push _ _ state loud rfl rfl
    · exact .silent rfl rfl (fun _ => rfl) rfl
  · split at taken <;> cases taken
    exact .silent rfl rfl (fun _ => rfl) rfl
  · cases taken
    exact .silent rfl rfl (fun _ => rfl) rfl
  · cases taken

theorem Talks.next_le (talks : Talks h t task h' task') : h.next ≤ h'.next := by
  cases talks with
  | silent _ next => exact Nat.le_of_eq next.symm
  | push rp tooBig state loud hub =>
      rw [hub, Hub.push_next]
  | subscribe call conn hub =>
      rw [hub]
      simp only [Hub.enlist, Hub.onConn_next]
      exact Nat.le_succ _

/-- The sinks a task has made so far stay its own, and new ones are new. -/
theorem Talks.mem_sinks (talks : Talks h t task h' task') {n : SinkId} :
    n ∈ task'.sinks ↔ n ∈ task.sinks ∨ n = h.next ∧ h.next < h'.next := by
  cases talks with
  | silent _ next _ sinks => simp [sinks, next]
  | push rp tooBig state loud hub after => simp [hub, after]
  | subscribe call conn hub sinks => simp [sinks, hub, Hub.enlist]

end Task

namespace Serving

variable {service : Service} {w w' : Serving} {ts : List (Transition Serving ServingAction)} {t : TaskId} {task : Task}

/-- A task is as old as its message. -/
theorem task_of_step {a : ServingAction} (taken : w.step service a = some w') (found' : w'.tasks.lookup t = some task) :
    (∃ before, w.tasks.lookup t = some before ∧ before.conn = task.conn ∧ before.message = task.message ∧
        ∀ n ∈ before.sinks, n ∈ task.sinks) ∨
      t = w.next ∧ ∃ data extensions, a = .receive task.conn data extensions ∧
        task.message = service.read data extensions := by
  cases a with
  | hub a =>
      simp only [step] at taken
      obtain ⟨-, taken⟩ := Option.ite_none_right_eq_some.mp taken
      obtain ⟨hub, -, rfl⟩ := Option.map_eq_some_iff.mp taken
      exact .inl ⟨task, found', rfl, rfl, fun _ member => member⟩
  | receive conn data extensions =>
      simp only [step] at taken
      obtain ⟨-, taken⟩ := Option.ite_none_right_eq_some.mp taken
      obtain rfl := Option.some.inj taken
      rw [Table.lookup_insert_ite] at found'
      split at found'
      · rename_i new
        obtain rfl := Option.some.inj found'
        exact .inr ⟨new, data, extensions, rfl, rfl⟩
      · exact .inl ⟨task, found', rfl, rfl, fun _ member => member⟩
  | task u a =>
      obtain ⟨before, found, taken⟩ := Option.bind_eq_some_iff.mp taken
      obtain ⟨⟨hub, after⟩, moved, rfl⟩ := Option.map_eq_some_iff.mp taken
      obtain ⟨sameConn, sameMessage, -⟩ := Task.stepTask_effect moved
      rw [Table.lookup_insert_ite] at found'
      split at found'
      · rename_i same
        obtain rfl := Option.some.inj found'
        rw [same]
        exact .inl ⟨before, found, sameConn.symm, sameMessage.symm,
          fun n member => (Task.talks_of_stepTask moved).mem_sinks.mpr (.inl member)⟩
      · exact .inl ⟨task, found', rfl, rfl, fun _ member => member⟩

/-- Which sinks and messages the tasks have. -/
structure Staffed (w : Serving) : Prop where
  next : ∀ {t task}, w.tasks.lookup t = some task → t < w.next
  old : ∀ {t task n}, w.tasks.lookup t = some task → n ∈ task.sinks → n < w.hub.next
  sole : ∀ {t task u task' n}, w.tasks.lookup t = some task → w.tasks.lookup u = some task' → n ∈ task.sinks →
    n ∈ task'.sinks → t = u
  subs : ∀ {n s}, w.hub.subs.lookup n = some s →
    ∃ t task, w.tasks.lookup t = some task ∧ task.conn = s.uniqSub.connId ∧ n ∈ task.sinks
  messages : ∀ {conn message}, message ∈ w.hub.outgoing conn →
    ∃ t task, w.tasks.lookup t = some task ∧ task.conn = conn ∧ task.sends t message.1 = true

theorem Staffed.new : Staffed .new where
  next found := by cases found
  old found := by cases found
  sole found := by cases found
  subs found := by cases found
  messages member := by cases member

/-- Only tasks make sinks. -/
theorem next_of_free {cfg : ServerConfig} {h h' : Hub} {a : HubAction} (move : Hub.Move cfg h a h')
    (free : a.isFree h = true) : h'.next = h.next := by
  cases move with
  | refuse | subscribe | unsubscribe => cases free
  | close | send | respond | reject | release | dropLast =>
      simp only [Hub.advance, Hub.free, Hub.onConn_next, Hub.push_next]
  | _ => rfl

theorem Staffed.of_hub (staffed : Staffed w) (sound : Hub.Sound service.cfg w.hub) {a : HubAction} {hub : Hub}
    (free : a.isFree w.hub = true) (taken : w.hub.step service.cfg a = some hub) : Staffed { w with hub } := by
  have move := Hub.move_of_step taken
  have next := next_of_free move free
  have known : ∀ {n s}, w.hub.subs.lookup n = some s →
      ∃ t task, w.tasks.lookup t = some task ∧ task.conn = s.uniqSub.connId ∧ n ∈ task.sinks := staffed.subs
  refine ⟨staffed.next, ?_, staffed.sole, ?_, ?_⟩
  · intro t task n found member
    exact Nat.lt_of_lt_of_le (staffed.old found member) move.next_le
  · intro n s found
    have found : hub.subs.lookup n = some s := found
    rcases move.before found with ⟨before, stage, was, rfl, -⟩ | ⟨new, -⟩
    · obtain ⟨t, task, found, here, own⟩ := known was
      exact ⟨t, task, found, here, own⟩
    · have gone := (sound.of_move move).fresh (Nat.le_of_eq (new ▸ next))
      cases found.symm.trans gone
  · intro conn message member
    rcases move.outgoing conn with same | ⟨n, s, origin, json, acts, found, here, grown, cases⟩
    · rw [same] at member
      exact staffed.messages member
    · rw [grown] at member
      rcases List.mem_append.mp member with earlier | last
      · exact staffed.messages earlier
      · obtain rfl := List.mem_singleton.mp last
        obtain ⟨t, task, found, conn', own⟩ := known found
        refine ⟨t, task, found, conn'.trans here, ?_⟩
        rcases cases with ⟨rfl, -⟩ | rfl | ⟨rfl, -⟩ <;> exact decide_eq_true own

theorem Staffed.of_receive (staffed : Staffed w) {conn : ConnectionId} {data : List UInt8} {extensions : Extensions}
    (taken : w.step service (.receive conn data extensions) = some w') : Staffed w' := by
  simp only [step] at taken
  obtain ⟨-, taken⟩ := Option.ite_none_right_eq_some.mp taken
  obtain rfl := Option.some.inj taken
  obtain ⟨next, old, sole, subs, messages⟩ := staffed
  have kept : ∀ {t task} {task' : Task}, w.tasks.lookup t = some task →
      (w.tasks.insert w.next task').lookup t = some task := by
    intro t task task' found
    rw [Table.lookup_insert_ite, if_neg (Nat.ne_of_lt (next found)), found]
  constructor
  · intro t task found
    rw [Table.lookup_insert_ite] at found
    split at found
    · rename_i new
      rw [new]
      exact Nat.lt_succ_self _
    · exact Nat.lt_succ_of_lt (next found)
  · intro t task n found member
    rw [Table.lookup_insert_ite] at found
    split at found
    · obtain rfl := Option.some.inj found
      cases member
    · exact old found member
  · intro t task u task' n found found' member member'
    rw [Table.lookup_insert_ite] at found found'
    split at found
    · obtain rfl := Option.some.inj found
      cases member
    · split at found'
      · obtain rfl := Option.some.inj found'
        cases member'
      · exact sole found found' member member'
  · intro n s found
    obtain ⟨t, task, found, here, own⟩ := subs found
    exact ⟨t, task, kept found, here, own⟩
  · intro conn' message member
    obtain ⟨t, task, found, here, own⟩ := messages member
    exact ⟨t, task, kept found, here, own⟩

theorem Staffed.of_task (staffed : Staffed w) {a : TaskAction} (found : w.tasks.lookup t = some task) {hub : Hub}
    {task' : Task} (taken : service.stepTask w.hub t task a = some (hub, task')) :
    Staffed { w with hub, tasks := w.tasks.insert t task' } := by
  have talks := Task.talks_of_stepTask taken
  obtain ⟨sameConn, -, -⟩ := Task.stepTask_effect taken
  obtain ⟨next, old, sole, subs, messages⟩ := staffed
  -- The task has the sinks it had, and what the others have is as it was.
  have grown : ∀ {n}, n ∈ task.sinks → n ∈ task'.sinks := fun member => talks.mem_sinks.mpr (.inl member)
  have kept : ∀ {u task₁}, w.tasks.lookup u = some task₁ →
      ∃ task₂, (w.tasks.insert t task').lookup u = some task₂ ∧ task₂.conn = task₁.conn ∧
        ∀ n ∈ task₁.sinks, n ∈ task₂.sinks := by
    intro u task₁ found₁
    by_cases same : u = t
    · subst same
      obtain rfl := Option.some.inj (found.symm.trans found₁)
      exact ⟨task', by rw [Table.lookup_insert_ite, if_pos rfl], sameConn, fun _ => grown⟩
    · exact ⟨task₁, by rw [Table.lookup_insert_ite, if_neg same, found₁], rfl, fun _ member => member⟩
  have sends : ∀ {u} {task₁ task₂ : Task} {origin}, (∀ n ∈ task₁.sinks, n ∈ task₂.sinks) →
      task₁.sends u origin = true → task₂.sends u origin = true := by
    intro u task₁ task₂ origin more own
    cases origin with
    | task v => exact own
    | accept n | reject n | sink n => exact decide_eq_true (more n (of_decide_eq_true own))
  have mine : ∀ {u task₁}, (w.tasks.insert t task').lookup u = some task₁ →
      u = t ∧ task₁ = task' ∨ u ≠ t ∧ w.tasks.lookup u = some task₁ := by
    intro u task₁ found₁
    rw [Table.lookup_insert_ite] at found₁
    split at found₁
    · exact .inl ⟨‹_›, (Option.some.inj found₁).symm⟩
    · exact .inr ⟨‹_›, found₁⟩
  -- A new sink is nobody else's.
  have others : ∀ {u task₁ n}, u ≠ t → w.tasks.lookup u = some task₁ → n ∈ task₁.sinks → n ∉ task'.sinks := by
    intro u task₁ n other found₁ member member'
    rcases talks.mem_sinks.mp member' with before | ⟨rfl, -⟩
    · exact other (sole found₁ found member before)
    · exact Nat.lt_irrefl _ (old found₁ member)
  constructor
  · intro u task₁ found₁
    rcases mine found₁ with ⟨rfl, -⟩ | ⟨-, found₁⟩
    · exact next found
    · exact next found₁
  · intro u task₁ n found₁ member
    rcases mine found₁ with ⟨-, rfl⟩ | ⟨-, found₁⟩
    · rcases talks.mem_sinks.mp member with before | ⟨rfl, new⟩
      · exact Nat.lt_of_lt_of_le (old found before) talks.next_le
      · exact new
    · exact Nat.lt_of_lt_of_le (old found₁ member) talks.next_le
  · intro u task₁ v task₂ n found₁ found₂ member₁ member₂
    rcases mine found₁ with ⟨rfl, rfl⟩ | ⟨other₁, before₁⟩ <;> rcases mine found₂ with ⟨rfl, rfl⟩ | ⟨other₂, before₂⟩
    · rfl
    · exact (others other₂ before₂ member₂ member₁).elim
    · exact (others other₁ before₁ member₁ member₂).elim
    · exact sole before₁ before₂ member₁ member₂
  · intro n s there
    have before : w.hub.subs.lookup n = some s ∨ s.uniqSub.connId = task.conn ∧ n ∈ task'.sinks := by
      cases talks with
      | silent same =>
          rw [← same]
          exact .inl there
      | push rp tooBig state loud hub =>
          rw [hub, Hub.push_subs] at there
          exact .inl there
      | subscribe call conn hub sinks =>
          rw [hub] at there
          simp only [Hub.enlist, Hub.onConn_subs, Hub.onConn_next, Table.lookup_insert_ite] at there
          split at there
          · rename_i new
            obtain rfl := Option.some.inj there
            exact .inr ⟨conn, by rw [sinks, new]; simp⟩
          · exact .inl there
    rcases before with there | ⟨here, new⟩
    · obtain ⟨u, task₁, found₁, here, own⟩ := subs there
      obtain ⟨task₂, found₂, sameConn, more⟩ := kept found₁
      exact ⟨u, task₂, found₂, sameConn.trans here, more n own⟩
    · exact ⟨t, task', by rw [Table.lookup_insert_ite, if_pos rfl], sameConn.trans here.symm, new⟩
  · intro conn message member
    have before : message ∈ w.hub.outgoing conn ∨ conn = task.conn ∧ message.1 = .task t := by
      cases talks with
      | silent _ _ same =>
          rw [same] at member
          exact .inl member
      | push rp tooBig state loud hub =>
          rw [hub, Hub.outgoing_push] at member
          rcases List.mem_append.mp member with earlier | last
          · exact .inl earlier
          · split at last
            · rename_i here
              obtain rfl := List.mem_singleton.mp last
              exact .inr ⟨here.1, rfl⟩
            · cases last
      | subscribe call conn hub =>
          rw [hub, Task.outgoing_enlist] at member
          exact .inl member
    rcases before with earlier | ⟨here, mine⟩
    · obtain ⟨u, task₁, found₁, here, own⟩ := messages earlier
      obtain ⟨task₂, found₂, sameConn, more⟩ := kept found₁
      exact ⟨u, task₂, found₂, sameConn.trans here, sends more own⟩
    · refine ⟨t, task', by rw [Table.lookup_insert_ite, if_pos rfl], sameConn.trans here.symm, ?_⟩
      rw [mine]
      exact decide_eq_true rfl

theorem staffed (run : Run (step service) .new ts w) : Staffed w := by
  induction run with
  | nil => exact .new
  | @snoc ts w a w' earlier taken ih =>
      cases a with
      | hub a =>
          simp only [step] at taken
          obtain ⟨free, taken⟩ := Option.ite_none_right_eq_some.mp taken
          obtain ⟨hub, moved, rfl⟩ := Option.map_eq_some_iff.mp taken
          exact ih.of_hub (balanced earlier).sound free moved
      | receive conn data extensions => exact ih.of_receive taken
      | task t a =>
          obtain ⟨task, found, taken⟩ := Option.bind_eq_some_iff.mp taken
          obtain ⟨⟨hub, task'⟩, moved, rfl⟩ := Option.map_eq_some_iff.mp taken
          exact ih.of_task found moved

end Serving

end Server

end Jsonrpsee
