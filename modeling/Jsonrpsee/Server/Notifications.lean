import Jsonrpsee.Server.SubscriptionTask

/-! # The messages of a subscription

A sink talks only behind the response that announces it, and one that was not
accepted never talks. The handler gets its sink from a successful `accept` only,
and the task that sends the last message waits for a signal that goes back to the
same response.
-/

namespace Jsonrpsee

namespace Server

/-! ## Who may talk -/

namespace Hub

/-- What the stage of a subscription says about the channel. -/
def StageOk (cfg : ServerConfig) (h : Hub) (n : SinkId) (s : Subscription) : Stage → Prop
  | .pending | .released => True
  | .rejected rp => rp.isSuccess = false
  | .responded rp | .completed rp => rp = s.acceptResponse cfg ∧ h.Announces cfg n s
  | .accepted _ _ _ => (s.acceptResponse cfg).isSuccess = true ∧ h.Announces cfg n s

variable {cfg : ServerConfig} {h h' : Hub} {n : SinkId} {s : Subscription}

theorem Announces.grow (announces : h.Announces cfg n s) (grown : ∀ {conn}, h.outgoing conn <+: h'.outgoing conn) :
    h'.Announces cfg n s := grown.subset announces

theorem StageOk.grow {stage : Stage} (ok : h.StageOk cfg n s stage)
    (grown : ∀ {conn}, h.outgoing conn <+: h'.outgoing conn) : h'.StageOk cfg n s stage := by
  cases stage with
  | pending | released | rejected => exact ok
  | responded | completed | accepted => exact ⟨ok.1, ok.2.grow grown⟩

theorem StageOk.turn {stage stage' : Stage} {answer answer' : Option Answer} (ok : h.StageOk cfg n s stage)
    (grown : ∀ {conn}, h.outgoing conn <+: h'.outgoing conn)
    (turn : stage.Turn (s.acceptResponse cfg) (h'.Announces cfg n s) answer (some stage') answer') :
    h'.StageOk cfg n s stage' := by
  cases turn with
  | stay => exact ok.grow grown
  | respond told => exact ⟨rfl, told⟩
  | reject error => exact error
  | complete => exact ⟨ok.1, ok.2.grow grown⟩
  | insert success =>
      obtain ⟨rfl, announces⟩ := ok
      exact ⟨success, announces.grow grown⟩
  | clones => exact ⟨ok.1, ok.2.grow grown⟩
  | drop | fail | panic | rejected => trivial

/-- Behind a successful `accept`, the client has been told. -/
theorem StageOk.announces {stage : Stage} (ok : h.StageOk cfg n s stage) (granted : stage.isGranted = true) :
    (s.acceptResponse cfg).isSuccess = true ∧ h.Announces cfg n s := by
  cases stage with
  | completed rp =>
      obtain ⟨rfl, announces⟩ := ok
      exact ⟨granted, announces⟩
  | accepted => exact ok
  | _ => cases granted

end Hub

namespace Talk

variable {cfg : ServerConfig} {w w' : Talk} {n : SinkId} {task task' : SubscriptionTask} {conn : ConnectionId}

/-- Nothing has been sent for the sink, and nobody was told that it is accepted. -/
structure Quiet (w : Talk) (n : SinkId) : Prop where
  unsent : ∀ {conn json}, (Origin.sink n, json) ∉ w.hub.outgoing conn
  refused : ∀ {rp}, w.hub.answers.lookup n = some (.sent rp) → rp.isSuccess = false
  unsignalled : ∀ {task}, w.tasks.lookup n = some task → task.accepted ≠ .sent

/-- What has been put on a channel for a sink comes behind the response of its
    `accept`. -/
def Led (cfg : ServerConfig) (w : Talk) (conn : ConnectionId) : Prop :=
  ∀ (i : Nat) (n : SinkId) (json : RawText), (w.hub.outgoing conn)[i]? = some (.sink n, json) →
    ∃ task, w.tasks.lookup n = some task ∧ task.sub.uniqSub.connId = conn ∧
      ∃ j < i, (w.hub.outgoing conn)[j]? = some (Origin.accept n, (task.sub.acceptResponse cfg).json)

/-- What holds behind every run. -/
structure Gated (cfg : ServerConfig) (w : Talk) : Prop where
  sound : Hub.Sound cfg w.hub
  stages : ∀ {n s}, w.hub.subs.lookup n = some s → w.hub.StageOk cfg n s s.stage
  spawned : ∀ {n s}, w.hub.subs.lookup n = some s →
    ∃ task, w.tasks.lookup n = some task ∧ s = { task.sub with stage := s.stage }
  fresh : ∀ {n}, w.hub.next ≤ n → w.tasks.lookup n = none
  quiet : ∀ {n}, w.hub.next ≤ n ∨ (∃ s, w.hub.subs.lookup n = some s ∧ s.stage.isGranted = false) → w.Quiet n
  opened : ∀ {n}, ¬ w.Quiet n → ∃ task, w.tasks.lookup n = some task ∧
    (task.sub.acceptResponse cfg).isSuccess = true ∧ w.hub.Announces cfg n task.sub
  led : ∀ conn, w.Led cfg conn

theorem quiet_new : Talk.new.Quiet n where
  unsent sent := by cases sent
  refused given := by cases given
  unsignalled found := by cases found

theorem Gated.new (cfg : ServerConfig) : Gated cfg .new where
  sound := .new cfg
  stages found := by cases found
  spawned found := by cases found
  fresh _ := rfl
  quiet _ := quiet_new
  opened loud := absurd quiet_new loud
  led _ _ _ _ here := by cases here

/-- One more message on a channel. -/
theorem Led.snoc (led : w.Led cfg conn) (kept : ∀ {n task}, w.tasks.lookup n = some task →
      ∃ task', w'.tasks.lookup n = some task' ∧ task'.sub = task.sub)
    {entry : Origin × RawText} (grown : w'.hub.outgoing conn = w.hub.outgoing conn ++ [entry])
    (opens : ∀ {n json}, entry = (.sink n, json) → ∃ task, w.tasks.lookup n = some task ∧
      task.sub.uniqSub.connId = conn ∧ w.hub.Announces cfg n task.sub) : w'.Led cfg conn := by
  intro i n json here
  rw [grown] at here ⊢
  have before : ∃ task, w.tasks.lookup n = some task ∧ task.sub.uniqSub.connId = conn ∧
      ∃ j < i, (w.hub.outgoing conn)[j]? = some (Origin.accept n, (task.sub.acceptResponse cfg).json) := by
    rcases Nat.lt_or_ge i (w.hub.outgoing conn).length with early | late
    · rw [List.getElem?_append_left early] at here
      exact led i n json here
    · rw [List.getElem?_append_right late, List.getElem?_singleton] at here
      obtain ⟨-, same⟩ := Option.ite_none_right_eq_some.mp here
      obtain ⟨task, found, own, announces⟩ := opens (Option.some.inj same)
      rw [Hub.Announces, own] at announces
      obtain ⟨j, there⟩ := List.mem_iff_getElem?.mp announces
      have short := (List.getElem?_eq_some_iff.mp there).1
      exact ⟨task, found, own, j, Nat.lt_of_lt_of_le short late, there⟩
  obtain ⟨task, found, own, j, earlier, there⟩ := before
  obtain ⟨task', found', same⟩ := kept found
  refine ⟨task', found', by rw [same, own], j, earlier, ?_⟩
  rw [List.getElem?_append_left (List.getElem?_eq_some_iff.mp there).1, same]
  exact there

/-- The channel stays as it is. -/
theorem Led.same (led : w.Led cfg conn) (kept : ∀ {n task}, w.tasks.lookup n = some task →
      ∃ task', w'.tasks.lookup n = some task' ∧ task'.sub = task.sub)
    (same : w'.hub.outgoing conn = w.hub.outgoing conn) : w'.Led cfg conn := by
  intro i n json here
  rw [same] at here ⊢
  obtain ⟨task, found, own, j, earlier, there⟩ := led i n json here
  obtain ⟨task', found', same⟩ := kept found
  exact ⟨task', found', by rw [same, own], j, earlier, by rw [same]; exact there⟩

/-! ## Steps of calls, handlers and connections -/

section HubSteps

variable {a : HubAction} {hub : Hub}

@[simp] theorem spawn_hub : (w.spawn hub).hub = hub := by
  unfold spawn
  split <;> rfl

theorem lookup_spawn (other : n ≠ w.hub.next) : (w.spawn hub).tasks.lookup n = w.tasks.lookup n := by
  unfold spawn
  split
  · rw [Table.lookup_insert_ite, if_neg other]
  · rfl

theorem lookup_spawn_next {sub : Subscription} (found : hub.subs.lookup w.hub.next = some sub) :
    (w.spawn hub).tasks.lookup w.hub.next = some { sub, response := none, accepted := .waiting, finished := false } := by
  unfold spawn
  rw [found]
  exact Finmap.lookup_insert _

theorem Gated.lt_next (gated : Gated cfg w) (found : w.tasks.lookup n = some task) : n < w.hub.next := by
  by_contra late
  cases found.symm.trans (gated.fresh (Nat.le_of_not_lt late))

theorem Gated.lookup_spawn (gated : Gated cfg w) (found : w.tasks.lookup n = some task) :
    (w.spawn hub).tasks.lookup n = some task :=
  (Talk.lookup_spawn (Nat.ne_of_lt (gated.lt_next found))).trans found

/-- A new task has no signal yet. -/
theorem Quiet.spawn (quiet : w.Quiet n) (found : (w.spawn hub).tasks.lookup n = some task) : task.accepted ≠ .sent := by
  by_cases new : n = w.hub.next
  · subst new
    cases made : hub.subs.lookup w.hub.next with
    | some sub =>
        rw [lookup_spawn_next made] at found
        cases found
        simp
    | none =>
        unfold Talk.spawn at found
        rw [made] at found
        exact quiet.unsignalled found
  · rw [Talk.lookup_spawn new] at found
    exact quiet.unsignalled found

/-- A sink that is not accepted in a step stays quiet. -/
theorem Quiet.of_hub (quiet : w.Quiet n) (gated : Gated cfg w) (move : Hub.Move cfg w.hub a hub)
    (ungranted : ∀ s, hub.subs.lookup n = some s → s.stage.isGranted = false) : (w.spawn hub).Quiet n := by
  refine ⟨?_, ?_, quiet.spawn⟩
  · intro conn json sent
    rw [spawn_hub] at sent
    rcases move.sink_outgoing sent with before | ⟨s, msg, rfl, found, up, -⟩
    · exact quiet.unsent before
    · -- A sink that can send has been accepted, and sending does not change that.
      have granted := gated.sound.granted found up
      have still : hub.subs.lookup n = some s := by
        cases move with
        | unsent => exact found
        | send => rwa [Hub.push_subs]
      rw [ungranted s still] at granted
      cases granted
  · intro rp given
    rw [spawn_hub] at given
    cases found : w.hub.subs.lookup n with
    | none =>
        have idle : a.sink ≠ some n := by
          intro acts
          obtain ⟨s, there⟩ := move.found acts
          cases found.symm.trans there
        rw [move.answers_of_ne idle] at given
        exact quiet.refused given
    | some s =>
        have turn := move.turn gated.sound found
        have ok := gated.stages found
        have now : ∀ stage, (hub.subs.lookup n).map Subscription.stage = some stage → stage.isGranted = false := by
          intro stage there
          obtain ⟨s', found', rfl⟩ := Option.map_eq_some_iff.mp there
          exact ungranted s' found'
        rw [given] at turn
        generalize (hub.subs.lookup n).map Subscription.stage = after at turn now
        generalize s.stage = before at turn ok
        generalize answers : w.hub.answers.lookup n = answer at turn
        cases turn with
        | complete => exact now _ rfl
        | rejected => exact ok
        | _ => exact quiet.refused answers

/-- A sink that is not quiet any more was accepted. -/
theorem Gated.loud (gated : Gated cfg w) (move : Hub.Move cfg w.hub a hub) (loud : ¬ (w.spawn hub).Quiet n) :
    ¬ w.Quiet n ∨ ∃ s, hub.subs.lookup n = some s ∧ s.stage.isGranted = true := by
  by_contra neither
  obtain ⟨quiet, ungranted⟩ := not_or.mp neither
  refine loud ((not_not.mp quiet).of_hub gated move ?_)
  intro s found
  refine Bool.eq_false_of_not_eq_true ?_
  exact fun granted => ungranted ⟨s, found, granted⟩

theorem Gated.stages_of_hub (gated : Gated cfg w) (move : Hub.Move cfg w.hub a hub) {s : Subscription}
    (found : hub.subs.lookup n = some s) : hub.StageOk cfg n s s.stage := by
  rcases move.turns gated.sound found with ⟨-, pending⟩ | ⟨s₀, stage, found₀, rfl, turn⟩
  · rw [pending]
    trivial
  · have ok : hub.StageOk cfg n s₀ stage := (gated.stages found₀).turn move.outgoing_grows turn
    exact ok

theorem Gated.spawned_of_hub (gated : Gated cfg w) (move : Hub.Move cfg w.hub a hub) {s : Subscription}
    (found : hub.subs.lookup n = some s) :
    ∃ task, (w.spawn hub).tasks.lookup n = some task ∧ s = { task.sub with stage := s.stage } := by
  rcases move.turns gated.sound found with ⟨rfl, -⟩ | ⟨s₀, stage, found₀, rfl, -⟩
  · exact ⟨_, lookup_spawn_next found, rfl⟩
  · obtain ⟨task, there, same⟩ := gated.spawned found₀
    refine ⟨task, gated.lookup_spawn there, ?_⟩
    rw [same]

theorem Gated.quiet_of_hub (gated : Gated cfg w) (move : Hub.Move cfg w.hub a hub)
    (ungranted : hub.next ≤ n ∨ ∃ s, hub.subs.lookup n = some s ∧ s.stage.isGranted = false) :
    (w.spawn hub).Quiet n := by
  have sound := gated.sound.of_move move
  rcases ungranted with late | ⟨s, found, ungranted⟩
  · refine (gated.quiet (.inl (Nat.le_trans move.next_le late))).of_hub gated move ?_
    intro s found
    cases found.symm.trans (sound.fresh late)
  · refine Quiet.of_hub ?_ gated move ?_
    · rcases move.turns gated.sound found with ⟨rfl, -⟩ | ⟨s₀, stage, found₀, rfl, turn⟩
      · exact gated.quiet (.inl (Nat.le_refl _))
      · refine gated.quiet (.inr ⟨s₀, found₀, Bool.eq_false_of_not_eq_true ?_⟩)
        intro granted
        cases ungranted.symm.trans (turn.granted granted)
    · intro s' found'
      obtain rfl := Option.some.inj (found.symm.trans found')
      exact ungranted

theorem Gated.of_hub (gated : Gated cfg w) (move : Hub.Move cfg w.hub a hub) : Gated cfg (w.spawn hub) := by
  have announced {n : SinkId} {s : Subscription} (found : hub.subs.lookup n = some s) (granted : s.stage.isGranted = true) :
      ∃ task, (w.spawn hub).tasks.lookup n = some task ∧ (task.sub.acceptResponse cfg).isSuccess = true ∧
        hub.Announces cfg n task.sub := by
    obtain ⟨task, there, same⟩ := gated.spawned_of_hub move found
    have ok := (gated.stages_of_hub move found).announces granted
    rw [same] at ok
    exact ⟨task, there, ok⟩
  have kept {n : SinkId} {task : SubscriptionTask} (found : w.tasks.lookup n = some task) :
      ∃ task', (w.spawn hub).tasks.lookup n = some task' ∧ task'.sub = task.sub :=
    ⟨task, gated.lookup_spawn found, rfl⟩
  refine ⟨?_, ?_, ?_, ?_, ?_, ?_, ?_⟩
  · rw [spawn_hub]
    exact gated.sound.of_move move
  · rw [spawn_hub]
    exact gated.stages_of_hub move
  · rw [spawn_hub]
    exact gated.spawned_of_hub move
  · intro n late
    rw [spawn_hub] at late
    by_cases new : n = w.hub.next
    · subst new
      unfold spawn
      rw [(gated.sound.of_move move).fresh late]
      exact gated.fresh (Nat.le_refl _)
    · rw [Talk.lookup_spawn new]
      exact gated.fresh (Nat.le_trans move.next_le late)
  · rw [spawn_hub]
    exact gated.quiet_of_hub move
  · intro n loud
    rw [spawn_hub]
    rcases gated.loud move loud with before | ⟨s, found, granted⟩
    · obtain ⟨task, found, success, announces⟩ := gated.opened before
      exact ⟨task, gated.lookup_spawn found, success, announces.grow move.outgoing_grows⟩
    · exact announced found granted
  · intro conn
    rcases move.outgoing conn with same | ⟨m, s, origin, json, -, found, own, grown, cases⟩
    · refine (gated.led conn).same kept ?_
      rw [spawn_hub, same]
    · refine (gated.led conn).snoc kept ((congrArg (Hub.outgoing · conn) spawn_hub).trans grown) ?_
      intro n json' same
      cases same
      rcases cases with ⟨other, -⟩ | other | ⟨same, up, -⟩
      · cases other
      · cases other
      · cases same
        obtain ⟨task, there, same⟩ := gated.spawned found
        have announces := ((gated.stages found).announces (gated.sound.granted found up)).2
        rw [same] at own announces
        exact ⟨task, there, own, announces⟩

end HubSteps

/-! ## The other steps -/

/-- Messages of others, and of sinks that are not quiet. -/
theorem Quiet.push (quiet : w.Quiet n) {origin : Origin} {json : RawText} (other : origin ≠ .sink n) :
    Quiet { w with hub := w.hub.push conn origin json } n := by
  refine ⟨?_, ?_, quiet.unsignalled⟩
  · intro conn' json' sent
    rcases Hub.mem_outgoing_push sent with before | new
    · exact quiet.unsent before
    · cases new
      exact other rfl
  · intro rp given
    rw [Hub.push_answers] at given
    exact quiet.refused given

theorem Quiet.of_push {origin : Origin} {json : RawText} (quiet : Quiet { w with hub := w.hub.push conn origin json } n) :
    w.Quiet n := by
  refine ⟨?_, ?_, quiet.unsignalled⟩
  · exact fun sent => quiet.unsent (Hub.outgoing_push_grows.subset sent)
  · intro rp given
    refine quiet.refused ?_
    rwa [Hub.push_answers]

theorem Gated.push (gated : Gated cfg w) {origin : Origin} {json : RawText}
    (loud : ∀ {n}, origin = .sink n → ¬ w.Quiet n ∧ ∃ task, w.tasks.lookup n = some task ∧ task.sub.uniqSub.connId = conn) :
    Gated cfg { w with hub := w.hub.push conn origin json } := by
  have opened {n : SinkId} (loud : ¬ w.Quiet n) : ∃ task, w.tasks.lookup n = some task ∧
      (task.sub.acceptResponse cfg).isSuccess = true ∧ (w.hub.push conn origin json).Announces cfg n task.sub := by
    obtain ⟨task, found, success, announces⟩ := gated.opened loud
    exact ⟨task, found, success, announces.grow Hub.outgoing_push_grows⟩
  refine ⟨?_, ?_, ?_, ?_, ?_, ?_, ?_⟩
  · exact gated.sound.still (Hub.push_subs ..) (Hub.push_next ..) Hub.samePermits_push (by simp)
  · intro n s found
    rw [Hub.push_subs] at found
    exact (gated.stages found).grow Hub.outgoing_push_grows
  · rw [Hub.push_subs]
    exact gated.spawned
  · rw [Hub.push_next]
    exact gated.fresh
  · rw [Hub.push_subs, Hub.push_next]
    intro n ungranted
    have quiet := gated.quiet ungranted
    refine quiet.push ?_
    exact fun same => (loud same).1 quiet
  · intro n now
    by_cases before : w.Quiet n
    · have same : origin = .sink n := by
        by_contra other
        exact now (before.push other)
      exact opened (loud same).1
    · exact opened before
  · intro conn'
    have kept {n : SinkId} {task : SubscriptionTask} (found : w.tasks.lookup n = some task) :
        ∃ task', w.tasks.lookup n = some task' ∧ task'.sub = task.sub := ⟨task, found, rfl⟩
    by_cases here : conn' = conn ∧ w.hub.isOpen conn = true
    · refine (gated.led conn').snoc kept (by rw [Hub.outgoing_push, if_pos here]) ?_
      intro n json' same
      cases same
      obtain ⟨loud, task, found, own⟩ := loud rfl
      obtain ⟨task₁, found₁, -, announces⟩ := gated.opened loud
      cases found₁.symm.trans found
      exact ⟨task, found, own.trans here.1.symm, announces⟩
    · refine (gated.led conn').same kept ?_
      rw [Hub.outgoing_push, if_neg here, List.append_nil]

/-- A task or a call has moved on. -/
theorem Quiet.update (quiet : w.Quiet n) {m : SinkId} (signal : m = n → task'.accepted ≠ .sent) :
    Quiet { w with tasks := w.tasks.insert m task' } n := by
  refine ⟨quiet.unsent, quiet.refused, ?_⟩
  intro task found
  rw [Table.lookup_insert_ite] at found
  split at found
  · rename_i same
    cases found
    exact signal same.symm
  · exact quiet.unsignalled found

/-- The tasks keep their subscriptions. -/
theorem lookup_update {m : SinkId} {task₁ task₂ : SubscriptionTask} (found₁ : w.tasks.lookup m = some task₁)
    (same : task₂.sub = task₁.sub) (found : w.tasks.lookup n = some task) :
    ∃ task', (w.tasks.insert m task₂).lookup n = some task' ∧ task'.sub = task.sub := by
  rw [Table.lookup_insert_ite]
  split
  · rename_i here
    subst here
    cases found₁.symm.trans found
    exact ⟨task₂, rfl, same⟩
  · exact ⟨task, found, rfl⟩

theorem Gated.update (gated : Gated cfg w) (found : w.tasks.lookup n = some task) (same : task'.sub = task.sub)
    (signal : task'.accepted = .sent → ¬ w.Quiet n) : Gated cfg { w with tasks := w.tasks.insert n task' } := by
  have kept {m : SinkId} {task₁ : SubscriptionTask} := @lookup_update w m task₁ n task task' found same
  have still {m : SinkId} (quiet : w.Quiet m) : Quiet { w with tasks := w.tasks.insert n task' } m := by
    refine quiet.update ?_
    rintro rfl sent
    exact signal sent quiet
  refine ⟨gated.sound, gated.stages, ?_, ?_, ?_, ?_, ?_⟩
  · intro m s there
    obtain ⟨task₁, found₁, shape⟩ := gated.spawned there
    obtain ⟨task₂, found₂, same⟩ := kept found₁
    exact ⟨task₂, found₂, by rw [same]; exact shape⟩
  · intro m late
    have other : m ≠ n := Nat.ne_of_gt (Nat.lt_of_lt_of_le (gated.lt_next found) late)
    rw [Table.lookup_insert_ite, if_neg other]
    exact gated.fresh late
  · exact fun ungranted => still (gated.quiet ungranted)
  · intro m loud
    obtain ⟨task₁, found₁, success, announces⟩ := gated.opened fun quiet => loud (still quiet)
    obtain ⟨task₂, found₂, same⟩ := kept found₁
    exact ⟨task₂, found₂, by rw [same]; exact ⟨success, announces⟩⟩
  · exact fun conn => (gated.led conn).same kept rfl

/-- The call sends the signal when the answer is a success. -/
theorem Quiet.answer (quiet : w.Quiet n) {answer : Answer} (given : w.hub.answers.lookup n = some answer) :
    answer.signal ≠ .sent := by
  cases answer with
  | sent rp =>
      rw [Answer.signal, quiet.refused given]
      simp
  | dropped => simp [Answer.signal]

theorem Gated.of_move (gated : Gated cfg w) {a : TalkAction} (move : Move cfg w a w') : Gated cfg w' := by
  have unmoved {n : SinkId} {task : SubscriptionTask} (found : w.tasks.lookup n = some task)
      (sent : task.accepted = .sent) : ¬ w.Quiet n := fun quiet => quiet.unsignalled found sent
  cases move with
  | hub move => exact gated.of_hub move
  | respond => exact gated.push (by simp)
  | resume found given => exact gated.update found rfl fun sent quiet => quiet.answer given sent
  | abandon found => exact gated.update found rfl (by simp)
  | returns found | finish found => exact gated.update found rfl fun sent => unmoved found sent
  | @close n task response json found returned accepted composed =>
      have loud := unmoved found accepted
      have pushed : Gated cfg { w with hub := w.hub.push task.sub.uniqSub.connId (.sink n) json } := by
        refine gated.push ?_
        rintro m ⟨⟩
        exact ⟨loud, task, found, rfl⟩
      exact pushed.update found rfl fun _ quiet => loud quiet.of_push

theorem gated {ts : List (Transition Talk TalkAction)} (run : Run (step cfg) .new ts w) : Gated cfg w :=
  run.invariant (Gated cfg) (fun _ => True) (fun _ _ => trivial) (.new cfg) fun _ _ before taken =>
    before.of_move (move_of_step taken)

/-! ## Sinks that were not accepted -/

/-- The sink was rejected or dropped, or its `accept` has failed. -/
def Failed (w : Talk) (n : SinkId) : Prop := ∃ s, w.hub.subs.lookup n = some s ∧ s.stage.isFailed = true

/-- A sink that has failed, until it is gone. -/
structure Silent (w : Talk) (n : SinkId) : Prop where
  quiet : w.Quiet n
  old : n < w.hub.next
  failed : ∀ {s}, w.hub.subs.lookup n = some s → s.stage.isFailed = true

theorem Failed.silent (gated : Gated cfg w) (failed : w.Failed n) : w.Silent n := by
  obtain ⟨s, found, failed⟩ := failed
  refine ⟨gated.quiet (.inr ⟨s, found, Stage.not_granted failed⟩), ?_, ?_⟩
  · by_contra late
    cases found.symm.trans (gated.sound.fresh (Nat.le_of_not_lt late))
  · intro s' found'
    obtain rfl := Option.some.inj (found.symm.trans found')
    exact failed

theorem Silent.of_move (silent : w.Silent n) (gated : Gated cfg w) {a : TalkAction} (move : Move cfg w a w') :
    w'.Silent n := by
  have update {m : SinkId} {task' : SubscriptionTask} (signal : m = n → task'.accepted ≠ .sent) :
      Silent { w with tasks := w.tasks.insert m task' } n := ⟨silent.quiet.update signal, silent.old, silent.failed⟩
  cases move with
  | @hub a hub move =>
      have failed : ∀ {s}, hub.subs.lookup n = some s → s.stage.isFailed = true := by
        intro s found
        rcases move.turns gated.sound found with ⟨new, -⟩ | ⟨s₀, stage, found₀, rfl, turn⟩
        · exact absurd new (Nat.ne_of_lt silent.old)
        · exact turn.failed (silent.failed found₀)
      refine ⟨silent.quiet.of_hub gated move fun s found => Stage.not_granted (failed found), ?_, ?_⟩
      · rw [spawn_hub]
        exact Nat.lt_of_lt_of_le silent.old move.next_le
      · rw [spawn_hub]
        exact failed
  | respond =>
      refine ⟨silent.quiet.push (by simp), ?_, ?_⟩
      · rw [Hub.push_next]
        exact silent.old
      · rw [Hub.push_subs]
        exact silent.failed
  | resume found given =>
      refine update ?_
      rintro rfl
      exact silent.quiet.answer given
  | abandon found => exact update (by simp)
  | returns found | finish found =>
      refine update ?_
      rintro rfl sent
      exact silent.quiet.unsignalled found sent
  | @close m task response json found returned accepted =>
      -- Its task has no signal.
      have other : m ≠ n := by
        rintro rfl
        exact silent.quiet.unsignalled found accepted
      have pushed : Quiet { w with hub := w.hub.push task.sub.uniqSub.connId (.sink m) json } n :=
        silent.quiet.push (by simpa using other)
      refine ⟨pushed.update fun same => absurd same other, ?_, ?_⟩
      · rw [Hub.push_next]
        exact silent.old
      · rw [Hub.push_subs]
        exact silent.failed

/-! ## What is sent for a subscription -/

/-- The step puts a message on the channel for the sink `n` of a subscription. -/
def Sends (n : SinkId) (sub : Subscription) (json : RawText) (tr : Transition Talk TalkAction) : Prop :=
  (∃ msg, tr.action = .hub (.send n msg) ∧ json = subMessageToJson msg sub.uniqSub.subId sub.notif) ∨
  tr.action = .close n ∧ ∃ response, (tr.before.tasks.lookup n).bind SubscriptionTask.response = some response ∧
    response.json sub.uniqSub.subId sub.notif = some json

theorem Gated.kept (gated : Gated cfg w) {a : TalkAction} (move : Move cfg w a w')
    (found : w.tasks.lookup n = some task) : ∃ task', w'.tasks.lookup n = some task' ∧ task'.sub = task.sub := by
  cases move with
  | hub => exact ⟨task, gated.lookup_spawn found, rfl⟩
  | respond => exact ⟨task, found, rfl⟩
  | resume found₁ | abandon found₁ | returns found₁ | finish found₁ | close found₁ =>
      exact lookup_update found₁ rfl found

/-- A message for a sink is put there by one step. -/
theorem Gated.sends (gated : Gated cfg w) {a : TalkAction} (move : Move cfg w a w') {json : RawText}
    (sent : (Origin.sink n, json) ∈ w'.hub.outgoing conn) :
    (Origin.sink n, json) ∈ w.hub.outgoing conn ∨
    ∃ task, w'.tasks.lookup n = some task ∧ Sends n task.sub json ⟨w, a, w'⟩ := by
  cases move with
  | @hub a hub move =>
      rw [spawn_hub] at sent
      rcases move.sink_outgoing sent with before | ⟨s, msg, rfl, found, -, composed⟩
      · exact .inl before
      · obtain ⟨task, there, same⟩ := gated.spawned found
        rw [same] at composed
        exact .inr ⟨task, gated.lookup_spawn there, .inl ⟨msg, rfl, composed⟩⟩
  | respond =>
      rcases Hub.mem_outgoing_push sent with before | new
      · exact .inl before
      · cases new
  | resume | abandon | returns | finish => exact .inl sent
  | @close m task response json' found returned accepted composed =>
      rcases Hub.mem_outgoing_push sent with before | new
      · exact .inl before
      · cases new
        refine .inr ⟨{ task with finished := true }, ?_, .inr ⟨rfl, response, ?_, composed⟩⟩
        · exact Finmap.lookup_insert _
        · rw [found]
          exact returned

theorem sent_by {ts : List (Transition Talk TalkAction)} (run : Run (step cfg) .new ts w) {json : RawText}
    (sent : (Origin.sink n, json) ∈ w.hub.outgoing conn) :
    ∃ task, w.tasks.lookup n = some task ∧ ∃ tr ∈ ts, Sends n task.sub json tr := by
  induction run with
  | nil => cases sent
  | @snoc ts w a w' earlier taken ih =>
      have before := gated earlier
      rcases before.sends (move_of_step taken) sent with old | ⟨task, found, sends⟩
      · obtain ⟨task, found, tr, member, sends⟩ := ih old
        obtain ⟨task', found', same⟩ := before.kept (move_of_step taken) found
        exact ⟨task', found', tr, List.mem_append_left _ member, by rw [same]; exact sends⟩
      · exact ⟨task, found, _, List.mem_append_right _ List.mem_cons_self, sends⟩

/-- The sink is rejected or dropped, or `accept` fails: the call is gone, the
    connection is closed, or the response was too big. -/
def Refuses (n : SinkId) (tr : Transition Talk TalkAction) : Prop :=
  (∃ err, tr.action = .hub (.rejectSend n err)) ∨ tr.action = .hub (.dropPending n) ∨ tr.action = .hub (.acceptFail n) ∨
  (tr.action = .hub (.acceptSend n) ∨ tr.action = .hub (.acceptInsert n)) ∧ tr.after.Failed n

theorem Refuses.failed {tr : Transition Talk TalkAction} (taken : step cfg tr.before tr.action = some tr.after)
    (refuses : Refuses n tr) : tr.after.Failed n := by
  have failed {a : HubAction} (acts : tr.action = .hub a) (fails : ∀ {hub}, Hub.Move cfg tr.before.hub a hub →
      ∃ s, hub.subs.lookup n = some s ∧ s.stage.isFailed = true) : tr.after.Failed n := by
    have move := move_of_step taken
    rw [acts] at move
    generalize tr.after = w' at move ⊢
    cases move with
    | hub move =>
        unfold Failed
        rw [spawn_hub]
        exact fails move
  rcases refuses with ⟨err, acts⟩ | acts | acts | ⟨-, failed⟩
  · refine failed acts fun move => ?_
    cases move with
    | @reject n s err found =>
        refine ⟨{ s with stage := .rejected (.subscriptionError s.id err) }, ?_, rfl⟩
        rw [Hub.advance_push_subs]
        exact Finmap.lookup_insert _
  · refine failed acts fun move => ?_
    cases move with
    | drop => exact ⟨_, Finmap.lookup_insert _, rfl⟩
  · refine failed acts fun move => ?_
    cases move with
    | fail => exact ⟨_, Finmap.lookup_insert _, rfl⟩
  · exact failed

theorem json_acceptResponse {s : Subscription} (success : (s.acceptResponse cfg).isSuccess = true) :
    (s.acceptResponse cfg).json = .ofJson (Response.new (.success s.uniqSub.subId.toJson) s.id).toJson := by
  simp only [Subscription.acceptResponse, MethodResponse.subscriptionResponse, MethodResponse.response] at success ⊢
  split at success
  · rename_i fits
    rw [if_pos fits]
  · cases success

/-- On every channel, a message that is sent for a sink, be it by its clones or when
    its handler has returned, comes behind the success response that carries the id of
    the subscription. And for a sink that was not accepted, there is none. -/
theorem only_accepted_talk {ts : List (Transition Talk TalkAction)} (run : Run (step cfg) .new ts w) :
    (∀ (conn : ConnectionId) (i : Nat) (n : SinkId) (json : RawText),
      (w.hub.outgoing conn)[i]? = some (.sink n, json) →
      ∃ task, w.tasks.lookup n = some task ∧ task.sub.uniqSub.connId = conn ∧ (∃ tr ∈ ts, Sends n task.sub json tr) ∧
        ∃ j < i, (w.hub.outgoing conn)[j]? =
          some (.accept n, .ofJson (Response.new (.success task.sub.uniqSub.subId.toJson) task.sub.id).toJson)) ∧
    ∀ tr ∈ ts, ∀ n, Refuses n tr → ∀ conn json, (Origin.sink n, json) ∉ w.hub.outgoing conn := by
  have whole := gated run
  constructor
  · intro conn i n json here
    have sent := List.mem_iff_getElem?.mpr ⟨i, here⟩
    obtain ⟨task, found, own, j, earlier, there⟩ := whole.led conn i n json here
    obtain ⟨task₁, found₁, success, -⟩ := whole.opened fun quiet => quiet.unsent sent
    obtain ⟨task₂, found₂, sends⟩ := sent_by run sent
    cases found₁.symm.trans found
    cases found₂.symm.trans found
    rw [json_acceptResponse success] at there
    exact ⟨task, found, own, sends, j, earlier, there⟩
  · intro tr member n refuses conn json
    obtain ⟨pre, post, -, before, taken, after⟩ := run.split member
    have start := gated (before.snoc taken)
    have silent := (refuses.failed taken).silent start
    have both := after.invariant (fun w => Gated cfg w ∧ w.Silent n) (fun _ => True) (fun _ _ => trivial) ⟨start, silent⟩
      fun _ _ now taken => ⟨now.1.of_move (move_of_step taken), now.2.of_move now.1 (move_of_step taken)⟩
    exact both.2.quiet.unsent

/-- Two subscriptions for a connection. -/
def two : ServerConfig := { maxSubscriptionsPerConnection := 2, maxResponseBodySize := 100 }

/-- One sink sends a message and a last one, the other one is rejected. -/
def talkRun : List TalkAction :=
  [.hub (.connect 0),
    .hub (.subscribe { connId := 0, method := 0, notif := "tick", id := .number 1, subId := .num 5 }),
    .hub (.subscribe { connId := 0, method := 0, notif := "tick", id := .number 2, subId := .num 6 }),
    .hub (.acceptSend 0), .hub (.rejectSend 1 (.ofCode .invalidParams)), .hub (.acceptComplete 0), .resume 0,
    .hub (.acceptInsert 0), .hub (.send 0 (.needsData (.int 1))), .returns 0 (.notifErr (.str "done")), .close 0]

theorem only_accepted_talk_two :
    ∃ ts w, Run (step two) .new ts w ∧ ts.map Transition.action = talkRun ∧
      (∀ conn json, (Origin.sink 1, json) ∉ w.hub.outgoing conn) ∧
      ∀ i, i = 2 ∨ i = 3 → ∃ task json, w.tasks.lookup 0 = some task ∧
        (w.hub.outgoing 0)[i]? = some (.sink 0, json) ∧ ∃ j < i, (w.hub.outgoing 0)[j]? =
          some (.accept 0, .ofJson (Response.new (.success task.sub.uniqSub.subId.toJson) task.sub.id).toJson) := by
  obtain ⟨ts, w, run, labels, facts⟩ := Run.records (step two) .new talkRun
    (fun _ w => (w.hub.outgoing 0).map Prod.fst = [.accept 0, .reject 1, .sink 0, .sink 0]) (by decide +kernel)
  have origins := of_decide_eq_true facts
  have talk := only_accepted_talk run
  refine ⟨ts, w, run, labels, ?_, ?_⟩
  · have acts : TalkAction.hub (.rejectSend 1 (.ofCode .invalidParams)) ∈ ts.map Transition.action := by
      rw [labels]
      simp [talkRun]
    obtain ⟨tr, member, same⟩ := List.mem_map.mp acts
    exact talk.2 tr member 1 (.inl ⟨_, same⟩)
  · intro i late
    have here : ((w.hub.outgoing 0).map Prod.fst)[i]? = some (.sink 0) := by
      rw [origins]
      rcases late with rfl | rfl <;> rfl
    rw [List.getElem?_map] at here
    obtain ⟨⟨origin, json⟩, there, same⟩ := Option.map_eq_some_iff.mp here
    cases same
    obtain ⟨task, found, -, -, told⟩ := talk.1 0 i 0 json there
    exact ⟨task, json, found, there, told⟩

end Talk

end Server

end Jsonrpsee
