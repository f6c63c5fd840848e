import Jsonrpsee.Server.Accounts

/-! # One response for each call

The messages that a task and the sinks of its subscribe calls have put on the
channel of the connection, against the calls of the message that the task was
started for.
-/

namespace Jsonrpsee

namespace Server

/-- Messages of the task `t` and of its sinks. -/
def Task.owns (task : Task) (t : TaskId) : Origin → Bool
  | .task u => u = t
  | .accept n | .reject n => n ∈ task.sinks
  | .sink _ => false

/-- The ids of all responses that have been put on the channel for the message of a
    task. -/
def Serving.responses (w : Serving) (t : TaskId) (task : Task) : List Id :=
  (w.hub.said task.conn (task.owns t)).flatMap fun json => responseIds json.value

/-- Messages of the sinks of a task. -/
def Task.answers (task : Task) : Origin → Bool
  | .accept n | .reject n => n ∈ task.sinks
  | .sink _ | .task _ => false

/-- The ids of the responses of some messages. -/
def idsOf (messages : List RawText) : List Id := messages.flatMap fun json => responseIds json.value

namespace Task

variable {task : Task} {h : Hub} {t : TaskId} {spoke : SinkId → Prop}

/-- The messages of a task and of its sinks, apart. -/
theorem owned_perm : (idsOf (h.said task.conn (task.owns t))).Perm
    (idsOf (h.said task.conn (· = .task t)) ++ idsOf (h.said task.conn task.answers)) := by
  have parts := List.filter_append_perm (fun message => decide (message.1 = Origin.task t))
    ((h.outgoing task.conn).filter fun message => task.owns t message.1)
  rw [List.filter_filter, List.filter_filter] at parts
  have own : (fun message : Origin × RawText => decide (message.1 = .task t) && task.owns t message.1) =
      fun message => decide (message.1 = .task t) := by
    funext ⟨origin, json⟩
    cases origin <;> simp [Task.owns]
  have others : (fun message : Origin × RawText => !decide (message.1 = .task t) && task.owns t message.1) =
      fun message => task.answers message.1 := by
    funext ⟨origin, json⟩
    cases origin <;> simp [Task.owns, Task.answers]
  rw [own, others] at parts
  have flat := ((parts.map Prod.snd).flatMap_right fun json => responseIds json.value).symm
  rwa [List.map_append, List.flatMap_append] at flat

theorem answers_eq : task.answers = fun origin => task.sinks.any fun n => origin.isAnswer n := by
  funext origin
  cases origin <;> simp [Task.answers, Origin.isAnswer, List.any_eq]

theorem mem_said {conn : ConnectionId} {by_ : Origin → Bool} {json : RawText} :
    json ∈ h.said conn by_ ↔ ∃ origin, by_ origin = true ∧ (origin, json) ∈ h.outgoing conn := by
  simp only [Hub.said, List.mem_map, List.mem_filter, Prod.exists, and_comm, exists_eq_left]

/-- A message of the sinks is that of one of them. -/
theorem mem_said_answers {json : RawText} :
    json ∈ h.said task.conn task.answers ↔ ∃ n ∈ task.sinks, json ∈ h.said task.conn (Origin.isAnswer n) := by
  simp only [mem_said, answers_eq, List.any_eq_true]
  constructor
  · rintro ⟨origin, ⟨n, member, own⟩, sent⟩
    exact ⟨n, member, origin, own, sent⟩
  · rintro ⟨n, member, origin, own, sent⟩
    exact ⟨origin, ⟨n, member, own⟩, sent⟩

/-- The sinks have said nothing exactly when no handler has accepted or rejected. -/
theorem idsOf_answers_eq_nil_iff (tracked : ∀ n ∈ task.sinks, ∃ id, h.Tracks task.conn n id (spoke n)) :
    idsOf (h.said task.conn task.answers) = [] ↔ ∀ n ∈ task.sinks, ¬ spoke n := by
  constructor
  · intro silent n member spoken
    obtain ⟨id, tracks⟩ := tracked n member
    rcases tracks.heard with ⟨-, unspoken⟩ | ⟨json, said, reply, -⟩
    · exact unspoken spoken
    · have there : json ∈ h.said task.conn task.answers :=
        mem_said_answers.mpr ⟨n, member, by rw [said]; exact List.mem_singleton_self json⟩
      have none := List.flatMap_eq_nil_iff.mp silent json there
      rw [responseIds_of_responseId reply] at none
      cases none
  · intro unspoken
    have none : h.said task.conn task.answers = [] := by
      refine List.eq_nil_iff_forall_not_mem.mpr fun json said => ?_
      obtain ⟨n, member, said⟩ := mem_said_answers.mp said
      obtain ⟨id, tracks⟩ := tracked n member
      rcases tracks.heard with ⟨silent, -⟩ | ⟨-, -, -, spoken⟩
      · rw [silent] at said
        cases said
      · exact unspoken n member spoken
    rw [none]
    rfl

theorem countP_any_le {α ι : Type} {xs : List α} {ns : List ι} {p : ι → α → Bool}
    (once : ∀ n ∈ ns, xs.countP (p n) ≤ 1) : xs.countP (fun x => ns.any fun n => p n x) ≤ ns.length := by
  induction ns with
  | nil => simp
  | cons n rest ih =>
      have first := once n List.mem_cons_self
      have later := ih fun m member => once m (List.mem_cons_of_mem _ member)
      have split : xs.countP (fun x => (n :: rest).any fun n => p n x) ≤
          xs.countP (p n) + xs.countP (fun x => rest.any fun n => p n x) := by
        clear first later ih once
        induction xs with
        | nil => simp
        | cons x xs ih =>
            simp only [List.countP_cons, List.any_cons] at ih ⊢
            cases p n x <;> cases rest.any (fun n => p n x) <;> simp <;> omega
      rw [List.length_cons]
      omega

/-- Every sink says at most one thing. -/
theorem length_idsOf_answers_le (tracked : ∀ n ∈ task.sinks, ∃ id, h.Tracks task.conn n id (spoke n)) :
    (idsOf (h.said task.conn task.answers)).length ≤ task.sinks.length := by
  have single : ∀ json ∈ h.said task.conn task.answers, (responseIds json.value).length = 1 := by
    intro json said
    obtain ⟨n, member, said⟩ := mem_said_answers.mp said
    obtain ⟨id, tracks⟩ := tracked n member
    rcases tracks.heard with ⟨silent, -⟩ | ⟨json', same, reply, -⟩
    · rw [silent] at said
      cases said
    · rw [same] at said
      obtain rfl := List.mem_singleton.mp said
      rw [responseIds_of_responseId reply, List.length_singleton]
  have count : (idsOf (h.said task.conn task.answers)).length = (h.said task.conn task.answers).length := by
    rw [idsOf, List.length_flatMap, List.map_congr_left single, List.map_const', List.sum_replicate_nat, Nat.mul_one]
  rw [count, Hub.said, List.length_map, ← List.countP_eq_length_filter, answers_eq]
  refine countP_any_le (p := fun n (message : Origin × RawText) => message.1.isAnswer n) fun n member => ?_
  obtain ⟨id, tracks⟩ := tracked n member
  have said := tracks.heard
  rw [List.countP_eq_length_filter, ← List.length_map Prod.snd]
  rcases said with ⟨silent, -⟩ | ⟨json, same, -⟩
  · exact Nat.le_trans (Nat.le_of_eq (congrArg List.length silent)) (Nat.zero_le 1)
  · exact Nat.le_of_eq (congrArg List.length same)

/-- The elements of an array of responses. -/
theorem filterMap_of_replies {rps : List MethodResponse} {ids : List Id}
    (replies : List.Forall₂ MethodResponse.Replies rps ids) :
    (rps.map fun rp => rp.json.value).filterMap responseId = ids := by
  induction replies with
  | nil => rfl
  | cons reply _ ih => rw [List.map_cons, List.filterMap_cons_some reply, ih]

/-- A single call is answered by its task or by its sink. -/
theorem Final.single {rp : MethodResponse} (final : task.Final h rp) (single : task.message.isSingle = true)
    (tracked : ∀ n ∈ task.sinks, ∃ id, h.Tracks task.conn n id (spoke n)) :
    ∃ rps ids, Books task.sinks task.failed task.message.entries rps ids ∧
      idsOf (if rp.isMethodCall || rp.isBatch then [rp.json] else []) ++ idsOf (h.said task.conn task.answers) = ids := by
  obtain ⟨rps, ids, books, ended⟩ := final
  rw [if_pos single] at ended
  obtain ⟨rfl, sole⟩ := ended
  refine ⟨[rp], ids, books, ?_⟩
  obtain ⟨id, reply, rfl⟩ : ∃ id, rp.Replies id ∧ ids = [id] := by
    cases books.replies with
    | cons reply nobody =>
        cases nobody
        exact ⟨_, reply, rfl⟩
  have whole : idsOf [rp.json] = [id] := by
    rw [idsOf, List.flatMap_singleton]
    exact responseIds_of_responseId reply
  rcases sole with ⟨kind, dropped⟩ | ⟨kind, n, sent, sinks, answered, same⟩
  · have silent : idsOf (h.said task.conn task.answers) = [] := by
      refine (idsOf_answers_eq_nil_iff tracked).mpr fun n member => ?_
      obtain ⟨_, tracks⟩ := tracked n member
      rcases tracks.answered (dropped n member) with ⟨-, -, unspoken⟩ | ⟨sent, other, -⟩
      · exact unspoken
      · cases (dropped n member).symm.trans other
    rw [silent, MethodResponse.isMethodCall, kind]
    simpa using whole
  · obtain ⟨_, tracks⟩ := tracked n (by rw [sinks]; exact List.mem_singleton_self n)
    have said : h.said task.conn task.answers = [rp.json] := by
      have only : task.answers = Origin.isAnswer n := by
        rw [answers_eq, sinks]
        funext origin
        simp
      rw [only]
      rcases tracks.answered answered with ⟨dropped, -⟩ | ⟨_, other, said, -⟩
      · cases answered.symm.trans dropped
      · cases answered.symm.trans other
        rw [said, same]
    rw [said, whole, MethodResponse.isMethodCall, MethodResponse.isBatch, kind]
    rfl

/-- Without calls there are only notifications. -/
theorem any_isNotification_of_no_calls {entries : List Entry} (nonempty : entries ≠ [])
    (wellFormed : ∀ e, .error e ∉ entries) (none : callIds entries = []) : entries.any Entry.isNotification = true := by
  cases entries with
  | nil => exact absurd rfl nonempty
  | cons entry rest =>
      match entry with
      | .ok (.call req extensions) => simp [callIds, Entry.callIds] at none
      | .ok (.notification n extensions) => rfl
      | .error e => exact absurd List.mem_cons_self (wellFormed e)

/-- The response of a batch holds what the calls have returned. -/
theorem Final.batch {rp : MethodResponse} (final : task.Final h rp) (batch : task.message.isSingle = false)
    (wellFormed : task.message.WellFormed) :
    ∃ rps ids, Books task.sinks task.failed task.message.entries rps ids ∧
      idsOf (if rp.isMethodCall || rp.isBatch then [rp.json] else []) = ids := by
  obtain ⟨rps, ids, books, ended⟩ := final
  rw [if_neg (by rw [batch]; simp)] at ended
  obtain ⟨extensions, rfl⟩ := ended
  refine ⟨rps, ids, books, ?_⟩
  unfold RpcService.closing
  by_cases empty : rps = []
  · subst empty
    have none : ids = [] := List.forall₂_nil_left_iff.mp books.replies
    have silent : task.message.entries.any Entry.isNotification = true := by
      refine any_isNotification_of_no_calls wellFormed.nonempty wellFormed.no_error ?_
      refine List.eq_nil_of_length_eq_zero ?_
      rw [← books.length_eq, none]
      rfl
    rw [if_pos rfl, silent, if_pos rfl, none]
    rfl
  · rw [if_neg empty]
    show idsOf [arrayOf rps] = ids
    rw [idsOf, List.flatMap_singleton]
    exact filterMap_of_replies books.replies

end Task

namespace Serving

variable {service : Service} {w : Serving} {ts : List (Transition Serving ServingAction)} {t : TaskId} {task : Task}

/-- A message has been handled, with its connection open and no batch response too
    big. The calls have got one response each, under their ids, exactly when no
    callback has panicked, a blocking one for a call without an id apart, and no
    handler has accepted or rejected a sink of a batch. -/
theorem answered_once_iff (run : Run (step service) .new ts w) (found : w.tasks.lookup t = some task)
    (ended : task.state = .done false ∨ task.state = .panicked) (wellFormed : task.message.WellFormed)
    (up : w.hub.isOpen task.conn = true) :
    (w.responses t task).Perm (callIds task.message.entries) ↔
      task.state ≠ .panicked ∧ (∀ id ∈ task.failed, id = .null) ∧
        (task.message.isSingle = true ∨ ∀ n ∈ task.sinks, ¬ Spoke ts n) := by
  have accounts := (balanced run).accounts found wellFormed up
  have parts : (w.responses t task).Perm (idsOf (w.hub.said task.conn (· = .task t)) ++
      idsOf (w.hub.said task.conn task.answers)) := Task.owned_perm
  rw [parts.congr_left]
  have stands := accounts.stands
  rcases ended with done | panicked
  · rw [done] at stands ⊢
    obtain ⟨rp, final, said⟩ := stands rfl
    rw [said]
    cases kind : task.message.isSingle with
    | true =>
        obtain ⟨rps, ids, books, same⟩ := final.single kind accounts.sinks
        rw [same, books.perm_iff]
        simp
    | false =>
        obtain ⟨rps, ids, books, same⟩ := final.batch kind wellFormed
        rw [same, ← Task.idsOf_answers_eq_nil_iff accounts.sinks]
        constructor
        · intro all
          have length := all.length_eq
          rw [List.length_append, books.length_eq] at length
          have none : idsOf (w.hub.said task.conn task.answers) = [] :=
            List.eq_nil_of_length_eq_zero (by omega)
          rw [none, List.append_nil, books.perm_iff] at all
          exact ⟨by simp, all, .inr none⟩
        · rintro ⟨-, null, single | none⟩
          · cases single
          · rw [none, List.append_nil, books.perm_iff]
            exact null
  · rw [panicked] at stands
    have unsent := accounts.unsent (by rw [panicked]; simp)
    refine iff_of_false (fun all => ?_) (by rw [panicked]; simp)
    have length := all.length_eq
    rw [unsent, List.length_append] at length
    have few := Task.length_idsOf_answers_le accounts.sinks
    have less : task.sinks.length < (callIds task.message.entries).length := stands
    simp only [idsOf, List.flatMap_nil, List.length_nil, Nat.zero_add] at length few
    omega

/-! A batch of a subscribe call and a plain call. -/

def bytes (text : String) : List UInt8 := text.toList.map fun c => c.toNat.toUInt8

def batchText : String :=
  "[\x7b\"jsonrpc\":\"2.0\",\"id\":1,\"method\":\"subscribe_hello\"\x7d," ++
    "\x7b\"jsonrpc\":\"2.0\",\"id\":2,\"method\":\"say_hello\"\x7d]"

def batchJson : Json :=
  .arr [.obj [("jsonrpc", .str "2.0"), ("id", .int 1), ("method", .str "subscribe_hello")],
    .obj [("jsonrpc", .str "2.0"), ("id", .int 2), ("method", .str "say_hello")]]

/-- A server whose reader knows the text of the batch. -/
def hello : Service where
  cfg := { maxSubscriptionsPerConnection := 1, maxResponseBodySize := 200 }
  serde :=
    { fromSlice := fun raw =>
        if raw = bytes batchText then .ok batchJson else .error "expected value at line 1 column 1"
      toString := Json.render }
  batchRequestsConfig := .unlimited
  methods := ((∅ : Table String Method).insert "subscribe_hello" (.subscription 0 "hello")).insert "say_hello" .sync

/-- The batch is handled, while the handler of the subscription takes some steps. -/
def batchRun (handler : List HubAction) : List ServingAction :=
  [.hub (.connect 0), .receive 0 (bytes batchText) ∅, .task 0 .loop, .task 0 (.call (.unserializable 0 none) (.num 7))] ++
    handler.map .hub ++
    [.task 0 .resume, .task 0 .collect, .task 0 .loop,
      .task 0 (.call (.payload (.success (.str "lo")) none) (.num 8)), .task 0 .collect, .task 0 .loop, .task 0 .send]

/-- The task has run to its end. -/
def isDone : TaskState → Bool
  | .done false => true
  | _ => false

theorem of_isDone {state : TaskState} (done : isDone state = true) : state = .done false := by
  unfold isDone at done
  split at done
  · rfl
  · cases done

/-- The handler drops its sink: every call gets one response. -/
theorem answered_once_iff_dropped :
    ∃ ts w task, Run (step hello) .new ts w ∧ ts.map Transition.action = batchRun [.dropPending 0] ∧
      w.tasks.lookup 0 = some task ∧ task.message.WellFormed ∧ task.state = .done false ∧
      callIds task.message.entries = [.number 1, .number 2] ∧
      (w.responses 0 task).Perm [.number 1, .number 2] := by
  obtain ⟨ts, w, run, labels, state⟩ := Run.reaches (step hello) .new (batchRun [.dropPending 0])
    (fun w => (w.tasks.lookup 0).any fun task => isDone task.state ∧ task.message.WellFormed ∧ task.failed = [] ∧
      w.hub.isOpen task.conn = true ∧ callIds task.message.entries = [.number 1, .number 2])
    (by decide +kernel)
  obtain ⟨task, found, state⟩ := (Option.any_eq_true _ _).mp state
  obtain ⟨done, wellFormed, failed, up, calls⟩ := of_decide_eq_true state
  have unspoken : ∀ n ∈ task.sinks, ¬ Spoke ts n := by
    rintro n - ⟨τ, member, a, act, speaks⟩
    have listed : τ.action ∈ batchRun [.dropPending 0] := labels ▸ List.mem_map_of_mem member
    rw [act] at listed
    rcases speaks with rfl | ⟨err, rfl⟩ <;> simp [batchRun] at listed
  have once := (answered_once_iff run found (.inl (of_isDone done)) wellFormed up).mpr
    ⟨by rw [of_isDone done]; simp, by rw [failed]; simp, .inr unspoken⟩
  rw [calls] at once
  exact ⟨ts, w, task, run, labels, found, wellFormed, of_isDone done, calls, once⟩

/-- The handler accepts its sink: the subscribe call is answered twice. -/
theorem answered_twice_in_batch :
    ∃ ts w task, Run (step hello) .new ts w ∧ ts.map Transition.action = batchRun [.acceptSend 0, .acceptComplete 0] ∧
      w.tasks.lookup 0 = some task ∧ task.message.WellFormed ∧ task.state = .done false ∧
      w.hub.isOpen task.conn = true ∧ callIds task.message.entries = [.number 1, .number 2] ∧
      w.responses 0 task = [.number 1, .number 1, .number 2] ∧
      ¬ (w.responses 0 task).Perm (callIds task.message.entries) := by
  obtain ⟨ts, w, run, labels, state⟩ := Run.reaches (step hello) .new (batchRun [.acceptSend 0, .acceptComplete 0])
    (fun w => (w.tasks.lookup 0).any fun task => isDone task.state ∧ task.message.WellFormed ∧
      w.hub.isOpen task.conn = true ∧ callIds task.message.entries = [.number 1, .number 2] ∧
      w.responses 0 task = [.number 1, .number 1, .number 2])
    (by decide +kernel)
  obtain ⟨task, found, state⟩ := (Option.any_eq_true _ _).mp state
  obtain ⟨done, wellFormed, up, calls, twice⟩ := of_decide_eq_true state
  refine ⟨ts, w, task, run, labels, found, wellFormed, of_isDone done, up, calls, twice, ?_⟩
  rw [twice, calls]
  decide

end Serving

end Server

end Jsonrpsee
