import Mathlib.Data.List.Perm.Basic
import Jsonrpsee.Server.Answers
import Jsonrpsee.Server.Connection

/-! # The account of a task

What a task has collected so far against the entries of its message, at each
point where it may be interrupted: which ids the responses have, which sinks its
subscribe calls have made, and how each of them has answered. Every step of any
task, client or handler keeps the accounts of all tasks.
-/

namespace Jsonrpsee

namespace Server

/-- The id of a call. -/
def Entry.callIds : Entry → List Id
  | .ok (.call req _) => [req.id]
  | .ok (.notification _ _) | .error _ => []

/-- The ids of the calls among some entries. -/
def callIds (entries : List Entry) : List Id := entries.flatMap Entry.callIds

namespace Incoming

def entries : Incoming → List Entry
  | .call req extensions => [.ok (.call req extensions)]
  | .notification n extensions => [.ok (.notification n extensions)]
  | .batch entries => entries
  | .refused _ => []

/-- A single call, or a batch of calls and notifications that is not empty. -/
def WellFormed : Incoming → Prop
  | .call _ _ => True
  | .batch entries => entries ≠ [] ∧ ∀ entry ∈ entries, Except.isOk entry = true
  | .notification _ _ | .refused _ => False

instance (message : Incoming) : Decidable message.WellFormed := by
  unfold WellFormed
  split <;> infer_instance

def isSingle : Incoming → Bool
  | .call _ _ => true
  | .notification _ _ | .batch _ | .refused _ => false

end Incoming

/-- A handler has accepted or rejected the sink `n`. -/
def Spoke (ts : List (Transition Serving ServingAction)) (n : SinkId) : Prop :=
  ∃ t ∈ ts, ∃ a, t.action = .hub a ∧ a.Speaks n

/-! ## The books of a task -/

namespace Task

variable {task : Task} {sinks : List SinkId} {failed : List Id} {before after : List Entry} {rps : List MethodResponse}
  {ids : List Id}

/-- The calls so far against their responses: each has its own id, but for those of
    blocking callbacks that panicked. -/
structure Books (sinks : List SinkId) (failed : List Id) (before : List Entry) (rps : List MethodResponse)
    (ids : List Id) : Prop where
  replies : List.Forall₂ MethodResponse.Replies rps ids
  balance : (ids ++ failed).Perm (callIds before ++ failed.map fun _ => .null)
  sinks : sinks.length ≤ (callIds before).length

theorem callIds_append_call (req : Request) (extensions : Extensions) :
    callIds (before ++ [.ok (.call req extensions)]) = callIds before ++ [req.id] := by
  simp only [callIds, List.flatMap_append, List.flatMap_singleton, Entry.callIds]

theorem callIds_append_notification (n : PlainNotification) (extensions : Extensions) :
    callIds (before ++ [.ok (.notification n extensions)]) = callIds before := by
  simp only [callIds, List.flatMap_append, List.flatMap_singleton, Entry.callIds, List.append_nil]

/-- A call is answered under its id. -/
theorem Books.answer (books : Books sinks failed before rps ids) {req : Request} {extensions : Extensions} {rp : MethodResponse}
    (replies : rp.Replies req.id) {sinks' : List SinkId} (more : sinks'.length ≤ sinks.length + 1) :
    Books sinks' failed (before ++ [.ok (.call req extensions)]) (rps ++ [rp]) (ids ++ [req.id]) := by
  refine ⟨List.rel_append books.replies (.cons replies .nil), ?_, ?_⟩
  · have balance := books.balance
    rw [callIds_append_call, List.perm_iff_count]
    rw [List.perm_iff_count] at balance
    intro id
    have here := balance id
    simp only [List.count_append] at here ⊢
    omega
  · have few := books.sinks
    rw [callIds_append_call, List.length_append]
    exact Nat.le_trans more (Nat.succ_le_succ few)

/-- A blocking callback has panicked. -/
theorem Books.fail (books : Books sinks failed before rps ids) {req : Request} {extensions : Extensions} {rp : MethodResponse}
    (replies : rp.Replies .null) :
    Books sinks (failed ++ [req.id]) (before ++ [.ok (.call req extensions)]) (rps ++ [rp]) (ids ++ [.null]) := by
  refine ⟨List.rel_append books.replies (.cons replies .nil), ?_, ?_⟩
  · have balance := books.balance
    rw [callIds_append_call, List.perm_iff_count]
    rw [List.perm_iff_count] at balance
    intro id
    have here := balance id
    simp only [List.count_append, List.map_append, List.map_cons, List.map_nil] at here ⊢
    omega
  · rw [callIds_append_call, List.length_append]
    exact Nat.le_add_right_of_le books.sinks

theorem Books.notification (books : Books sinks failed before rps ids) {n : PlainNotification} {extensions : Extensions} :
    Books sinks failed (before ++ [.ok (.notification n extensions)]) rps ids := by
  refine ⟨books.replies, ?_, ?_⟩
  · rw [callIds_append_notification]
    exact books.balance
  · rw [callIds_append_notification]
    exact books.sinks

/-- Before the first call there is no sink. -/
theorem Books.sinks_eq_nil (books : Books sinks failed [] rps ids) : sinks = [] :=
  List.eq_nil_of_length_eq_zero (Nat.le_zero.mp books.sinks)

theorem Books.length_eq (books : Books sinks failed before rps ids) : ids.length = (callIds before).length := by
  have same := books.balance.length_eq
  simp only [List.length_append, List.length_map] at same
  omega

/-- The responses have the ids of the calls exactly when no call under another id
    than `null` was left to a panic. -/
theorem Books.perm_iff (books : Books sinks failed before rps ids) :
    ids.Perm (callIds before) ↔ ∀ id ∈ failed, id = .null := by
  constructor
  · intro same id member
    have nulls : failed.Perm (failed.map fun _ => Id.null) :=
      (List.perm_append_left_iff (callIds before)).mp ((same.symm.append_right _).trans books.balance)
    obtain ⟨_, -, null⟩ := List.mem_map.mp (nulls.mem_iff.mp member)
    exact null.symm
  · intro null
    have nulls : failed.map (fun _ => Id.null) = failed := by
      conv_rhs => rw [← List.map_id failed]
      exact List.map_congr_left fun id member => (null id member).symm
    have balance := books.balance
    rw [nulls] at balance
    exact (List.perm_append_right_iff failed).mp balance

/-- Where a call is in its message, and what the loop behind it holds. -/
def Place (task : Task) (before after : List Entry) (rps : List MethodResponse) : Option Loop → Prop
  | none => task.message.isSingle = true ∧ before = [] ∧ after = [] ∧ rps = []
  | some loop => task.message.isSingle = false ∧ loop.entries = after ∧ loop.batchRp.Holds rps ∧
      loop.gotNotification = before.any Entry.isNotification

/-- The response of a single call goes out once: through the task, or from its
    sink. -/
def Sole (task : Task) (h : Hub) (rp : MethodResponse) : Prop :=
  rp.kind = .methodCall ∧ (∀ n ∈ task.sinks, h.answers.lookup n = some .dropped) ∨
  rp.kind = .subscription ∧ ∃ n sent, task.sinks = [n] ∧ h.answers.lookup n = some (.sent sent) ∧ sent.json = rp.json

/-- `handle_rpc_call` has returned, with no batch response cut short. -/
def Final (task : Task) (h : Hub) (rp : MethodResponse) : Prop :=
  ∃ rps ids, Books task.sinks task.failed task.message.entries rps ids ∧
    if task.message.isSingle then rps = [rp] ∧ task.Sole h rp
    else ∃ extensions, rp = RpcService.closing rps extensions (task.message.entries.any Entry.isNotification)

/-- What holds where a task is. -/
def Stands (task : Task) (h : Hub) (t : TaskId) (spoke : SinkId → Prop) : TaskState → Prop
  | .calling req extensions rest | .running req extensions _ rest =>
      ∃ before after rps ids, task.message.entries = before ++ .ok (.call req extensions) :: after ∧
        task.Place before after rps rest ∧ Books task.sinks task.failed before rps ids
  | .subscribing req extensions n rest =>
      ∃ before after rps ids sinks, task.message.entries = before ++ .ok (.call req extensions) :: after ∧
        task.Place before after rps rest ∧ Books sinks task.failed before rps ids ∧ task.sinks = sinks ++ [n] ∧
        h.Tracks task.conn n req.id (spoke n)
  | .returned rp rest =>
      ∃ before after rps ids entry, task.message.entries = before ++ entry :: after ∧
        task.Place before after rps rest ∧ Books task.sinks task.failed (before ++ [entry]) (rps ++ [rp]) ids ∧
        entry.isNotification = false ∧ (rest = none → task.Sole h rp)
  | .looping loop =>
      ∃ before rps ids, task.message.entries = before ++ loop.entries ∧
        task.Place before loop.entries rps (some loop) ∧ Books task.sinks task.failed before rps ids
  | .sending rp tooBig => tooBig = false → task.Final h rp
  | .done tooBig => tooBig = false → ∃ rp, task.Final h rp ∧
      h.said task.conn (· = .task t) = if rp.isMethodCall || rp.isBatch then [rp.json] else []
  | .panicked => task.sinks.length < (callIds task.message.entries).length

/-- The account of a task on an open connection. -/
structure Accounts (task : Task) (h : Hub) (t : TaskId) (spoke : SinkId → Prop) : Prop where
  sinks : ∀ n ∈ task.sinks, ∃ id, h.Tracks task.conn n id (spoke n)
  stands : task.Stands h t spoke task.state
  unsent : (∀ tooBig, task.state ≠ .done tooBig) → h.said task.conn (· = .task t) = []

/-- What a step of others may change on the hub. -/
structure Carries (conn : ConnectionId) (t : TaskId) (h : Hub) (spoke : SinkId → Prop) (h' : Hub)
    (spoke' : SinkId → Prop) : Prop where
  tracks : ∀ {n id}, h.Tracks conn n id (spoke n) → h'.Tracks conn n id (spoke' n)
  answers : ∀ {n id answer}, h.Tracks conn n id (spoke n) → h.answers.lookup n = some answer →
    h'.answers.lookup n = some answer
  said : h'.said conn (· = .task t) = h.said conn (· = .task t)

variable {h h' : Hub} {t : TaskId} {spoke spoke' : SinkId → Prop} {rp : MethodResponse}

/-- The sinks of a task have kept their answers. -/
def Keeps (task : Task) (h h' : Hub) : Prop :=
  ∀ n ∈ task.sinks, ∀ answer, h.answers.lookup n = some answer → h'.answers.lookup n = some answer

theorem Sole.carry (sole : task.Sole h rp) (kept : task.Keeps h h') : task.Sole h' rp := by
  rcases sole with ⟨kind, dropped⟩ | ⟨kind, n, sent, sinks, answered, same⟩
  · exact .inl ⟨kind, fun n member => kept n member _ (dropped n member)⟩
  · have member : n ∈ task.sinks := by
      rw [sinks]
      exact List.mem_singleton_self n
    exact .inr ⟨kind, n, sent, sinks, kept n member _ answered, same⟩

theorem Final.carry (final : task.Final h rp) (kept : task.Keeps h h') : task.Final h' rp := by
  obtain ⟨rps, ids, books, ended⟩ := final
  refine ⟨rps, ids, books, ?_⟩
  split
  · rename_i single
    rw [if_pos single] at ended
    exact ⟨ended.1, ended.2.carry kept⟩
  · rename_i batch
    rw [if_neg batch] at ended
    exact ended

/-- Steps of others leave the account of a task. -/
theorem Accounts.carry (accounts : task.Accounts h t spoke) (carries : Carries task.conn t h spoke h' spoke') :
    task.Accounts h' t spoke' := by
  have kept : task.Keeps h h' := by
    intro n member answer given
    obtain ⟨id, tracks⟩ := accounts.sinks n member
    exact carries.answers tracks given
  refine ⟨?_, ?_, ?_⟩
  · intro n member
    obtain ⟨id, tracks⟩ := accounts.sinks n member
    exact ⟨id, carries.tracks tracks⟩
  · have stands := accounts.stands
    cases state : task.state with
    | calling | running | looping | panicked =>
        rw [state] at stands
        exact stands
    | subscribing req extensions n rest =>
        rw [state] at stands
        obtain ⟨before, after, rps, ids, sinks, shape, place, books, own, tracks⟩ := stands
        exact ⟨before, after, rps, ids, sinks, shape, place, books, own, carries.tracks tracks⟩
    | returned rp rest =>
        rw [state] at stands
        obtain ⟨before, after, rps, ids, entry, shape, place, books, loud, sole⟩ := stands
        exact ⟨before, after, rps, ids, entry, shape, place, books, loud, fun single => (sole single).carry kept⟩
    | sending rp tooBig =>
        rw [state] at stands
        exact fun small => (stands small).carry kept
    | done tooBig =>
        rw [state] at stands
        intro small
        obtain ⟨rp, final, said⟩ := stands small
        exact ⟨rp, final.carry kept, carries.said.trans said⟩
  · intro running
    rw [carries.said]
    exact accounts.unsent running

/-! ## Steps of a task -/

/-- The task goes on, and the hub is as it was. -/
theorem Accounts.advance (accounts : task.Accounts h t spoke) (unfinished : ∀ tooBig, task.state ≠ .done tooBig)
    {state : TaskState} (stands : task.Stands h t spoke state) : Accounts { task with state } h t spoke :=
  ⟨accounts.sinks, stands, fun _ => accounts.unsent unfinished⟩

/-- A call returns a response of its own. -/
theorem Stands.returns {req : Request} {extensions : Extensions} {rest : Option Loop}
    (stands : task.Stands h t spoke (.calling req extensions rest)) (replies : rp.Replies req.id)
    (kind : rp.kind = .methodCall) : task.Stands h t spoke (.returned rp rest) := by
  obtain ⟨before, after, rps, ids, shape, place, books⟩ := stands
  refine ⟨before, after, rps, ids ++ [req.id], _, shape, place, books.answer replies (Nat.le_succ _), rfl, ?_⟩
  rintro rfl
  obtain ⟨-, rfl, -⟩ := place
  refine .inl ⟨kind, ?_⟩
  rw [books.sinks_eq_nil]
  simp

/-- The blocking callback has panicked. -/
theorem Accounts.joinError (accounts : task.Accounts h t spoke) {req : Request} {extensions : Extensions}
    {blocking : Bool} {rest : Option Loop} (state : task.state = .running req extensions blocking rest)
    (replies : rp.Replies .null) (kind : rp.kind = .methodCall) :
    Accounts { task with state := .returned rp rest, failed := task.failed ++ [req.id] } h t spoke := by
  have stands := accounts.stands
  rw [state] at stands
  obtain ⟨before, after, rps, ids, shape, place, books⟩ := stands
  refine ⟨accounts.sinks, ⟨before, after, rps, ids ++ [.null], _, shape, place, books.fail replies, rfl, ?_⟩, fun _ => ?_⟩
  · rintro rfl
    obtain ⟨-, rfl, -⟩ := place
    refine .inl ⟨kind, ?_⟩
    show ∀ n ∈ task.sinks, _
    rw [books.sinks_eq_nil]
    simp
  · refine accounts.unsent ?_
    rw [state]
    simp

/-- A subscribe call has made its sink and waits for it. -/
theorem Accounts.subscribe (accounts : task.Accounts h t spoke) {req : Request} {extensions : Extensions}
    {rest : Option Loop} (state : task.state = .calling req extensions rest)
    (carries : Carries task.conn t h spoke h' spoke) {n : SinkId} (tracks : h'.Tracks task.conn n req.id (spoke n)) :
    Accounts { task with state := .subscribing req extensions n rest, sinks := task.sinks ++ [n] } h' t spoke := by
  have carried := accounts.carry carries
  have stands := carried.stands
  rw [state] at stands
  obtain ⟨before, after, rps, ids, shape, place, books⟩ := stands
  refine ⟨?_, ⟨before, after, rps, ids, task.sinks, shape, place, books, rfl, tracks⟩, fun _ => ?_⟩
  · intro m member
    rcases List.mem_append.mp member with earlier | new
    · exact carried.sinks m earlier
    · obtain rfl := List.mem_singleton.mp new
      exact ⟨req.id, tracks⟩
  · refine carried.unsent ?_
    rw [state]
    simp

/-- The sink has answered, and the subscribe call returns. -/
theorem Accounts.resume (accounts : task.Accounts h t spoke) {req : Request} {extensions : Extensions} {n : SinkId}
    {rest : Option Loop} (state : task.state = .subscribing req extensions n rest) {answer : Answer}
    (given : h.answers.lookup n = some answer) :
    Accounts { task with state := .returned ((answer.response req.id).withExtensions extensions) rest } h t spoke := by
  have stands := accounts.stands
  rw [state] at stands
  obtain ⟨before, after, rps, ids, sinks, shape, place, books, own, tracks⟩ := stands
  refine accounts.advance (by rw [state]; simp) ?_
  have replies : ((answer.response req.id).withExtensions extensions).Replies req.id := by
    rcases tracks.answered given with ⟨dropped, -⟩ | ⟨sent, answered, -, replies, -⟩
    · obtain rfl := Option.some.inj (dropped.symm.trans given)
      exact MethodResponse.replies_error ..
    · obtain rfl := Option.some.inj (answered.symm.trans given)
      exact replies
  have more : task.sinks.length ≤ sinks.length + 1 := by
    rw [own, List.length_append]
    exact Nat.le_refl _
  refine ⟨before, after, rps, ids ++ [req.id], _, shape, place, books.answer replies more, rfl, ?_⟩
  rintro rfl
  obtain ⟨-, rfl, -⟩ := place
  rw [books.sinks_eq_nil, List.nil_append] at own
  rcases tracks.answered given with ⟨dropped, -⟩ | ⟨sent, answered, -, -, kind, -⟩
  · obtain rfl := Option.some.inj (dropped.symm.trans given)
    refine .inl ⟨rfl, ?_⟩
    rw [own]
    simpa using dropped
  · obtain rfl := Option.some.inj (answered.symm.trans given)
    exact .inr ⟨kind, n, sent, own, answered, rfl⟩

/-- The response of a call is used. -/
theorem Stands.collect {rest : Option Loop} (stands : task.Stands h t spoke (.returned rp rest)) :
    task.Stands h t spoke
      (match rest with
      | none => .sending rp false
      | some loop => loop.append rp) := by
  obtain ⟨before, after, rps, ids, entry, shape, place, books, loud, sole⟩ := stands
  cases rest with
  | none =>
      obtain ⟨single, rfl, rfl, rfl⟩ := place
      intro _
      rw [List.nil_append] at shape
      refine ⟨[rp], ids, ?_, ?_⟩
      · rw [shape]
        exact books
      · rw [if_pos single]
        exact ⟨rfl, sole rfl⟩
  | some loop =>
      obtain ⟨batch, rfl, holds, got⟩ := place
      simp only [Loop.append]
      split
      · exact fun small => by cases small
      · rename_i appended
        refine ⟨before ++ [entry], rps ++ [rp], ids, ?_, ⟨batch, rfl, holds.of_append appended, ?_⟩, books⟩
        · rw [shape, List.append_assoc, List.singleton_append]
        · simp only [List.any_append, List.any_cons, loud, List.any_nil, Bool.or_false, got]

/-- A turn of the loop. -/
theorem Stands.turn {loop : Loop} (stands : task.Stands h t spoke (.looping loop))
    (wellFormed : ∀ e, .error e ∉ task.message.entries) : task.Stands h t spoke loop.turn := by
  obtain ⟨before, rps, ids, shape, ⟨batch, -, holds, got⟩, books⟩ := stands
  unfold Loop.turn
  split
  · rename_i finished
    rw [finished, List.append_nil] at shape
    have ended : (if loop.batchRp.isEmpty && loop.gotNotification then TaskState.sending .notification false
        else .sending (.fromBatch loop.batchRp.finish) false) =
        .sending (RpcService.closing rps loop.batchRp.extensions loop.gotNotification) false := by
      rw [← RpcService.closing_eq holds]
      split <;> rfl
    rw [ended]
    intro _
    refine ⟨rps, ids, ?_, ?_⟩
    · rw [shape]
      exact books
    · rw [if_neg (by rw [batch]; simp), shape, ← got]
      exact ⟨_, rfl⟩
  · rename_i next
    rw [next] at shape
    exact ⟨before, _, rps, ids, shape, ⟨batch, rfl, holds, got⟩, books⟩
  · rename_i n extensions entries next
    rw [next] at shape
    refine ⟨before ++ [.ok (.notification n extensions)], rps, ids, ?_, ⟨batch, rfl, holds, ?_⟩, books.notification⟩
    · rw [shape, List.append_assoc, List.singleton_append]
    · simp only [List.any_append, List.any_cons, Entry.isNotification, Bool.true_or, Bool.or_true]
  · rename_i e entries next
    refine absurd ?_ (wellFormed e)
    rw [shape, next]
    exact List.mem_append_right _ List.mem_cons_self

/-- A callback has panicked. -/
theorem Stands.panic {req : Request} {extensions : Extensions} {rest : Option Loop}
    (stands : task.Stands h t spoke (.calling req extensions rest)) : task.Stands h t spoke .panicked := by
  obtain ⟨before, after, rps, ids, shape, place, books⟩ := stands
  have few := books.sinks
  show task.sinks.length < (callIds task.message.entries).length
  rw [shape, callIds, List.flatMap_append, List.flatMap_cons, List.length_append, List.length_append]
  simp only [Entry.callIds, List.length_singleton]
  unfold callIds at few
  omega

/-- The task puts its response on the channel. -/
theorem Accounts.send (accounts : task.Accounts h t spoke) {tooBig : Bool} (state : task.state = .sending rp tooBig)
    (up : h.isOpen task.conn = true) (loud : (rp.isMethodCall || rp.isBatch) = true) :
    Accounts { task with state := .done tooBig } (h.push task.conn (.task t) rp.json) t spoke := by
  have stands := accounts.stands
  rw [state] at stands
  refine ⟨?_, ?_, fun running => absurd rfl (running tooBig)⟩
  · intro n member
    obtain ⟨id, tracks⟩ := accounts.sinks n member
    exact ⟨id, tracks.push rfl⟩
  · intro small
    have kept : task.Keeps h (h.push task.conn (.task t) rp.json) := by
      intro n _ answer given
      rw [Hub.push_answers]
      exact given
    refine ⟨rp, (stands small).carry kept, ?_⟩
    have unsent := accounts.unsent (by rw [state]; simp)
    show (h.push task.conn (.task t) rp.json).said task.conn _ = _
    rw [Hub.said_push, unsent, up, if_pos loud]
    simp

/-- There is nothing to put on the channel. -/
theorem Accounts.skip (accounts : task.Accounts h t spoke) {tooBig : Bool} (state : task.state = .sending rp tooBig)
    (silent : (rp.isMethodCall || rp.isBatch) = false) :
    Accounts { task with state := .done tooBig } h t spoke := by
  have stands := accounts.stands
  rw [state] at stands
  refine accounts.advance (by rw [state]; simp) fun small => ⟨rp, stands small, ?_⟩
  rw [accounts.unsent (by rw [state]; simp), silent]
  rfl

/-- A step that is about no sink carries every account on. -/
theorem carries_of_move {cfg : ServerConfig} {conn : ConnectionId} {a : HubAction} (move : Hub.Move cfg h a h')
    (nobody : a.sink = none) : Carries conn t h spoke h' spoke where
  tracks tracks := tracks.of_ne move (by rw [nobody]; simp)
  answers _ given := (move.answers_of_ne (by rw [nobody]; simp)).trans given
  said := move.said conn (by rw [nobody]; simp)

/-- Messages of other tasks carry the account of a task on. -/
theorem carries_of_push {conn conn' : ConnectionId} {u : TaskId} {json : RawText} (other : u ≠ t) :
    Carries conn t h spoke (h.push conn' (.task u) json) spoke where
  tracks tracks := tracks.push rfl
  answers _ given := by rwa [Hub.push_answers]
  said := by
    rw [Hub.said_push]
    simp [other]

/-- What a task does to the hub. -/
inductive Effect (cfg : ServerConfig) (h : Hub) (conn : ConnectionId) (t : TaskId) : Hub → Prop where
  | none : Effect cfg h conn t h
  | move {a : HubAction} {h' : Hub} : Hub.Move cfg h a h' → a.sink = .none → Effect cfg h conn t h'
  | push {json : RawText} : Effect cfg h conn t (h.push conn (.task t) json)

variable {service : Service} {task' : Task}

theorem move_of_subscribe {cfg : ServerConfig} {call : SubscribeCall} {n : SinkId}
    (admitted : h.subscribe cfg call = .ok (n, h')) :
    Hub.Move cfg h (.subscribe call) h' ∧ n = h.next ∧ h' = h.enlist call := by
  have taken : h.step cfg (.subscribe call) = some h' := by simp only [Hub.step, admitted]
  refine ⟨Hub.move_of_step taken, ?_⟩
  unfold Hub.subscribe at admitted
  split at admitted
  · cases admitted
    exact ⟨rfl, rfl⟩
  · cases admitted

/-- `RpcService::call` runs a callback. -/
theorem call_effect {req : Request} {extensions : Extensions} {rest : Option Loop} {result : Result}
    {subId : SubscriptionId} (called : service.call h task req extensions rest result subId = (h', task')) :
    task'.conn = task.conn ∧ task'.message = task.message ∧ Effect service.cfg h task.conn t h' := by
  unfold Service.call at called
  dsimp only at called
  split at called
  · cases called
    exact ⟨rfl, rfl, .none⟩
  · cases called
    exact ⟨rfl, rfl, .none⟩
  · cases called
    exact ⟨rfl, rfl, .none⟩
  · cases called
    exact ⟨rfl, rfl, .none⟩
  · split at called
    · rename_i admitted
      cases called
      exact ⟨rfl, rfl, .move (move_of_subscribe admitted).1 rfl⟩
    · cases called
      exact ⟨rfl, rfl, .none⟩
  · cases called
    exact ⟨rfl, rfl, .move .unsubscribe rfl⟩

theorem stepTask_effect {a : TaskAction} (taken : service.stepTask h t task a = some (h', task')) :
    task'.conn = task.conn ∧ task'.message = task.message ∧ Effect service.cfg h task.conn t h' := by
  unfold Service.stepTask at taken
  split at taken
  · exact call_effect (Option.some.inj taken)
  · cases taken
    exact ⟨rfl, rfl, .none⟩
  · cases taken
    exact ⟨rfl, rfl, .none⟩
  · obtain ⟨answer, -, same⟩ := Option.map_eq_some_iff.mp taken
    cases same
    exact ⟨rfl, rfl, .none⟩
  · split at taken <;> cases taken <;> exact ⟨rfl, rfl, .none⟩
  · cases taken
    exact ⟨rfl, rfl, .none⟩
  · split at taken <;> cases taken
    · exact ⟨rfl, rfl, .push⟩
    · exact ⟨rfl, rfl, .none⟩
  · split at taken <;> cases taken
    exact ⟨rfl, rfl, .none⟩
  · cases taken
    exact ⟨rfl, rfl, .none⟩
  · cases taken

/-- The account of the task that makes a call. -/
theorem Accounts.of_call (accounts : task.Accounts h t spoke) (unheard : h.Unheard) (unspoken : ¬ spoke h.next)
    {req : Request} {extensions : Extensions} {rest : Option Loop} (state : task.state = .calling req extensions rest)
    {result : Result} {subId : SubscriptionId}
    (called : service.call h task req extensions rest result subId = (h', task')) : task'.Accounts h' t spoke := by
  have unfinished : ∀ tooBig, task.state ≠ .done tooBig := by
    rw [state]
    simp
  have stands := accounts.stands
  rw [state] at stands
  unfold Service.call at called
  dsimp only at called
  split at called
  · cases called
    exact accounts.advance unfinished (stands.returns (MethodResponse.replies_error ..) rfl)
  · cases called
    exact accounts.advance unfinished
      (stands.returns (MethodResponse.replies_response ..) (MethodResponse.kind_response ..))
  · cases called
    exact accounts.advance unfinished stands
  · cases called
    exact accounts.advance unfinished stands
  · split at called
    · rename_i admitted
      cases called
      obtain ⟨move, rfl, rfl⟩ := move_of_subscribe admitted
      refine accounts.subscribe state (carries_of_move move rfl) ?_
      rw [eq_false unspoken]
      exact unheard.tracks _
    · cases called
      exact accounts.advance unfinished (stands.returns (MethodResponse.replies_error ..) rfl)
  · rename_i method _
    cases called
    have move : Hub.Move service.cfg h (.unsubscribe task.conn method req.params) _ := .unsubscribe
    have carried := accounts.carry (carries_of_move move rfl)
    have stands := carried.stands
    rw [state] at stands
    refine carried.advance unfinished ?_
    split
    · exact stands.returns (MethodResponse.replies_response ..) (MethodResponse.kind_response ..)
    · exact stands.returns (MethodResponse.replies_response ..) (MethodResponse.kind_response ..)

/-- The account of the task that takes a step. -/
theorem Accounts.of_stepTask (accounts : task.Accounts h t spoke) (unheard : h.Unheard) (unspoken : ¬ spoke h.next)
    (up : h.isOpen task.conn = true) (wellFormed : ∀ e, .error e ∉ task.message.entries) {a : TaskAction}
    (taken : service.stepTask h t task a = some (h', task')) : task'.Accounts h' t spoke := by
  have stands := accounts.stands
  unfold Service.stepTask at taken
  split at taken
  · rename_i state
    exact accounts.of_call unheard unspoken state (Option.some.inj taken)
  · rename_i state
    cases taken
    rw [state] at stands
    have calling : task.Stands h t spoke (.calling _ _ _) := stands
    exact accounts.advance (by rw [state]; simp)
      (calling.returns (MethodResponse.replies_response ..) (MethodResponse.kind_response ..))
  · rename_i state
    cases taken
    exact accounts.joinError state (MethodResponse.replies_error ..) rfl
  · rename_i state
    obtain ⟨answer, given, same⟩ := Option.map_eq_some_iff.mp taken
    cases same
    exact accounts.resume state given
  · rename_i rp rest state
    rw [state] at stands
    have collected := stands.collect
    split at taken <;> cases taken <;> exact accounts.advance (by rw [state]; simp) collected
  · rename_i state
    cases taken
    rw [state] at stands
    exact accounts.advance (by rw [state]; simp) (stands.turn wellFormed)
  · rename_i state
    split at taken <;> rename_i loud <;> cases taken
    · exact accounts.send state up loud
    · exact accounts.skip state (Bool.eq_false_of_not_eq_true loud)
  · rename_i state
    split at taken <;> cases taken
    rw [state] at stands
    exact accounts.advance (by rw [state]; simp) stands.panic
  · rename_i state
    cases taken
    rw [state] at stands
    have calling : task.Stands h t spoke (.calling _ _ _) := stands
    exact accounts.advance (by rw [state]; simp) calling.panic
  · cases taken

end Task

theorem Incoming.WellFormed.no_error {message : Incoming} (wellFormed : message.WellFormed) (e : BatchEntryErr) :
    .error e ∉ message.entries := by
  cases message with
  | call req extensions => simp [Incoming.entries]
  | batch entries =>
      intro member
      cases wellFormed.2 _ member
  | notification | refused => exact wellFormed.elim

theorem Incoming.WellFormed.nonempty {message : Incoming} (wellFormed : message.WellFormed) : message.entries ≠ [] := by
  cases message with
  | call req extensions => simp [Incoming.entries]
  | batch entries => exact wellFormed.1
  | notification | refused => exact wellFormed.elim

/-- Where `handle_rpc_call` starts. -/
theorem Task.stands_start {service : Service} {task : Task} {h : Hub} {t : TaskId} {spoke : SinkId → Prop}
    (wellFormed : task.message.WellFormed) (sinks : task.sinks = []) (failed : task.failed = []) :
    task.Stands h t spoke (service.start task.message) := by
  have books : Books task.sinks task.failed [] [] [] := by
    rw [sinks, failed]
    exact ⟨.nil, .refl _, Nat.le_refl _⟩
  cases received : task.message with
  | call req extensions =>
      refine ⟨[], [], [], [], ?_, ?_, books⟩
      · rw [received]
        rfl
      · refine ⟨?_, rfl, rfl, rfl⟩
        rw [received]
        rfl
  | batch entries =>
      refine ⟨[], [], [], ?_, ?_, books⟩
      · rw [received]
        rfl
      · refine ⟨?_, rfl, BatchResponseBuilder.holds_newWithLimit _, rfl⟩
        rw [received]
        rfl
  | notification | refused =>
      rw [received] at wellFormed
      exact wellFormed.elim

/-! ## Runs -/

namespace Serving

variable {service : Service} {w w' : Serving} {ts : List (Transition Serving ServingAction)} {t : TaskId} {task : Task}

theorem spoke_snoc {a : ServingAction} (n : SinkId) :
    Spoke (ts ++ [⟨w, a, w'⟩]) n ↔ Spoke ts n ∨ ∃ b, a = .hub b ∧ b.Speaks n := by
  simp only [Spoke, List.mem_append, List.mem_singleton, or_and_right, exists_or, exists_eq_left]

/-- Only actions on the hub speak. -/
theorem spoke_snoc_of_ne {a : ServingAction} (other : ∀ b, a ≠ .hub b) : Spoke (ts ++ [⟨w, a, w'⟩]) = Spoke ts := by
  funext n
  refine propext ((spoke_snoc n).trans (or_iff_left ?_))
  rintro ⟨b, same, -⟩
  exact other b same

/-- What holds behind every run. -/
structure Balanced (service : Service) (ts : List (Transition Serving ServingAction)) (w : Serving) : Prop where
  sound : Hub.Sound service.cfg w.hub
  unheard : w.hub.Unheard
  unspoken : ∀ {n}, w.hub.next ≤ n → ¬ Spoke ts n
  fresh : ∀ {t}, w.next ≤ t → w.tasks.lookup t = none ∧ ∀ conn, w.hub.said conn (· = .task t) = []
  known : ∀ {t task}, w.tasks.lookup t = some task → ∃ c, w.hub.conns.lookup task.conn = some c
  accounts : ∀ {t task}, w.tasks.lookup t = some task → task.message.WellFormed → w.hub.isOpen task.conn = true →
    task.Accounts w.hub t (Spoke ts)

theorem Balanced.new (service : Service) : Balanced service [] .new where
  sound := .new service.cfg
  unheard := Hub.unheard_new
  unspoken _ := by simp [Spoke]
  fresh _ := ⟨rfl, fun _ => rfl⟩
  known found := by cases found
  accounts found := by cases found

/-- Clients and handlers act. -/
theorem Balanced.of_hub (balanced : Balanced service ts w) {a : HubAction} {hub : Hub} (free : a.isFree w.hub = true)
    (taken : w.hub.step service.cfg a = some hub) :
    Balanced service (ts ++ [⟨w, .hub a, { w with hub }⟩]) { w with hub } := by
  have move := Hub.move_of_step taken
  have spoke : ∀ n, Spoke (ts ++ [⟨w, .hub a, { w with hub }⟩]) n = (Spoke ts n ∨ a.Speaks n) := by
    intro n
    rw [spoke_snoc]
    simp
  have said : ∀ conn t, hub.said conn (· = .task t) = w.hub.said conn (· = .task t) := by
    intro conn t
    exact move.said conn (by simp)
  refine ⟨balanced.sound.of_move move, balanced.unheard.of_move balanced.sound move, ?_, ?_, ?_, ?_⟩
  · intro n late
    have before := Nat.le_trans move.next_le late
    rw [spoke n]
    rintro (earlier | speaks)
    · exact balanced.unspoken before earlier
    · have acts : a.sink = some n := by
        rcases speaks with rfl | ⟨err, rfl⟩ <;> rfl
      exact Nat.not_lt_of_le before (move.sink_lt balanced.sound acts)
  · intro t late
    obtain ⟨free, silent⟩ := balanced.fresh late
    exact ⟨free, fun conn => (said conn t).trans (silent conn)⟩
  · intro t task found
    obtain ⟨c, there⟩ := balanced.known found
    obtain ⟨c', there', -⟩ := move.closes _ c there
    exact ⟨c', there'⟩
  · intro t task found wellFormed up'
    obtain ⟨c, there⟩ := balanced.known found
    have up := move.closes.was_open there up'
    refine (balanced.accounts found wellFormed up).carry ⟨?_, ?_, said _ t⟩
    · intro n id tracks
      rw [spoke n]
      refine tracks.of_move move up ?_
      rintro rfl
      obtain ⟨s, sub, down⟩ := (Option.any_eq_true _ _).mp free
      rw [(tracks.own sub).1, up] at down
      cases down
    · intro n id answer tracks given
      exact tracks.answers_kept move given

/-- A message has arrived. -/
theorem Balanced.of_receive (balanced : Balanced service ts w) {conn : ConnectionId} {data : List UInt8}
    {extensions : Extensions} (taken : w.step service (.receive conn data extensions) = some w') :
    Balanced service (ts ++ [⟨w, .receive conn data extensions, w'⟩]) w' := by
  have spoke : Spoke (ts ++ [⟨w, .receive conn data extensions, w'⟩]) = Spoke ts := spoke_snoc_of_ne (by simp)
  simp only [step] at taken
  obtain ⟨up, taken⟩ := Option.ite_none_right_eq_some.mp taken
  obtain rfl := Option.some.inj taken
  obtain ⟨c, there, -⟩ := (Option.any_eq_true _ _).mp up
  refine ⟨balanced.sound, balanced.unheard, ?_, ?_, ?_, ?_⟩
  · rw [spoke]
    exact balanced.unspoken
  · intro t late
    obtain ⟨free, silent⟩ := balanced.fresh (Nat.le_of_succ_le late)
    refine ⟨?_, silent⟩
    rw [Table.lookup_insert_ite, if_neg (Nat.ne_of_gt late), free]
  · intro t task found
    rw [Table.lookup_insert_ite] at found
    split at found
    · obtain rfl := Option.some.inj found
      exact ⟨c, there⟩
    · exact balanced.known found
  · intro t task found wellFormed up'
    rw [spoke]
    rw [Table.lookup_insert_ite] at found
    split at found
    · rename_i new
      subst new
      obtain rfl := Option.some.inj found
      obtain ⟨-, silent⟩ := balanced.fresh (Nat.le_refl w.next)
      exact ⟨by simp, Task.stands_start wellFormed rfl rfl, fun _ => silent conn⟩
    · exact balanced.accounts found wellFormed up'

/-- The hub of a task step. -/
theorem Balanced.of_effect (balanced : Balanced service ts w) {conn : ConnectionId} {hub : Hub}
    (effect : Task.Effect service.cfg w.hub conn t hub) :
    Hub.Sound service.cfg hub ∧ hub.Unheard ∧ w.hub.next ≤ hub.next ∧ w.hub.Closes hub ∧
      (∀ conn' u, u ≠ t → hub.said conn' (· = .task u) = w.hub.said conn' (· = .task u)) ∧
      ∀ conn' u, u ≠ t → Task.Carries conn' u w.hub (Spoke ts) hub (Spoke ts) := by
  cases effect with
  | none =>
      refine ⟨balanced.sound, balanced.unheard, Nat.le_refl _, fun _ c found => ⟨c, found, fun up => up⟩, ?_, ?_⟩
      · exact fun _ _ _ => rfl
      · exact fun _ _ _ => ⟨fun tracks => tracks, fun _ given => given, rfl⟩
  | move move nobody =>
      refine ⟨balanced.sound.of_move move, balanced.unheard.of_move balanced.sound move, move.next_le, move.closes, ?_, ?_⟩
      · exact fun conn' _ _ => move.said conn' (by simp)
      · exact fun _ _ _ => Task.carries_of_move move nobody
  | push =>
      refine ⟨?_, balanced.unheard.push (fun _ => rfl), ?_, Hub.closes_push, ?_, ?_⟩
      · exact balanced.sound.still (Hub.push_subs ..) (Hub.push_next ..) Hub.samePermits_push (by simp)
      · rw [Hub.push_next]
      · intro conn' u other
        rw [Hub.said_push]
        simp [Ne.symm other]
      · exact fun _ _ other => Task.carries_of_push (Ne.symm other)

/-- A task takes a step. -/
theorem Balanced.of_task (balanced : Balanced service ts w) {a : TaskAction} (found : w.tasks.lookup t = some task)
    {hub : Hub} {task' : Task} (taken : service.stepTask w.hub t task a = some (hub, task')) :
    Balanced service (ts ++ [⟨w, .task t a, { w with hub, tasks := w.tasks.insert t task' }⟩])
      { w with hub, tasks := w.tasks.insert t task' } := by
  have spoke : Spoke (ts ++ [⟨w, .task t a, { w with hub, tasks := w.tasks.insert t task' }⟩]) = Spoke ts :=
    spoke_snoc_of_ne (by simp)
  obtain ⟨sameConn, sameMessage, effect⟩ := Task.stepTask_effect taken
  obtain ⟨sound, unheard, grows, closes, said, carries⟩ := balanced.of_effect effect
  have here : t < w.next := by
    by_contra late
    cases found.symm.trans (balanced.fresh (Nat.le_of_not_lt late)).1
  refine ⟨sound, unheard, ?_, ?_, ?_, ?_⟩
  · intro n late
    rw [spoke]
    exact balanced.unspoken (Nat.le_trans grows late)
  · intro u late
    have other : u ≠ t := Nat.ne_of_gt (Nat.lt_of_lt_of_le here late)
    obtain ⟨free, silent⟩ := balanced.fresh late
    refine ⟨?_, fun conn => (said conn u other).trans (silent conn)⟩
    rw [Table.lookup_insert_ite, if_neg other, free]
  · intro u task₁ found₁
    have knew : ∃ c, w.hub.conns.lookup task₁.conn = some c := by
      rw [Table.lookup_insert_ite] at found₁
      split at found₁
      · obtain rfl := Option.some.inj found₁
        rw [sameConn]
        exact balanced.known found
      · exact balanced.known found₁
    obtain ⟨c, there⟩ := knew
    obtain ⟨c', there', -⟩ := closes _ c there
    exact ⟨c', there'⟩
  · intro u task₁ found₁ wellFormed up'
    rw [spoke]
    rw [Table.lookup_insert_ite] at found₁
    split at found₁
    · rename_i same
      subst same
      obtain rfl := Option.some.inj found₁
      obtain ⟨c, there⟩ := balanced.known found
      rw [sameConn] at up'
      rw [sameMessage] at wellFormed
      have up := closes.was_open there up'
      exact (balanced.accounts found wellFormed up).of_stepTask balanced.unheard (balanced.unspoken (Nat.le_refl _)) up
        wellFormed.no_error taken
    · rename_i other
      obtain ⟨c, there⟩ := balanced.known found₁
      have up := closes.was_open there up'
      exact (balanced.accounts found₁ wellFormed up).carry (carries _ u other)

theorem balanced (run : Run (step service) .new ts w) : Balanced service ts w := by
  induction run with
  | nil => exact .new service
  | @snoc ts w a w' earlier taken ih =>
      cases a with
      | hub a =>
          simp only [step] at taken
          obtain ⟨free, taken⟩ := Option.ite_none_right_eq_some.mp taken
          obtain ⟨hub, moved, rfl⟩ := Option.map_eq_some_iff.mp taken
          exact ih.of_hub free moved
      | receive conn data extensions => exact ih.of_receive taken
      | task t a =>
          obtain ⟨task, found, taken⟩ := Option.bind_eq_some_iff.mp taken
          obtain ⟨⟨hub, task'⟩, moved, rfl⟩ := Option.map_eq_some_iff.mp taken
          exact ih.of_task found moved

end Serving

end Server

end Jsonrpsee
