import Jsonrpsee.Client.Posted
import Jsonrpsee.Duplex.Session

/-! # Who answers a caller

A caller of the client gets what a task of the server has said, and this task
runs the request of the caller: the same method with the same params.
-/

namespace Jsonrpsee

open Server

theorem Link.calm_new (link : Link) : link.new.serving.Calm link.conn where
  up := by
    simp only [Link.new, Hub.isOpen, Finmap.lookup_insert, Option.any_some]
    rfl
  unharmed found := by cases found
  small found := by cases found
  unheard found := by cases found

namespace Duplex

variable {link : Link} {d : Duplex}

theorem ask_of_single {frame : Json} {id : Id} (asks : askOf frame = some (.single id)) : requestId frame = some id := by
  unfold askOf at asks
  split at asks
  · rename_i found
    obtain rfl := Ask.single.inj (Option.some.inj asks)
    exact found
  · cases asks
  · cases asks

theorem ask_of_batch {frame : Json} {ids : Multiset Id} (asks : askOf frame = some (.batch ids)) :
    ∃ own, batchIds frame = some own ∧ (own : Multiset Id) = ids := by
  unfold askOf at asks
  split at asks
  · cases asks
  · rename_i own none found
    exact ⟨own, found, Ask.batch.inj (Option.some.inj asks)⟩
  · cases asks

/-- The next message is said by a task that runs a frame which asks for it. -/
theorem Matched.answerer (matched : Matched link d) (calm : d.serving.Calm link.conn) {message : Origin × RawText}
    (next : (link.messages d)[d.read]? = some message) {ask : Ask} (answers : answerTo message.2.value = some ask) :
    ∃ n task frame extensions, d.serving.tasks.lookup n = some task ∧ task.conn = link.conn ∧
      task.sends n message.1 = true ∧ frame ∈ d.frames ∧ askOf frame = some ask ∧
      link.service.serde.fromSlice frame.bytes = .ok frame ∧ ServerAdmits link.service frame ∧
      task.message = link.service.read frame.bytes extensions := by
  obtain ⟨us, run, -⟩ := matched.serving
  obtain ⟨n, task, found, here, own, asks⟩ :=
    (matched.orderly calm).answerer run (List.mem_of_getElem? next) answers
  obtain ⟨frame, member, extensions, reads, admitted, source⟩ := matched.sources found here
  obtain ⟨same, -⟩ := read_frame extensions (matched.framed frame member) reads admitted
  rw [source, same] at asks
  exact ⟨n, task, frame, extensions, found, here, own, member, asks, reads, admitted, source⟩

/-- Only the task itself answers for a batch. -/
theorem origin_of_batch {serving : Serving} {conn : ConnectionId} (calm : serving.Calm conn) {n : TaskId} {task : Task}
    (found : serving.tasks.lookup n = some task) (here : task.conn = conn) {entries : List Entry}
    (message : task.message = .batch entries) {origin : Origin} {rps : List MethodResponse}
    (said : (origin, arrayOf rps) ∈ serving.hub.outgoing conn) (sends : task.sends n origin = true)
    (spoken : origin.Says (arrayOf rps)) : origin = .task n := by
  have batch : task.message.isSingle = false := by
    rw [message]
    rfl
  have unheard : ∀ k ∈ task.sinks, ¬ Origin.isAnswer k origin = true := by
    intro k member answers
    have spoke : arrayOf rps ∈ serving.hub.said conn (Origin.isAnswer k) := Task.mem_said.mpr ⟨origin, answers, said⟩
    rw [calm.unheard found here batch k member] at spoke
    cases spoke
  cases origin with
  | task u => exact congrArg Origin.task (of_decide_eq_true sends)
  | accept k | reject k => exact absurd (by simp [Origin.isAnswer]) (unheard k (of_decide_eq_true sends))
  | sink k =>
      obtain ⟨method, subId, member, value, -, same⟩ := spoken
      cases congrArg RawText.value same

section Runs

variable {ts : List (Transition Duplex DuplexAction)} (run : Run link.step link.new ts d) (fair : ∀ t ∈ ts, link.Fair t)

include run fair

theorem matched_before {t} (member : t ∈ ts) : Matched link t.before := by
  obtain ⟨pre, post, rfl, earlier, -⟩ := run.split member
  exact matched earlier fun u before => fair u (List.mem_append_left _ before)

/-- What the client receives is the next message of the server. -/
theorem received_next {v : Transition Client ClientAction} (seen : v ∈ ts.filterMap link.clientStep) {raw : List UInt8}
    (receives : v.action = .receive raw) :
    ∃ u ∈ ts, u.action = .down ∧ Matched link u.before ∧ u.before.serving.Calm link.conn ∧
      (∀ frame ∈ u.before.frames, frame ∈ Client.wire link.cfg (ts.filterMap link.clientStep)) ∧
      ∃ message, (link.messages u.before)[u.before.read]? = some message ∧ message.2.bytes = raw ∧
        link.serde.fromSlice message.2.bytes = .ok message.2.value := by
  obtain ⟨u, member, same⟩ := List.mem_filterMap.mp seen
  obtain ⟨pre, post, rfl, earlier, taken, -⟩ := run.split member
  have matched := matched_before run fair member
  have fairHere := fair u member
  have frames := (Link.client_run earlier).2
  obtain ⟨before, action, after⟩ := u
  dsimp only at taken matched frames
  cases Link.move_of_step taken with
  | client front moved =>
      cases same
      exact absurd receives (front raw)
  | server | up => cases same
  | down next moved =>
      simp only [Link.clientStep, next, Option.map_some] at same
      obtain rfl := Option.some.inj same
      cases receives
      refine ⟨_, member, rfl, matched, fairHere.calm, fun frame there => ?_, _, next, rfl, fairHere.down _ rfl next⟩
      dsimp only at there
      rw [List.filterMap_append, Client.wire, List.flatMap_append]
      rw [frames] at there
      exact List.mem_append_left _ there

/-- The answer to a call was said by the task of the server that runs this call. -/
theorem call_answered_by_own_task {t} (member : t ∈ ts) {method : String} {params : Option RawValue}
    (action : t.action = .client (.request method params)) {answer : Answer}
    (given : answer ∈ d.client.backend.channels.answers) (own : answer.oneshot = t.before.client.nextOneshot) :
    ∃ u ∈ ts, u.action = .down ∧ ∃ n task extensions origin, ∃ r : Response,
      u.before.serving.tasks.lookup n = some task ∧ task.conn = link.conn ∧ task.message = .call (Request.received
        { id := link.idKind.intoId t.before.client.ids.currentId, method, params }) extensions ∧
      (link.messages u.before)[u.before.read]? = some (origin, .ofJson r.toJson) ∧ task.sends n origin = true ∧
      answer.reply = .call (.ok r.reread) := by
  obtain ⟨clientRun, -⟩ := Link.client_run run
  have conformant : ∀ v ∈ ts.filterMap link.clientStep, Conformant link.serde v :=
    fun v seen => conformant_of_fair run fair seen
  have seen : (⟨t.before.client, .request method params, t.after.client⟩ : Transition _ _) ∈ ts.filterMap link.clientStep :=
    List.mem_filterMap.mpr ⟨t, member, by rw [Link.clientStep, action]⟩
  obtain ⟨-, -, -, -, taken, -⟩ := clientRun.split seen
  have kind := (matched_before run fair member).client.kind
  have issued := Client.issued_of_step clientRun conformant seen (Client.issued_of_request taken)
  rw [kind] at issued
  obtain ⟨v, received, op, answering⟩ := Client.answering_of_issued clientRun conformant given (own ▸ issued)
  obtain ⟨raw, rp, receives, single, reply, -, idSame⟩ := answering.call
  obtain ⟨u, there, down, matched, calm, wired, message, next, rfl, reads⟩ := received_next run fair received receives
  obtain ⟨us, serverRun, built⟩ := matched.serving
  have spoken := (Serving.formed serverRun built).hub.channels (List.mem_of_getElem? next)
  have answerer := @Matched.answerer link u.before matched calm message next
  obtain ⟨origin, json⟩ := message
  rcases spoken.forms with ⟨rp', ⟨r, built, same⟩, rfl⟩ | ⟨rps, -, formed, rfl⟩ | notice
  · obtain ⟨single', answers⟩ := reads_response built same reads
    obtain rfl := Option.some.inj (single.symm.trans single')
    obtain ⟨n, task, frame, extensions, found, here, sends, sent, asks, readsUp, admitted, source⟩ := answerer answers
    have carries := ask_of_single asks
    rw [show r.id = _ from idSame] at carries
    obtain rfl := Client.frame_of_request clientRun conformant seen rfl (wired frame sent) carries
    rw [read_request extensions readsUp] at source
    rw [same] at next
    exact ⟨u, there, down, n, task, extensions, origin, r, found, here, source, next, sends, reply⟩
  · obtain ⟨rs, responses, -⟩ := reads_batch formed reads
    cases single.symm.trans (SerdeJson.single_of_responses responses)
  · cases single.symm.trans (reads_notice notice reads).single

/-- The answer to a batch was said by the task of the server that runs this batch. -/
theorem batch_answered_by_own_task {t} (member : t ∈ ts) {batch : List (String × Option RawValue)}
    (action : t.action = .client (.batchRequest batch)) (nonempty : batch ≠ [])
    (fits : t.before.client.ids.currentId.toNat + batch.length < 2 ^ 64) {answer : Answer}
    (given : answer ∈ d.client.backend.channels.answers) (own : answer.oneshot = t.before.client.nextOneshot) :
    ∃ u ∈ ts, u.action = .down ∧ ∃ n task extensions, ∃ rps : List MethodResponse, ∃ read responses,
      u.before.serving.tasks.lookup n = some task ∧ task.conn = link.conn ∧
      task.message = .batch ((Client.batchRequests link.idKind batch
        (.ofLen t.before.client.ids.currentId batch.length)).map fun req => .ok (.call req.received extensions)) ∧
      (link.messages u.before)[u.before.read]? = some (.task n, arrayOf rps) ∧
      (rps.map (·.json.value)).mapM Response.fromJson = some read ∧ responses.Perm read ∧
      responses.map Response.id = Client.batchIdsFrom link.idKind t.before.client.ids.currentId batch.length ∧
      answer.reply = .batch (.ok responses) := by
  obtain ⟨clientRun, -⟩ := Link.client_run run
  have conformant : ∀ v ∈ ts.filterMap link.clientStep, Conformant link.serde v :=
    fun v seen => conformant_of_fair run fair seen
  have seen : (⟨t.before.client, .batchRequest batch, t.after.client⟩ : Transition _ _) ∈ ts.filterMap link.clientStep :=
    List.mem_filterMap.mpr ⟨t, member, by rw [Link.clientStep, action]⟩
  obtain ⟨-, -, -, -, taken, -⟩ := clientRun.split seen
  have issued := Client.issued_of_step clientRun conformant seen (Client.issued_of_batchRequest nonempty fits taken)
  obtain ⟨v, received, op, answering⟩ := Client.answering_of_issued clientRun conformant given (own ▸ issued)
  obtain ⟨raw, rps, responses, receives, array, reply, -, perm, order⟩ := answering.batch
  have idsSame : (responses.map Response.id).Perm (rps.map Response.id) := perm.map Response.id
  rw [Client.numbers_batch link.idKind fits] at order
  obtain ⟨u, there, down, matched, calm, wired, message, next, rfl, reads⟩ := received_next run fair received receives
  obtain ⟨us, serverRun, built⟩ := matched.serving
  have spoken := (Serving.formed serverRun built).hub.channels (List.mem_of_getElem? next)
  have answerer := @Matched.answerer link u.before matched calm message next
  obtain ⟨origin, json⟩ := message
  rcases spoken.forms with ⟨rp, ⟨r, built, same⟩, rfl⟩ | ⟨said, -, formed, rfl⟩ | notice
  · obtain ⟨single, -⟩ := reads_response built same reads
    cases single.symm.trans (SerdeJson.single_of_responses array)
  · obtain ⟨rs, responses', answers, values⟩ := reads_batch formed reads
    obtain rfl := Option.some.inj (array.symm.trans responses')
    obtain ⟨n, task, frame, extensions, found, here, sends, sent, asks, readsUp, admitted, source⟩ := answerer answers
    obtain ⟨ids, carries, sameIds⟩ := ask_of_batch asks
    have inOrder := (Multiset.coe_eq_coe.mp sameIds).trans idsSame.symm
    rw [order] at inOrder
    obtain rfl := Client.frame_of_batch clientRun conformant seen rfl nonempty fits (wired frame sent) carries inOrder
    have allowed := admitted
    rw [ServerAdmits, List.length_map] at allowed
    rw [read_batch extensions readsUp allowed] at source
    have origin_ := origin_of_batch calm found here source (List.mem_of_getElem? next) sends spoken
    exact ⟨u, there, down, n, task, extensions, said, _, responses, found, here, source, origin_ ▸ next, values, perm,
      order, reply⟩
  · cases (reads_notice notice reads).responses.symm.trans array

theorem calm : d.serving.Calm link.conn := by
  cases run with
  | nil => exact link.calm_new
  | snoc earlier taken => exact (fair _ (List.mem_append_right _ List.mem_cons_self)).calm

/-- Nobody is forgotten: when the queue and the wire are empty, the tasks of the
    connection are through and the client has read everything, then it waits for
    nothing, and every caller has been answered, exactly once. -/
theorem answered_at_rest (sent : d.client.inFlight = []) (arrived : d.arrived = d.frames.length)
    (through : ∀ {t task}, d.serving.tasks.lookup t = some task → task.conn = link.conn → task.state = .done false)
    (read : d.read = (link.messages d).length) :
    d.client.owed = [] ∧ d.client.backend.channels.answered.Nodup ∧ ∀ {oneshot registration},
      d.client.issued.lookup oneshot = some registration → oneshot ∈ d.client.backend.channels.answered := by
  have matched := matched run fair
  obtain ⟨clientRun, -⟩ := Link.client_run run
  have conformant : ∀ v ∈ ts.filterMap link.clientStep, Conformant link.serde v :=
    fun v seen => conformant_of_fair run fair seen
  obtain ⟨us, serverRun, -⟩ := matched.serving
  have asked := matched.asked
  rw [arrived, List.take_length] at asked
  have delivered : d.delivered link = d.serving.answered link.conn := by
    rw [Duplex.delivered, read, List.take_length]
    rfl
  have paid := ((matched.orderly (calm run fair)).exactly serverRun through).trans (.of_eq asked)
  -- Everything that was asked for has been delivered.
  have nothing : d.client.owed = [] := by
    have lengths := paid.length_eq.trans matched.ledger.length_eq
    rw [List.length_append, delivered] at lengths
    exact List.eq_nil_of_length_eq_zero (by omega)
  obtain ⟨calls, batches⟩ := List.append_eq_nil_iff.mp nothing
  obtain ⟨answered, once⟩ := Client.all_answered clientRun conformant sent (List.map_eq_nil_iff.mp calls)
    (List.map_eq_nil_iff.mp batches)
  exact ⟨nothing, once, answered⟩

end Runs

/-- The client has been told everything, and the tasks of the server are through. -/
def isAtRest (link : Link) (d : Duplex) : Bool :=
  d.client.inFlight.length = 0 ∧ d.arrived = d.frames.length ∧ d.read = (link.messages d).length ∧
    Table.count d.serving.tasks (fun task => ¬ Serving.isDone task.state = true) = 0

theorem through_of_count {serving : Serving} (none : Table.count serving.tasks (fun task => ¬ Serving.isDone task.state = true) = 0)
    {t : TaskId} {task : Task} (found : serving.tasks.lookup t = some task) : task.state = .done false :=
  Serving.of_isDone (not_not.mp fun running => (Table.count_eq_zero_iff _).mp none found running)

/-- The caller of `say_hello` gets what the task of its request has said. -/
theorem call_answered_by_own_task_hello :
    ∃ ts d, Run (helloLink helloRequest.toJson helloAnswer.toJson).step
        (helloLink helloRequest.toJson helloAnswer.toJson).new ts d ∧ ts.map Transition.action = helloRun ∧
      ∃ answer ∈ d.client.backend.channels.answers, ∃ u ∈ ts, u.action = .down ∧
        ∃ n task extensions, u.before.serving.tasks.lookup n = some task ∧
          task.message = .call (helloRequest.received) extensions := by
  obtain ⟨ts, d, run, labels, state⟩ := Run.records (helloLink helloRequest.toJson helloAnswer.toJson).step
    (helloLink helloRequest.toJson helloAnswer.toJson).new helloRun
    (fun ts d => isFair (helloLink helloRequest.toJson helloAnswer.toJson) ts ∧
      d.client.backend.channels.answers.map Answer.oneshot = [0] ∧
      ts.all fun t => !(t.action matches .client (.request _ _)) ||
        (t.before.client.nextOneshot = 0 && t.before.client.ids.currentId = 0))
    (by decide +kernel)
  obtain ⟨tests, answered, starts⟩ := of_decide_eq_true state
  have fair := fair_of_isFair rfl tests
  obtain ⟨answer, given, own⟩ : ∃ answer ∈ d.client.backend.channels.answers, answer.oneshot = 0 := by
    have first : 0 ∈ d.client.backend.channels.answers.map Answer.oneshot := by
      rw [answered]
      exact List.mem_cons_self
    exact List.mem_map.mp first
  obtain ⟨t, member, action⟩ : ∃ t ∈ ts, t.action = .client (.request "say_hello" none) :=
    List.mem_map.mp (labels ▸ List.mem_cons_self)
  have first := List.all_eq_true.mp starts t member
  rw [action] at first
  simp only [Bool.not_true, Bool.false_or, Bool.and_eq_true, decide_eq_true_iff] at first
  obtain ⟨oneshot, drawn⟩ := first
  obtain ⟨u, there, down, n, task, extensions, origin, r, found, -, source, -⟩ :=
    call_answered_by_own_task run fair member action given (own.trans oneshot.symm)
  rw [drawn] at source
  exact ⟨ts, d, run, labels, answer, given, u, there, down, n, task, extensions, found, source⟩

/-- A client sends a batch of one call. -/
def helloBatchRun : List DuplexAction :=
  [.client (.batchRequest [("say_hello", none)]), .client (.send 0), .up ∅, .server (.task 0 .loop),
    .server (.task 0 (.call (.payload (.success (.str "lo")) none) (.num 7))), .server (.task 0 .collect),
    .server (.task 0 .loop), .server (.task 0 .send), .down]

/-- The caller of a batch gets what the task of its batch has said. -/
theorem batch_answered_by_own_task_hello :
    ∃ ts d, Run (helloLink (.arr [helloRequest.toJson]) (.arr [helloAnswer.toJson])).step
        (helloLink (.arr [helloRequest.toJson]) (.arr [helloAnswer.toJson])).new ts d ∧
      ts.map Transition.action = helloBatchRun ∧ ∃ answer ∈ d.client.backend.channels.answers, ∃ responses,
        answer.reply = .batch (.ok responses) ∧ responses.map Response.id = [.number 0] := by
  obtain ⟨ts, d, run, labels, state⟩ := Run.records
    (helloLink (.arr [helloRequest.toJson]) (.arr [helloAnswer.toJson])).step
    (helloLink (.arr [helloRequest.toJson]) (.arr [helloAnswer.toJson])).new helloBatchRun
    (fun ts d => isFair (helloLink (.arr [helloRequest.toJson]) (.arr [helloAnswer.toJson])) ts ∧
      d.client.backend.channels.answers.map Answer.oneshot = [0] ∧
      ts.all fun t => !(t.action matches .client (.batchRequest _)) ||
        (t.before.client.nextOneshot = 0 && t.before.client.ids.currentId = 0))
    (by decide +kernel)
  obtain ⟨tests, answered, starts⟩ := of_decide_eq_true state
  obtain ⟨answer, given, own⟩ : ∃ answer ∈ d.client.backend.channels.answers, answer.oneshot = 0 := by
    have first : 0 ∈ d.client.backend.channels.answers.map Answer.oneshot := by
      rw [answered]
      exact List.mem_cons_self
    exact List.mem_map.mp first
  obtain ⟨t, member, action⟩ : ∃ t ∈ ts, t.action = .client (.batchRequest [("say_hello", none)]) :=
    List.mem_map.mp (labels ▸ List.mem_cons_self)
  have first := List.all_eq_true.mp starts t member
  rw [action] at first
  simp only [Bool.not_true, Bool.false_or, Bool.and_eq_true, decide_eq_true_iff] at first
  obtain ⟨oneshot, drawn⟩ := first
  have fits : t.before.client.ids.currentId.toNat + [("say_hello", (none : Option RawValue))].length < 2 ^ 64 := by
    rw [drawn]
    decide
  obtain ⟨u, there, down, n, task, extensions, rps, read, responses, -, -, -, -, -, -, order, reply⟩ :=
    batch_answered_by_own_task run (fair_of_isFair rfl tests) member action (List.cons_ne_nil _ _) fits given
      (own.trans oneshot.symm)
  rw [drawn] at order
  exact ⟨ts, d, run, labels, answer, given, responses, reply, order⟩

/-- Then nobody waits any more. -/
theorem answered_at_rest_hello :
    ∃ ts d, Run (helloLink helloRequest.toJson helloAnswer.toJson).step
        (helloLink helloRequest.toJson helloAnswer.toJson).new ts d ∧ ts.map Transition.action = helloRun ∧
      d.client.issued.lookup 0 = some (.call (.number 0)) ∧ 0 ∈ d.client.backend.channels.answered := by
  obtain ⟨ts, d, run, labels, state⟩ := Run.records (helloLink helloRequest.toJson helloAnswer.toJson).step
    (helloLink helloRequest.toJson helloAnswer.toJson).new helloRun
    (fun ts d => isFair (helloLink helloRequest.toJson helloAnswer.toJson) ts ∧
      isAtRest (helloLink helloRequest.toJson helloAnswer.toJson) d ∧
      d.client.issued.lookup 0 = some (.call (.number 0)))
    (by decide +kernel)
  obtain ⟨tests, atRest, issued⟩ := of_decide_eq_true state
  obtain ⟨sent, arrived, read, through⟩ := of_decide_eq_true atRest
  have answered := (answered_at_rest run (fair_of_isFair rfl tests) (List.eq_nil_of_length_eq_zero sent) arrived
    (fun found _ => through_of_count through found) read).2.2 issued
  exact ⟨ts, d, run, labels, issued, answered⟩

end Duplex

end Jsonrpsee
