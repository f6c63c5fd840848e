import Jsonrpsee.Lib.Run
import Jsonrpsee.Lib.Table
import Jsonrpsee.Client.Ids

/-! # How the client learns why it was disconnected

`send_task` and `read_task` report the result of their loop on a channel of
capacity one, `wait_for_shutdown` takes the first report and writes the reason,
and `read_error` reads it once the front-end channel is closed. A task is its
program counter; what it does inside its loop matters here only by the error the
loop ends with.

`send_task` closes the front-end channel before it reports. When its own
transport has failed, `read_error` can therefore run ahead of the reason.
-/

namespace Jsonrpsee

/-- What the loop of a background task ends with. -/
abbrev LoopResult := Except Error Unit

/-- `send_task`: its loop, and what is left to do after it. -/
inductive SendTask where
  | running
  /-- Before `from_frontend.close()`. -/
  | closeFrontend (res : LoopResult)
  /-- In `sender.close().await`. -/
  | closeSender (res : LoopResult)
  /-- In `close_tx.send(res).await`. -/
  | report (res : LoopResult)
  | done (res : LoopResult)

/-- `read_task`. -/
inductive ReadTask where
  | running
  /-- In `close_tx.send(res).await`. -/
  | report (res : LoopResult)
  | done (res : LoopResult)

/-- `wait_for_shutdown`. It holds the receiver of the reports until it is done. -/
inductive Shutdown where
  /-- In the `select`. -/
  | waiting
  /-- `close_rx.recv()` has completed. -/
  | received (item : Option LoopResult)
  /-- After the `if let`. -/
  | returning
  | done

/-- A call of `read_error`. -/
inductive Reader where
  /-- In `self.conn.closed().await`. -/
  | waiting
  /-- Before the reason is read. -/
  | closed
  | returned (e : Error)

@[simp]
def SendTask.result : SendTask → Option LoopResult
  | .running => none
  | .closeFrontend res | .closeSender res | .report res | .done res => some res

@[simp]
def ReadTask.result : ReadTask → Option LoopResult
  | .running => none
  | .report res | .done res => some res

structure Tasks where
  sendTask : SendTask
  readTask : ReadTask
  shutdown : Shutdown
  /-- The receiver of the front-end channel has been closed. -/
  frontendClosed : Bool
  /-- The reports that have been sent and not received. -/
  reports : List LoopResult
  disconnectReason : Option Error
  /-- The `Client` has been dropped. -/
  clientDropped : Bool
  readers : Table Nat Reader

inductive TaskAction where
  /-- The loop of `send_task` breaks: a frame or a ping could not be sent. -/
  | sendFails (text : String)
  /-- It breaks with `Ok`: nobody waits for the report, or no sender of the
      front-end channel is left. -/
  | sendStops
  | closeFrontend
  | closeSender
  | sendReports
  /-- The loop of `read_task` breaks: the transport failed, a message could not be
      handled, or the connection was inactive. -/
  | readFails (e : Error)
  | readStops
  | readReports
  | recv
  | writeReason
  | dropReceiver
  | dropClient
  /-- The `select` of `wait_for_shutdown` ends with the client. -/
  | seeDropped
  | callReadError (r : Nat)
  | seeClosed (r : Nat)
  | readReason (r : Nat)

namespace Tasks

def new : Tasks where
  sendTask := .running
  readTask := .running
  shutdown := .waiting
  frontendClosed := false
  reports := []
  disconnectReason := none
  clientDropped := false
  readers := ∅

/-- `close_tx.send(res)`: waits for room, and fails when the receiver is gone. -/
def sendReport (s : Tasks) (res : LoopResult) : Option Tasks :=
  match s.shutdown with
  | .done => some s
  | _ => if s.reports.length < 1 then some { s with reports := s.reports ++ [res] } else none

/-- The text of `read_error` when there is no reason. -/
def noReason : String := "Error reason could not be found. This is a bug. Please open an issue."

/-- What `read_error` makes of the reason. -/
def readError : Option Error → Error
  | some e => .restartNeeded e
  | none => .custom noReason

def step (s : Tasks) : TaskAction → Option Tasks
  | .sendFails text =>
      match s.sendTask with
      | .running => some { s with sendTask := .closeFrontend (.error (.transport text)) }
      | _ => none
  | .sendStops =>
      match s.sendTask, s.shutdown, s.clientDropped with
      | .running, .done, _ | .running, _, true => some { s with sendTask := .closeFrontend (.ok ()) }
      | _, _, _ => none
  | .closeFrontend =>
      match s.sendTask with
      | .closeFrontend res => some { s with sendTask := .closeSender res, frontendClosed := true }
      | _ => none
  | .closeSender =>
      match s.sendTask with
      | .closeSender res => some { s with sendTask := .report res }
      | _ => none
  | .sendReports =>
      match s.sendTask with
      | .report res => (s.sendReport res).map fun s => { s with sendTask := .done res }
      | _ => none
  | .readFails e =>
      match s.readTask with
      | .running => some { s with readTask := .report (.error e) }
      | _ => none
  | .readStops =>
      match s.readTask, s.shutdown with
      | .running, .done => some { s with readTask := .report (.ok ()) }
      | _, _ => none
  | .readReports =>
      match s.readTask with
      | .report res => (s.sendReport res).map fun s => { s with readTask := .done res }
      | _ => none
  | .recv =>
      match s.shutdown, s.reports, s.sendTask, s.readTask with
      | .waiting, res :: rest, _, _ => some { s with shutdown := .received (some res), reports := rest }
      -- both senders are gone
      | .waiting, [], .done _, .done _ => some { s with shutdown := .received none }
      | _, _, _, _ => none
  | .writeReason =>
      match s.shutdown with
      | .received (some (.error e)) => some { s with shutdown := .returning, disconnectReason := some e }
      | .received _ => some { s with shutdown := .returning }
      | _ => none
  | .dropReceiver =>
      match s.shutdown with
      | .returning => some { s with shutdown := .done }
      | _ => none
  | .dropClient => if s.clientDropped then none else some { s with clientDropped := true }
  | .seeDropped =>
      match s.shutdown, s.clientDropped with
      | .waiting, true => some { s with shutdown := .returning }
      | _, _ => none
  | .callReadError r =>
      match s.readers.lookup r with
      | none => some { s with readers := s.readers.insert r .waiting }
      | some _ => none
  | .seeClosed r =>
      match s.readers.lookup r, s.frontendClosed with
      | some .waiting, true => some { s with readers := s.readers.insert r .closed }
      | _, _ => none
  | .readReason r =>
      match s.readers.lookup r with
      | some .closed => some { s with readers := s.readers.insert r (.returned (readError s.disconnectReason)) }
      | _ => none

/-- The loop of one of the background tasks has ended with this result. -/
def Ended (s : Tasks) (res : LoopResult) : Prop :=
  s.sendTask.result = some res ∨ s.readTask.result = some res

/-- `send_task` has left its loop with an error of its own, and
    `wait_for_shutdown` has not come to write a reason. -/
def Racing (s : Tasks) : Prop :=
  (∃ e, s.sendTask.result = some (.error e)) ∧
    (s.shutdown = .waiting ∨ ∃ item, s.shutdown = .received item)

/-- The tasks of a client that has not been dropped. -/
structure Reported (s : Tasks) : Prop where
  alive : s.clientDropped = false
  /-- A loop ends with `Ok` only when its report is of no use. -/
  failed : s.shutdown ≠ .done → ∀ {res}, s.Ended res → ∃ e, res = .error e
  queued : ∀ {res}, res ∈ s.reports → s.Ended res
  /-- The first report is not lost. -/
  sendKept : s.shutdown = .waiting → ∀ {res}, s.sendTask = .done res → res ∈ s.reports
  readKept : s.shutdown = .waiting → ∀ {res}, s.readTask = .done res → res ∈ s.reports
  taken : ∀ {item}, s.shutdown = .received item → ∃ res, item = some res ∧ s.Ended res
  unwritten : (s.shutdown = .waiting ∨ ∃ item, s.shutdown = .received item) → s.disconnectReason = none
  written : s.shutdown = .returning ∨ s.shutdown = .done →
    ∃ e, s.disconnectReason = some e ∧ s.Ended (.error e)
  closed : s.frontendClosed = true → ∃ res, s.sendTask.result = some res
  readers : ∀ {r}, s.readers.lookup r = some .closed → s.frontendClosed = true

theorem new_reported : Reported .new where
  alive := rfl
  failed _ _ ended := by rcases ended with ended | ended <;> cases ended
  queued member := by cases member
  sendKept _ _ done := by cases done
  readKept _ _ done := by cases done
  taken received := by cases received
  unwritten _ := rfl
  written returned := by rcases returned with returned | returned <;> cases returned
  closed closed := by cases closed
  readers found := by cases found

/-- A report is dropped, or it is the only one in the channel. -/
theorem sendReport_cases {s s' : Tasks} {res : LoopResult} (sent : s.sendReport res = some s') :
    (s.shutdown = .done ∧ s' = s) ∨
      (s.shutdown ≠ .done ∧ s.reports = [] ∧ s' = { s with reports := [res] }) := by
  unfold sendReport at sent
  split at sent
  · rename_i gone
    exact .inl ⟨gone, (Option.some.inj sent).symm⟩
  · rename_i there
    obtain ⟨room, sent⟩ := Option.ite_none_right_eq_some.mp sent
    have empty : s.reports = [] := List.length_eq_zero_iff.mp (by omega)
    rw [empty] at sent
    exact .inr ⟨there, empty, (Option.some.inj sent).symm⟩

namespace Reported

variable {s : Tasks}

/-- `send_task` moves on: a result stays, and a new one is an error unless nobody
    waits for it. -/
theorem send (reported : Reported s) {task : SendTask}
    (keeps : ∀ {res}, s.sendTask.result = some res → task.result = some res)
    (fresh : ∀ {res}, task.result = some res → s.sendTask.result = some res ∨ (∃ e, res = .error e) ∨
      s.shutdown = .done)
    (kept : s.shutdown = .waiting → ∀ {res}, task = .done res → res ∈ s.reports) :
    Reported { s with sendTask := task } := by
  have grows : ∀ {res}, s.Ended res → Ended { s with sendTask := task } res := fun ended => ended.imp_left keeps
  refine ⟨reported.alive, ?_, fun member => grows (reported.queued member), kept, reported.readKept, ?_,
    reported.unwritten, ?_, ?_, reported.readers⟩
  · intro waited res ended
    rcases ended with own | other
    · rcases fresh own with old | failure | gone
      · exact reported.failed waited (.inl old)
      · exact failure
      · exact absurd gone waited
    · exact reported.failed waited (.inr other)
  · intro item received
    obtain ⟨res, taken, ended⟩ := reported.taken received
    exact ⟨res, taken, grows ended⟩
  · intro late
    obtain ⟨e, reason, ended⟩ := reported.written late
    exact ⟨e, reason, grows ended⟩
  · intro closed
    obtain ⟨res, left⟩ := reported.closed closed
    exact ⟨res, keeps left⟩

/-- `read_task` moves on. -/
theorem read (reported : Reported s) {task : ReadTask}
    (keeps : ∀ {res}, s.readTask.result = some res → task.result = some res)
    (fresh : ∀ {res}, task.result = some res → s.readTask.result = some res ∨ (∃ e, res = .error e) ∨
      s.shutdown = .done)
    (kept : s.shutdown = .waiting → ∀ {res}, task = .done res → res ∈ s.reports) :
    Reported { s with readTask := task } := by
  have grows : ∀ {res}, s.Ended res → Ended { s with readTask := task } res := fun ended => ended.imp_right keeps
  refine ⟨reported.alive, ?_, fun member => grows (reported.queued member), reported.sendKept, kept, ?_,
    reported.unwritten, ?_, reported.closed, reported.readers⟩
  · intro waited res ended
    rcases ended with other | own
    · exact reported.failed waited (.inl other)
    · rcases fresh own with old | failure | gone
      · exact reported.failed waited (.inr old)
      · exact failure
      · exact absurd gone waited
  · intro item received
    obtain ⟨res, taken, ended⟩ := reported.taken received
    exact ⟨res, taken, grows ended⟩
  · intro late
    obtain ⟨e, reason, ended⟩ := reported.written late
    exact ⟨e, reason, grows ended⟩

/-- A task reports its result. -/
theorem report (reported : Reported s) {s' : Tasks} {res : LoopResult} (ended : s.Ended res)
    (sent : s.sendReport res = some s') :
    Reported s' ∧ s'.sendTask = s.sendTask ∧ s'.readTask = s.readTask ∧
      (s'.shutdown = .waiting → res ∈ s'.reports) := by
  rcases sendReport_cases sent with ⟨gone, rfl⟩ | ⟨there, empty, rfl⟩
  · exact ⟨reported, rfl, rfl, fun waiting => by rw [gone] at waiting; cases waiting⟩
  · refine ⟨⟨reported.alive, reported.failed, ?_, ?_, ?_, reported.taken, reported.unwritten,
      reported.written, reported.closed, reported.readers⟩, rfl, rfl, fun _ => List.mem_singleton_self res⟩
    · intro res' member
      obtain rfl := List.mem_singleton.mp member
      exact ended
    · intro waiting res' done
      exact absurd (reported.sendKept waiting done) (by simp [empty])
    · intro waiting res' done
      exact absurd (reported.readKept waiting done) (by simp [empty])

/-- Only the calls of `read_error` move on. -/
theorem reader (reported : Reported s) {r : Nat} {reader : Reader}
    (passed : reader = .closed → s.frontendClosed = true) :
    Reported { s with readers := s.readers.insert r reader } := by
  refine ⟨reported.alive, reported.failed, reported.queued, reported.sendKept, reported.readKept, reported.taken,
    reported.unwritten, reported.written, reported.closed, ?_⟩
  intro r' found
  rw [Table.lookup_insert_ite] at found
  split at found
  · exact passed (Option.some.inj found)
  · exact reported.readers found

/-- `wait_for_shutdown` takes the first report. -/
theorem recv (reported : Reported s) {res : LoopResult} {rest : List LoopResult} (waiting : s.shutdown = .waiting)
    (first : s.reports = res :: rest) :
    Reported { s with shutdown := .received (some res), reports := rest } := by
  have ended : s.Ended res := reported.queued (first ▸ List.mem_cons_self)
  refine ⟨reported.alive, fun _ => reported.failed (by simp [waiting]), ?_, by simp, by simp, ?_, ?_, by simp,
    reported.closed, reported.readers⟩
  · intro res' member
    exact reported.queued (first ▸ List.mem_cons_of_mem _ member)
  · intro item received
    obtain rfl := Shutdown.received.inj received
    exact ⟨res, rfl, ended⟩
  · intro _
    exact reported.unwritten (.inl waiting)

/-- It writes the reason: what it has received is an error. -/
theorem writes (reported : Reported s) {item : Option LoopResult} (received : s.shutdown = .received item) :
    ∃ e, item = some (.error e) ∧
      Reported { s with shutdown := .returning, disconnectReason := some e } := by
  obtain ⟨res, rfl, ended⟩ := reported.taken received
  obtain ⟨e, rfl⟩ := reported.failed (by simp [received]) ended
  refine ⟨e, rfl, reported.alive, fun _ => reported.failed (by simp [received]), reported.queued, by simp, by simp,
    by simp, by simp, ?_, reported.closed, reported.readers⟩
  intro _
  exact ⟨e, rfl, ended⟩

/-- It drops the receiver. -/
theorem finish (reported : Reported s) (returning : s.shutdown = .returning) :
    Reported { s with shutdown := .done } := by
  refine ⟨reported.alive, by simp, reported.queued, by simp, by simp, by simp, by simp, ?_, reported.closed,
    reported.readers⟩
  intro _
  exact reported.written (.inl returning)

end Reported

/-- Every step but the drop of the client keeps the reports. -/
theorem step_reported {s s' : Tasks} {a : TaskAction} (taken : s.step a = some s') (other : a ≠ .dropClient)
    (reported : Reported s) : Reported s' := by
  cases a <;> simp only [step] at taken
  case dropClient => exact absurd rfl other
  case sendFails text =>
    split at taken
    · rename_i running
      obtain rfl := Option.some.inj taken
      exact reported.send (by simp [running]) (by simp) (by simp)
    · cases taken
  case sendStops =>
    split at taken
    · rename_i running gone
      obtain rfl := Option.some.inj taken
      exact reported.send (by simp [running]) (by simp [gone]) (by simp)
    · rename_i dropped _
      simp [reported.alive] at dropped
    · cases taken
  case closeFrontend =>
    split at taken
    · rename_i res closing
      obtain rfl := Option.some.inj taken
      have moved : Reported { s with sendTask := .closeSender res } :=
        reported.send (by simp [closing]) (by simp [closing]) (by simp)
      exact { moved with closed := fun _ => ⟨res, rfl⟩, readers := fun _ => rfl }
    · cases taken
  case closeSender =>
    split at taken
    · rename_i res closing
      obtain rfl := Option.some.inj taken
      exact reported.send (by simp [closing]) (by simp [closing]) (by simp)
    · cases taken
  case sendReports =>
    split at taken
    · rename_i res reporting
      obtain ⟨after, sent, rfl⟩ := Option.map_eq_some_iff.mp taken
      obtain ⟨moved, same, -, kept⟩ := reported.report (.inl (by simp [reporting])) sent
      refine moved.send (by simp [same, reporting]) (by simp [same, reporting]) ?_
      rintro waiting res' ⟨⟩
      exact kept waiting
    · cases taken
  case readFails e =>
    split at taken
    · rename_i running
      obtain rfl := Option.some.inj taken
      exact reported.read (by simp [running]) (by simp) (by simp)
    · cases taken
  case readStops =>
    split at taken
    · rename_i running gone
      obtain rfl := Option.some.inj taken
      exact reported.read (by simp [running]) (by simp [gone]) (by simp)
    · cases taken
  case readReports =>
    split at taken
    · rename_i res reporting
      obtain ⟨after, sent, rfl⟩ := Option.map_eq_some_iff.mp taken
      obtain ⟨moved, -, same, kept⟩ := reported.report (.inr (by simp [reporting])) sent
      refine moved.read (by simp [same, reporting]) (by simp [same, reporting]) ?_
      rintro waiting res' ⟨⟩
      exact kept waiting
    · cases taken
  case recv =>
    split at taken
    · rename_i waiting first
      obtain rfl := Option.some.inj taken
      exact reported.recv waiting first
    · rename_i waiting none done _
      -- A task that is done has left its report in the channel.
      have kept := reported.sendKept waiting done
      rw [none] at kept
      cases kept
    · cases taken
  case writeReason =>
    split at taken
    · rename_i received
      obtain rfl := Option.some.inj taken
      obtain ⟨e, same, written⟩ := reported.writes received
      cases same
      exact written
    · rename_i noError received
      obtain ⟨e, rfl, -⟩ := reported.writes received
      exact absurd rfl (noError e)
    · cases taken
  case dropReceiver =>
    split at taken
    · rename_i returning
      obtain rfl := Option.some.inj taken
      exact reported.finish returning
    · cases taken
  case seeDropped =>
    split at taken
    · rename_i dropped
      rw [reported.alive] at dropped
      cases dropped
    · cases taken
  case callReadError r =>
    split at taken
    · obtain rfl := Option.some.inj taken
      exact reported.reader (by simp)
    · cases taken
  case seeClosed r =>
    split at taken
    · rename_i closed
      obtain rfl := Option.some.inj taken
      exact reported.reader fun _ => closed
    · cases taken
  case readReason r =>
    split at taken
    · obtain rfl := Option.some.inj taken
      exact reported.reader (by simp)
    · cases taken

theorem run_reported {ts s} (run : Run step .new ts s) (undropped : ∀ t ∈ ts, t.action ≠ .dropClient) :
    Reported s :=
  run.invariant Reported (fun t => t.action ≠ .dropClient) undropped new_reported
    fun _ other reported taken => step_reported taken other reported

/-- What `read_error` returns is decided by the reason that it reads. -/
theorem readReason_cases {s s' : Tasks} {r : Nat} (taken : s.step (.readReason r) = some s') :
    s.readers.lookup r = some .closed ∧
      s'.readers.lookup r = some (.returned (readError s.disconnectReason)) := by
  simp only [step] at taken
  split at taken
  · rename_i closed
    obtain rfl := Option.some.inj taken
    exact ⟨closed, Finmap.lookup_insert _⟩
  · cases taken

/-- `read_error` returns the error of a background task exactly when it does not
    race with `wait_for_shutdown` after a failure of `send_task`. -/
theorem readError_iff {ts s} (run : Run step .new ts s) (undropped : ∀ t ∈ ts, t.action ≠ .dropClient)
    {t r} (member : t ∈ ts) (reads : t.action = .readReason r) :
    (∃ e, t.after.readers.lookup r = some (.returned (.restartNeeded e)) ∧ t.before.Ended (.error e)) ↔
      ¬ t.before.Racing := by
  obtain ⟨pre, post, shape, before, taken, -⟩ := run.split member
  have reported : Reported t.before := by
    refine run_reported before fun t earlier => undropped t ?_
    rw [shape]
    exact List.mem_append_left _ earlier
  rw [reads] at taken
  obtain ⟨passed, returned⟩ := readReason_cases taken
  constructor
  · rintro ⟨e, restart, -⟩ ⟨-, early⟩
    rw [returned, reported.unwritten early] at restart
    cases restart
  · intro settled
    obtain ⟨res, left⟩ := reported.closed (reported.readers passed)
    have late : t.before.shutdown = .returning ∨ t.before.shutdown = .done := by
      by_contra unwritten
      have early : t.before.shutdown = .waiting ∨ ∃ item, t.before.shutdown = .received item := by
        cases pc : t.before.shutdown <;> simp_all
      obtain ⟨e, rfl⟩ := reported.failed (fun gone => unwritten (.inr gone)) (.inl left)
      exact settled ⟨⟨e, left⟩, early⟩
    obtain ⟨e, reason, ended⟩ := reported.written late
    rw [reason] at returned
    exact ⟨e, returned, ended⟩

/-- A frame cannot be sent: `send_task` closes the front-end channel, and
    `on_disconnect` finds no reason. -/
theorem readError_fallback :
    ∃ ts s, Run step .new ts s ∧
      ts.map Transition.action = [.sendFails "broken pipe", .callReadError 0, .closeFrontend, .seeClosed 0,
        .readReason 0] ∧
      s.sendTask.result = some (.error (.transport "broken pipe")) ∧
      s.readers.lookup 0 = some (.returned (.custom noReason)) :=
  ⟨_, _, .snoc (.snoc (.snoc (.snoc (.snoc .nil rfl) rfl) rfl) rfl) rfl, rfl, rfl, rfl⟩

/-- The connection is lost: `read_task` reports, and `send_task` stops after the
    reason has been written. -/
theorem readError_iff_lost :
    ∃ ts s t, Run step .new ts s ∧ t ∈ ts ∧ t.action = .readReason 0 ∧
      ∃ e, t.after.readers.lookup 0 = some (.returned (.restartNeeded e)) ∧ t.before.Ended (.error e) := by
  obtain ⟨ts, s, run, undropped, passed, written⟩ : ∃ ts s, Run step .new ts s ∧
      (∀ t ∈ ts, t.action ≠ .dropClient) ∧ s.readers.lookup 0 = some .closed ∧ s.shutdown = .done :=
    ⟨_, _, .snoc (.snoc (.snoc (.snoc (.snoc (.snoc (.snoc (.snoc (.snoc .nil
      (rfl : step _ (.readFails (.transport "connection reset")) = _))
      (rfl : step _ (.callReadError 0) = _)) (rfl : step _ .readReports = _)) (rfl : step _ .recv = _))
      (rfl : step _ .writeReason = _)) (rfl : step _ .dropReceiver = _)) (rfl : step _ .sendStops = _))
      (rfl : step _ .closeFrontend = _)) (rfl : step _ (.seeClosed 0) = _), by simp, rfl, rfl⟩
  obtain ⟨s', taken⟩ : ∃ s', s.step (.readReason 0) = some s' := by simp only [step, passed]; exact ⟨_, rfl⟩
  have later := run.snoc taken
  have member : (⟨s, .readReason 0, s'⟩ : Transition Tasks TaskAction) ∈ ts ++ [⟨s, .readReason 0, s'⟩] :=
    List.mem_append_right _ (List.mem_singleton_self _)
  refine ⟨_, _, _, later, member, rfl, (readError_iff later ?_ member rfl).mpr ?_⟩
  · intro t listed
    rcases List.mem_append.mp listed with earlier | last
    · exact undropped t earlier
    · obtain rfl := List.mem_singleton.mp last
      simp
  · rintro ⟨-, early | ⟨item, early⟩⟩ <;> cases written.symm.trans early

end Tasks

end Jsonrpsee
