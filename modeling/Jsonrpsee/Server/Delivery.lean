import Jsonrpsee.Lib.Run
import Jsonrpsee.Server.Broadcast

/-! # Delivery of notifications

Along every run of the manager each call of it that sends can return, and what it returns
tells where its copies went. Ids are not used again, so the task of a broadcast, which comes
later than the broadcast, still removes the connections that the broadcast has found closed.
-/

namespace Jsonrpsee

namespace Server

namespace Broadcast

namespace Notifier

variable {s s' : Notifier} {n : Nat} {c : Call}

/-! ## Calls come to their end -/

/-- Sinks have channels, and channels hold what fits. -/
structure Fits (s : Notifier) : Prop where
  sinks : ∀ connId sink, s.manager.connections.lookup connId = some sink → sink < s.channels.length
  logged : ∀ message ∈ s.log, message.sink < s.channels.length
  room : ∀ (sink : Sink) (channel : Channel), s.channels[sink]? = some channel →
    0 < channel.capacity ∧ (s.messages sink).length ≤ channel.taken + channel.capacity

namespace Fits

theorem fits_new : Fits new := by
  refine ⟨?_, ?_, ?_⟩
  · intro connId sink found
    rw [new, ConnectionManager.new, Finmap.lookup_empty] at found
    cases found
  · simp [new]
  · simp [new]

theorem channel (fits : Fits s) {capacity : Nat} (positive : 0 < capacity) :
    Fits { s with channels := s.channels ++ [{ capacity, taken := 0, closed := false }] } := by
  refine ⟨?_, ?_, ?_⟩
  · intro connId sink found
    rw [List.length_append]
    exact Nat.lt_add_right _ (fits.sinks connId sink found)
  · intro message member
    rw [List.length_append]
    exact Nat.lt_add_right _ (fits.logged message member)
  · intro sink channel found
    rw [List.getElem?_append] at found
    split at found
    · exact fits.room sink channel found
    · rename_i behind
      rw [List.getElem?_singleton] at found
      obtain ⟨-, same⟩ := Option.ite_none_right_eq_some.mp found
      cases same
      refine ⟨positive, ?_⟩
      have none : s.messages sink = [] := by
        refine List.filter_eq_nil_iff.mpr ?_
        intro message member here
        have known := fits.logged message member
        rw [of_decide_eq_true here] at known
        exact behind known
      change (s.messages sink).length ≤ _
      rw [none]
      exact Nat.zero_le _

/-- A channel is closed, or a message is taken off it. -/
theorem setChannel (fits : Fits s) {sink : Sink} {channel channel' : Channel}
    (found : s.channels[sink]? = some channel) (capacity : channel'.capacity = channel.capacity)
    (taken : channel.taken ≤ channel'.taken) : Fits { s with channels := s.channels.set sink channel' } := by
  refine ⟨?_, ?_, ?_⟩
  · intro connId sink' found'
    rw [List.length_set]
    exact fits.sinks connId sink' found'
  · intro message member
    rw [List.length_set]
    exact fits.logged message member
  · intro sink' channel'' found'
    rw [List.getElem?_set] at found'
    split at found'
    · rename_i same
      obtain ⟨-, now⟩ := Option.ite_none_right_eq_some.mp found'
      cases now
      subst same
      obtain ⟨positive, room⟩ := fits.room sink channel found
      rw [capacity]
      exact ⟨positive, Nat.le_trans room (Nat.add_le_add_right taken _)⟩
    · exact fits.room sink' channel'' found'

theorem send (fits : Fits s) {sink : Sink} {origin : Option (Nat × ConnectionId)} {json : RawText}
    {sent : Bool × Notifier} (sends : s.send sink origin json = some sent) : Fits sent.2 := by
  obtain ⟨channel, found, -⟩ := Option.bind_eq_some_iff.mp sends
  have known : sink < s.channels.length := (List.getElem?_eq_some_iff.mp found).1
  cases up : s.isOpen sink with
  | false =>
      rw [send_eq sends, up, if_neg Bool.false_ne_true, List.append_nil]
      exact fits
  | true =>
      have fitting := room_of_send sends up found
      rw [send_eq sends, up, if_pos rfl]
      refine ⟨fits.sinks, ?_, ?_⟩
      · intro message member
        rcases List.mem_append.mp member with old | new
        · exact fits.logged message old
        · rw [List.mem_singleton.mp new]
          exact known
      · intro sink' channel' found'
        obtain ⟨positive, room⟩ := fits.room sink' channel' found'
        refine ⟨positive, ?_⟩
        simp only [messages, List.filter_append, List.length_append]
        by_cases same : sink = sink'
        · subst same
          cases found.symm.trans found'
          simpa [messages] using Nat.succ_le_of_lt fitting
        · simpa [same, messages] using room

theorem tell (fits : Fits s) {connId : ConnectionId} {json : RawText}
    {told : Except NotificationError Unit × Notifier} (tells : s.tell n connId json = some told) : Fits told.2 := by
  rw [Notifier.tell] at tells
  split at tells
  · obtain ⟨sent, sends, rfl⟩ := Option.map_eq_some_iff.mp tells
    exact fits.send sends
  · cases tells
    exact fits

theorem unregister (fits : Fits s) (connId : ConnectionId) :
    Fits { s with manager := s.manager.unregisterConnection connId } := by
  refine ⟨?_, fits.logged, fits.room⟩
  intro connId' sink found
  rw [ConnectionManager.unregisterConnection, Table.lookup_erase_ite] at found
  exact fits.sinks connId' sink (Option.ite_none_left_eq_some.mp found).2

theorem of_move {a : Action} (fits : Fits s) (move : Move s a s') : Fits s' := by
  cases move with
  | channel positive => exact fits.channel positive
  | register unread known =>
      refine ⟨?_, fits.logged, fits.room⟩
      intro connId' sink found
      rw [ConnectionManager.registerConnection, Table.lookup_insert_ite] at found
      split at found
      · cases found
        exact known
      · exact fits.sinks connId' sink found
  | unregister => exact fits.unregister _
  | cleanUp => exact ⟨(fits.unregister _).sinks, fits.logged, fits.room⟩
  | close found => exact fits.setChannel found rfl (Nat.le_refl _)
  | receive found => exact fits.setChannel found rfl (Nat.le_succ _)
  | put put => exact fits.send put
  | send found next tells =>
      have fits := fits.tell tells
      exact ⟨fits.sinks, fits.logged, fits.room⟩
  | call | skip | finish | cancel => exact ⟨fits.sinks, fits.logged, fits.room⟩

end Fits

/-- The attempts that are left, and the return. -/
def left : Progress → Nat
  | .sending _ _ => 1
  | .sendingTo loop => loop.todo.length + 1
  | .broadcasting loop => loop.todo.length + 1
  | .returned _ | .cancelled => 0

/-- Every step of a call brings it closer to its end. -/
theorem next_of_isReading {p : Progress} (reading : p.isReading = true) :
    (∃ p', p.next = some (.skip p') ∧ p'.isReading = true ∧ left p' < left p) ∨
      (∃ connId json after, p.next = some (.send connId json after) ∧
        ∀ result, (after result).isReading = true ∧ left (after result) < left p ∨
          ∃ value, after result = .returned value) ∨
      ∃ value failedConnections, p.next = some (.finish value failedConnections) := by
  cases p with
  | returned | cancelled => cases reading
  | sending json connId => exact .inr (.inl ⟨_, _, _, rfl, fun result => .inr ⟨_, rfl⟩⟩)
  | sendingTo loop =>
      cases first : loop.todo with
      | nil => exact .inr (.inr ⟨_, _, by simp only [Progress.next, first]; rfl⟩)
      | cons connId todo =>
          refine .inr (.inl ⟨_, _, _, by simp only [Progress.next, first]; rfl, ?_⟩)
          intro result
          exact .inl ⟨rfl, by simp [left, first]⟩
  | broadcasting loop =>
      cases first : loop.todo with
      | nil => exact .inr (.inr ⟨_, _, by simp only [Progress.next, first]; rfl⟩)
      | cons connId todo =>
          by_cases selected : loop.filter connId = true
          · refine .inr (.inl ⟨_, _, _, by simp only [Progress.next, first, selected, if_true]; rfl, ?_⟩)
            intro result
            refine .inl ⟨rfl, ?_⟩
            cases result <;> simp [left, BroadcastLoop.after, first]
          · refine .inl ⟨_, by simp only [Progress.next, first, if_neg selected]; rfl, rfl, ?_⟩
            simp [left, first]

theorem tell_of_room {connId : ConnectionId} {sink : Sink} {channel : Channel}
    (found : s.manager.connections.lookup connId = some sink) (here : s.channels[sink]? = some channel)
    (ready : channel.closed = true ∨ (s.messages sink).length < channel.taken + channel.capacity) (n : Nat)
    (json : RawText) : ∃ told, s.tell n connId json = some told := by
  obtain ⟨sent, sends⟩ : ∃ sent, s.send sink (some (n, connId)) json = some sent := by
    rw [Notifier.send, here, Option.bind_some]
    by_cases closed : channel.closed = true
    · exact ⟨_, if_pos closed⟩
    · rw [if_neg closed]
      exact ⟨_, if_pos (decide_eq_true (ready.resolve_left closed))⟩
  rw [Notifier.tell, found]
  exact ⟨_, congrArg (Option.map _) sends⟩

/-- A channel that is full takes a message when one is received. -/
theorem Fits.drain (fits : Fits s) (n : Nat) (connId : ConnectionId) (json : RawText) :
    (∃ told, s.tell n connId json = some told) ∨
      ∃ sink s₁ told, s.step (.receive sink) = some s₁ ∧ s₁.calls = s.calls ∧ s₁.tell n connId json = some told := by
  cases found : s.manager.connections.lookup connId with
  | none =>
      rw [Notifier.tell, found]
      exact .inl ⟨_, rfl⟩
  | some sink =>
      obtain ⟨channel, here⟩ : ∃ channel, s.channels[sink]? = some channel :=
        ⟨_, List.getElem?_eq_getElem (fits.sinks connId sink found)⟩
      by_cases ready : channel.closed = true ∨ (s.messages sink).length < channel.taken + channel.capacity
      · exact .inl (tell_of_room found here ready n json)
      · obtain ⟨-, full⟩ := not_or.mp ready
        obtain ⟨positive, room⟩ := fits.room sink channel here
        have waiting : channel.taken < (s.messages sink).length := by omega
        let channel' : Channel := { channel with taken := channel.taken + 1 }
        let s₁ : Notifier := { s with channels := s.channels.set sink channel' }
        have now : s₁.channels[sink]? = some channel' :=
          List.getElem?_set_self (List.getElem?_eq_some_iff.mp here).1
        have fitting : (s₁.messages sink).length < channel.taken + 1 + channel.capacity := by
          change (s.messages sink).length < _
          omega
        obtain ⟨told, tells⟩ := @tell_of_room s₁ connId sink channel' found now (.inr fitting) n json
        refine .inr ⟨sink, s₁, told, ?_, rfl, tells⟩
        simp only [step, here, Option.bind_some, waiting, if_true, s₁, channel']

/-- The call can return from here: it and the receivers of the channels go on. -/
def Finishes (s : Notifier) (n : Nat) : Prop :=
  ∃ actions s' c value, exec step s actions = some s' ∧
    (∀ a ∈ actions, a = .resume n ∨ ∃ sink, a = .receive sink) ∧
    s'.calls[n]? = some c ∧ c.progress = .returned value

theorem Finishes.cons {a : Action} {s₁ : Notifier} (taken : s.step a = some s₁)
    (own : a = .resume n ∨ ∃ sink, a = .receive sink) (finishes : Finishes s₁ n) : Finishes s n := by
  obtain ⟨actions, s', c, value, done, owned, found, returned⟩ := finishes
  refine ⟨a :: actions, s', c, value, ?_, ?_, found, returned⟩
  · rw [exec, taken]
    exact done
  · intro b member
    rcases List.mem_cons.mp member with rfl | later
    · exact own
    · exact owned b later

theorem Finishes.of_returned {value : Returned} (found : s.calls[n]? = some c)
    (returned : c.progress = .returned value) : Finishes s n :=
  ⟨[], s, c, value, rfl, by simp, found, returned⟩

theorem setCall_found {s₁ : Notifier} {c' : Call} (calls : s₁.calls = s.calls) (found : s.calls[n]? = some c) :
    (s₁.setCall n c').calls[n]? = some c' := by
  rw [setCall, calls]
  exact List.getElem?_set_self (List.getElem?_eq_some_iff.mp found).1

/-- Every call can return. -/
theorem Fits.finishes (fits : Fits s) (found : s.calls[n]? = some c) (reading : c.progress.isReading = true) :
    Finishes s n := by
  -- Behind each step fewer attempts are left.
  induction more : left c.progress using Nat.strong_induction_on generalizing s c with
  | _ k ih =>
      subst more
      rcases next_of_isReading reading with ⟨p, next, reading', less⟩ | ⟨connId, json, after, next, later⟩ |
        ⟨value, failedConnections, next⟩
      · have taken : s.step (.resume n) = some (s.setCall n { c with progress := p }) := by
          simp only [step, found, Option.bind_some, resume, next]
        refine .cons taken (.inl rfl) ?_
        exact ih _ less (fits.of_move (move_of_step taken)) (setCall_found rfl found) reading' rfl
      · -- The sink is told, and the call goes on or returns.
        have going : ∀ {s₁ : Notifier} {told}, Fits s₁ → s₁.calls = s.calls → s₁.tell n connId json = some told →
            Finishes s₁ n := by
          intro s₁ told fits₁ calls tells
          have found₁ : s₁.calls[n]? = some c := by rw [calls, found]
          have taken : s₁.step (.resume n) =
              some (told.2.setCall n { c with tried := c.tried ++ [s₁.look connId], progress := after told.1 }) := by
            simp only [step, found₁, Option.bind_some, resume, next, tells, Option.map_some]
          have same : told.2.calls = s₁.calls := by rw [tell_eq tells]
          refine .cons taken (.inl rfl) ?_
          rcases later told.1 with ⟨reading', less⟩ | ⟨value, returned⟩
          · exact ih _ less (fits₁.of_move (move_of_step taken)) (setCall_found same found₁) reading' rfl
          · exact .of_returned (setCall_found same found₁) returned
        rcases fits.drain n connId json with ⟨told, tells⟩ | ⟨sink, s₁, told, taken, calls, tells⟩
        · exact going fits rfl tells
        · exact .cons taken (.inr ⟨sink, rfl⟩) (going (fits.of_move (move_of_step taken)) calls tells)
      · have taken : s.step (.resume n) = some { s.setCall n { c with progress := .returned value } with
            tasks := if failedConnections.isEmpty then s.tasks
              else s.tasks ++ [{ call := n, todo := failedConnections }] } := by
          simp only [step, found, Option.bind_some, resume, next]
        exact .cons taken (.inl rfl) (.of_returned (setCall_found rfl found) rfl)

end Notifier

/-! ## Whole runs -/

/-- The id and the sink that a step registers. -/
def Action.registers : Action → Option (ConnectionId × Sink)
  | .register connId sink => some (connId, sink)
  | .channel _ | .unregister _ | .close _ | .receive _ | .put _ _ | .call _ _ | .resume _ | .cancel _ | .cleanUp _ =>
      none

abbrev Step := Transition Notifier Action

def registrations (ts : List Step) : List (ConnectionId × Sink) := ts.filterMap fun t => t.action.registers

/-- No id is registered twice. -/
def NeverReused (ts : List Step) : Prop := ((registrations ts).map Prod.fst).Nodup

theorem NeverReused.of_append {ts us : List Step} (unique : NeverReused (ts ++ us)) : NeverReused ts := by
  rw [NeverReused, registrations, List.filterMap_append, List.map_append] at unique
  exact (List.nodup_append.mp unique).1

theorem NeverReused.sink_eq {ts : List Step} (unique : NeverReused ts) {connId : ConnectionId} {sink sink' : Sink}
    (first : (connId, sink) ∈ registrations ts) (second : (connId, sink') ∈ registrations ts) : sink = sink' := by
  have same := List.inj_on_of_nodup_map unique first second rfl
  exact congrArg Prod.snd same

namespace Notifier

/-- Where the fields of a call come from. -/
structure Recorded (ts : List Step) (n : Nat) (c : Call) : Prop where
  /-- The table is that of the manager when the call takes the lock. -/
  started : ∃ t ∈ ts, t.action = .call c.request c.order ∧ t.before.calls.length = n ∧
    c.connections = t.before.manager.connections
  /-- What the call finds is what there is when it comes to the connection. -/
  looked : ∀ a ∈ c.tried, ∃ t ∈ ts, (t.action = .resume n ∨ t.action = .call c.request c.order) ∧
    a = t.before.look a.connId

structure History (ts : List Step) (s : Notifier) : Prop where
  calls : ∀ (n : Nat) (c : Call), s.calls[n]? = some c → Recorded ts n c
  entries : ∀ connId sink, s.manager.connections.lookup connId = some sink → (connId, sink) ∈ registrations ts
  held : ∀ (n : Nat) (c : Call), s.calls[n]? = some c → ∀ connId sink, c.connections.lookup connId = some sink →
    (connId, sink) ∈ registrations ts

namespace History

variable {ts : List Step} {s s' : Notifier} {a : Action}

theorem registrations_snoc (ts : List Step) (t : Step) :
    registrations (ts ++ [t]) = registrations ts ++ t.action.registers.toList := by
  rw [registrations, List.filterMap_append]
  cases registers : t.action.registers <;> simp [registrations, registers]

theorem entries_snoc (history : History ts s) (move : Move s a s') {connId : ConnectionId} {sink : Sink}
    (found : s'.manager.connections.lookup connId = some sink) :
    (connId, sink) ∈ registrations (ts ++ [⟨s, a, s'⟩]) := by
  rw [registrations_snoc, List.mem_append]
  cases move with
  | channel | close | receive | call | skip | finish | cancel => exact .inl (history.entries connId sink found)
  | put put =>
      rw [send_eq put] at found
      exact .inl (history.entries connId sink found)
  | send _ _ tells =>
      rw [tell_eq tells] at found
      exact .inl (history.entries connId sink found)
  | register =>
      rw [ConnectionManager.registerConnection, Table.lookup_insert_ite] at found
      split at found
      · rename_i same
        cases found
        cases same
        exact .inr List.mem_cons_self
      · exact .inl (history.entries connId sink found)
  | unregister | cleanUp =>
      rw [ConnectionManager.unregisterConnection, Table.lookup_erase_ite] at found
      exact .inl (history.entries connId sink (Option.ite_none_left_eq_some.mp found).2)

theorem calls_snoc (history : History ts s) (move : Move s a s') {n : Nat} {c' : Call}
    (now : s'.calls[n]? = some c') : Recorded (ts ++ [⟨s, a, s'⟩]) n c' := by
  have last : (⟨s, a, s'⟩ : Step) ∈ ts ++ [⟨s, a, s'⟩] := List.mem_append_right _ List.mem_cons_self
  rcases move.call_cases now with ⟨c, found, goes⟩ | ⟨rfl, called, started⟩
  · obtain ⟨⟨t, member, taken, here, table⟩, looked⟩ := history.calls n c found
    refine ⟨⟨t, List.mem_append_left _ member, ?_, here, ?_⟩, ?_⟩
    · rw [goes.request, goes.order]
      exact taken
    · rw [goes.connections]
      exact table
    · have old : ∀ b ∈ c.tried, ∃ t ∈ ts ++ [(⟨s, a, s'⟩ : Step)],
          (t.action = .resume n ∨ t.action = .call c'.request c'.order) ∧ b = t.before.look b.connId := by
        intro b tried
        obtain ⟨t, member, taken, same⟩ := looked b tried
        rw [goes.request, goes.order]
        exact ⟨t, List.mem_append_left _ member, taken, same⟩
      intro b tried
      rcases goes.tried with same | ⟨rfl, connId, more⟩
      · rw [same] at tried
        exact old b tried
      · rw [more] at tried
        rcases List.mem_append.mp tried with tried | new
        · exact old b tried
        · obtain rfl := List.mem_singleton.mp new
          exact ⟨_, last, .inl rfl, rfl⟩
  · obtain ⟨-, -, table, looked⟩ := start_fields s c'.request c'.order
    rw [← started] at table looked
    refine ⟨⟨_, last, called, rfl, table⟩, ?_⟩
    intro b tried
    obtain ⟨⟨connId, rfl⟩, -⟩ := looked b tried
    exact ⟨_, last, .inr called, rfl⟩

theorem held_snoc (history : History ts s) (move : Move s a s') {n : Nat} {c' : Call} (now : s'.calls[n]? = some c')
    {connId : ConnectionId} {sink : Sink} (found : c'.connections.lookup connId = some sink) :
    (connId, sink) ∈ registrations (ts ++ [⟨s, a, s'⟩]) := by
  rw [registrations_snoc, List.mem_append]
  rcases move.call_cases now with ⟨c, was, goes⟩ | ⟨-, -, started⟩
  · rw [goes.connections] at found
    exact .inl (history.held n c was connId sink found)
  · obtain ⟨-, -, table, -⟩ := start_fields s c'.request c'.order
    rw [← started] at table
    rw [table] at found
    exact .inl (history.entries connId sink found)

end History

theorem history_run {ts : List Step} {s : Notifier} (run : Run step new ts s) : History ts s := by
  induction run with
  | nil =>
      refine ⟨by simp [new], ?_, by simp [new]⟩
      intro connId sink found
      rw [new, ConnectionManager.new, Finmap.lookup_empty] at found
      cases found
  | snoc _ taken history =>
      have move := move_of_step taken
      exact ⟨fun _ _ now => history.calls_snoc move now, fun _ _ found => history.entries_snoc move found,
        fun _ _ now _ _ found => history.held_snoc move now found⟩

theorem inv_run {ts : List Step} {s : Notifier} (run : Run step new ts s) : Inv s ∧ Fits s := by
  induction run with
  | nil => exact ⟨.inv_new, .fits_new⟩
  | snoc _ taken ih => exact ⟨ih.1.of_move (move_of_step taken), ih.2.of_move (move_of_step taken)⟩

/-- Of what a broadcast has found closed nothing is left but what the task still has to do. -/
def Swept (s : Notifier) : Prop :=
  ∀ (n : Nat) (c : Call) (value : Returned), s.calls[n]? = some c → c.progress = .returned value →
    c.request.filter?.isSome = true → ∀ a ∈ c.tried, a.isOpen = false →
      (∃ task ∈ s.tasks, task.call = n ∧ a.connId ∈ task.todo) ∨ s.manager.connections.lookup a.connId = none

namespace Swept

variable {ts : List Step} {s s' : Notifier} {a : Action} {n : Nat} {c : Call} {connId : ConnectionId}

/-- The same calls, with more to do or fewer connections. -/
theorem frame (swept : Swept s) (calls : s'.calls = s.calls) (tasks : s'.tasks = s.tasks)
    (gone : ∀ (n : Nat) (c : Call), s.calls[n]? = some c → ∀ a ∈ c.tried, c.request.filter?.isSome = true →
      s.manager.connections.lookup a.connId = none → s'.manager.connections.lookup a.connId = none) : Swept s' := by
  intro n c value found returned selects a tried down
  rw [calls] at found
  rw [tasks]
  exact (swept n c value found returned selects a tried down).imp id (gone n c found a tried selects)

/-- One call goes on, and does not return. -/
theorem setCall (swept : Swept s) {m : Nat} {d : Call} (calls : s'.calls = (s.setCall m d).calls)
    (tasks : s'.tasks = s.tasks) (manager : s'.manager = s.manager)
    (going : ∀ value, d.progress = .returned value → d.request.filter?.isSome = false) : Swept s' := by
  intro n c value found returned selects a tried down
  rw [calls] at found
  rw [tasks, manager]
  rcases setCall_calls found with ⟨rfl, rfl⟩ | ⟨-, still⟩
  · cases (going value returned).symm.trans selects
  · exact swept n c value still returned selects a tried down

theorem lookup_unregister {m : ConnectionManager} (gone : m.connections.lookup connId = none) (connId' : ConnectionId) :
    (m.unregisterConnection connId').connections.lookup connId = none := by
  rw [ConnectionManager.unregisterConnection, Table.lookup_erase_ite, gone, ite_self]

/-- It has been registered in the run. -/
theorem registered (inv : Inv s) (history : History ts s) (found : s.calls[n]? = some c)
    (selects : c.request.filter?.isSome = true) {a : Attempt} (tried : a ∈ c.tried) :
    ∃ sink, a.sink = some sink ∧ (a.connId, sink) ∈ registrations ts := by
  obtain ⟨sink, known, here⟩ := (inv.calls n c found).registered selects tried
  exact ⟨sink, known, history.held n c found a.connId sink here⟩

theorem register (swept : Swept s) (inv : Inv s) (history : History ts s) {sink : Sink}
    (unique : ((registrations ts ++ [(connId, sink)]).map Prod.fst).Nodup) :
    Swept { s with manager := s.manager.registerConnection connId sink } := by
  refine swept.frame rfl rfl ?_
  intro n c found a tried selects gone
  rw [ConnectionManager.registerConnection, Table.lookup_insert_ite, gone]
  refine if_neg ?_
  intro same
  obtain ⟨sink', -, earlier⟩ := registered inv history found selects tried
  rw [List.map_append] at unique
  refine (List.nodup_append.mp unique).2.2 a.connId ?_ connId ?_ same
  · exact List.mem_map_of_mem earlier
  · exact List.mem_cons_self

theorem cleanUp (swept : Swept s) {task : Nat} {t : CleanUp} {todo : List ConnectionId}
    (here : s.tasks[task]? = some t) (first : t.todo = connId :: todo) :
    Swept { s with
      manager := s.manager.unregisterConnection connId
      tasks := s.tasks.set task { t with todo } } := by
  intro n c value found returned selects a tried down
  rcases swept n c value found returned selects a tried down with ⟨other, member, own, later⟩ | gone
  · by_cases now : a.connId = connId
    · refine .inr ?_
      change (s.manager.unregisterConnection connId).connections.lookup a.connId = none
      rw [ConnectionManager.unregisterConnection, Table.lookup_erase_ite, if_pos now]
    · refine .inl ?_
      obtain ⟨i, at_⟩ := List.getElem?_of_mem member
      by_cases same : task = i
      · subst same
        cases here.symm.trans at_
        refine ⟨{ t with todo }, List.mem_of_getElem? (List.getElem?_set_self (List.getElem?_eq_some_iff.mp here).1),
          own, ?_⟩
        rw [first] at later
        exact (List.mem_cons.mp later).resolve_left now
      · refine ⟨other, List.mem_of_getElem? ((List.getElem?_set_ne same).trans at_), own, later⟩
  · exact .inr (lookup_unregister gone connId)

theorem finish (swept : Swept s) (inv : Inv s) (found : s.calls[n]? = some c) {value : Returned}
    {failedConnections : List ConnectionId} (next : c.progress.next = some (.finish value failedConnections)) :
    Swept { s.setCall n { c with progress := .returned value } with
      tasks := if failedConnections.isEmpty then s.tasks
        else s.tasks ++ [{ call := n, todo := failedConnections }] } := by
  intro m d value' now returned selects a tried down
  rcases setCall_calls now with ⟨rfl, rfl⟩ | ⟨-, still⟩
  · obtain ⟨-, -, closed⟩ := (inv.calls m c found).progress.finish next
    have failed := closed selects a tried down
    have some : failedConnections.isEmpty = false := by
      cases failedConnections with
      | nil => cases failed
      | cons => rfl
    refine .inl ⟨{ call := m, todo := failedConnections }, ?_, rfl, failed⟩
    simp only [some, Bool.false_eq_true, if_false]
    exact List.mem_append_right _ List.mem_cons_self
  · refine (swept m d value' still returned selects a tried down).imp ?_ id
    rintro ⟨task, member, own, later⟩
    refine ⟨task, ?_, own, later⟩
    change task ∈ if failedConnections.isEmpty then s.tasks else _
    split
    · exact member
    · exact List.mem_append_left _ member

theorem of_move (swept : Swept s) (inv : Inv s) (history : History ts s)
    (unique : NeverReused (ts ++ [⟨s, a, s'⟩])) (move : Move s a s') : Swept s' := by
  cases move with
  | channel | close | receive => exact swept.frame rfl rfl fun _ _ _ _ _ _ gone => gone
  | put put =>
      rw [send_eq put]
      exact swept.frame rfl rfl fun _ _ _ _ _ _ gone => gone
  | register =>
      rw [NeverReused, History.registrations_snoc] at unique
      exact swept.register inv history unique
  | unregister => exact swept.frame rfl rfl fun _ _ _ _ _ _ gone => lookup_unregister gone _
  | cleanUp _ here first => exact swept.cleanUp here first
  | call =>
      intro n c value now returned selects a tried down
      rw [List.getElem?_append] at now
      split at now
      · exact swept n c value now returned selects a tried down
      · rw [List.getElem?_singleton] at now
        obtain ⟨-, same⟩ := Option.ite_none_right_eq_some.mp now
        cases same
        obtain ⟨request_eq, -, -, looked⟩ := start_fields s _ _
        rw [request_eq, (looked a tried).2.2] at selects
        cases selects
  | skip found next =>
      refine swept.setCall rfl rfl rfl ?_
      intro value returned
      have reading := ((inv.calls _ _ found).progress.skip next).2.2
      simp only at returned
      rw [returned] at reading
      cases reading
  | send found next tells =>
      rw [tell_eq tells]
      refine swept.setCall rfl rfl rfl ?_
      intro value returned
      exact (inv.calls _ _ found).progress.send_returned next returned
  | finish found next => exact swept.finish inv found next
  | cancel found =>
      refine swept.setCall rfl rfl rfl ?_
      intro value returned
      cases returned

theorem swept_run (run : Run step new ts s) (unique : NeverReused ts) : Swept s := by
  induction run with
  | nil => simp [Swept, new]
  | snoc earlier taken ih =>
      exact (ih unique.of_append).of_move (inv_run earlier).1 (history_run earlier) unique (move_of_step taken)

end Swept

/-! ## What calls promise -/

section Promises

variable {ts : List Step} {s : Notifier} {n : Nat} {c : Call} {json : RawText} {value : Returned}

/-- What a broadcast has done when it returns. -/
structure Broadcasted (s : Notifier) (n : Nat) (c : Call) (filter : ConnectionId → Bool) (json : RawText)
    (value : Returned) : Prop where
  /-- It has come to each selected connection once. -/
  once : (c.tried.map Attempt.connId).Nodup
  selected : ∀ connId sink, (∃ isOpen, ⟨connId, some sink, isOpen⟩ ∈ c.tried) ↔
    filter connId = true ∧ c.connections.lookup connId = some sink
  /-- It has put one copy on each that was open, and nothing anywhere else. -/
  distinct : ((s.sentBy n).map Copy.connId).Nodup
  copies : ∀ copy, copy ∈ s.sentBy n ↔ copy.json = json ∧ ⟨copy.connId, some copy.sink, true⟩ ∈ c.tried
  count : value = .count (.ok (s.sentBy n).length)

/-- What `send_to_connections` has done when it returns. -/
structure ToldEach (s : Notifier) (n : Nat) (c : Call) (connIds : List ConnectionId) (json : RawText)
    (value : Returned) : Prop where
  aligned : c.tried.map Attempt.connId = connIds
  results : ∃ results, value = .results (.ok results) ∧ results.length = connIds.length ∧
    ∀ (i : Nat) (a : Attempt), c.tried[i]? = some a → (results[i]? = some (.ok ()) ↔ a.isOpen = true)
  /-- There is a copy for each `Ok`, in their order. -/
  copies : ((s.sentBy n).map fun copy => (copy.connId, some copy.sink, copy.json)) =
    (c.tried.filter Attempt.isOpen).map fun a => (a.connId, a.sink, json)

theorem copies_map {tried : List Attempt} (known : ∀ a ∈ tried, a.isOpen = true → a.sink.isSome = true) :
    ((tried.filterMap (Attempt.copy json)).map fun copy => (copy.connId, some copy.sink, copy.json)) =
      (tried.filter Attempt.isOpen).map fun a => (a.connId, a.sink, json) := by
  induction tried with
  | nil => rfl
  | cons a rest ih =>
      have later := ih fun b member => known b (List.mem_cons_of_mem _ member)
      cases up : a.isOpen with
      | false =>
          rw [List.filterMap_cons_none (by rw [Attempt.copy, up]; rfl), List.filter_cons_of_neg (by rw [up]; simp)]
          exact later
      | true =>
          obtain ⟨sink, found⟩ := Option.isSome_iff_exists.mp (known a List.mem_cons_self up)
          have copied : a.copy json = some { connId := a.connId, sink, json } := by
            rw [Attempt.copy, up, if_pos rfl, found, Option.map_some]
          rw [List.filterMap_cons_some copied, List.filter_cons_of_pos up, List.map_cons, List.map_cons, later, found]

theorem result_ok_iff {a : Attempt} (known : a.isOpen = true → a.sink.isSome = true) :
    a.result = .ok () ↔ a.isOpen = true := by
  cases up : a.isOpen with
  | false => cases found : a.sink <;> simp [Attempt.result, found, up]
  | true =>
      obtain ⟨sink, found⟩ := Option.isSome_iff_exists.mp (known up)
      simp [Attempt.result, found, up]

namespace CallOk

theorem sent (ok : CallOk s n c) (serialized : c.request.json = .ok json) :
    s.sentBy n = c.tried.filterMap (Attempt.copy json) := ok.copies.trans (Call.copies_of_ok serialized)

theorem sent_map (ok : CallOk s n c) (serialized : c.request.json = .ok json) :
    ((s.sentBy n).map fun copy => (copy.connId, some copy.sink, copy.json)) =
      (c.tried.filter Attempt.isOpen).map fun a => (a.connId, a.sink, json) := by
  rw [ok.sent serialized]
  exact copies_map fun a tried => (ok.seen a tried).2

theorem toldEach (ok : CallOk s n c) {connIds : List ConnectionId} {notification : Outgoing}
    (request : c.request = .sendToConnections connIds notification) (serialized : c.request.json = .ok json)
    (returned : c.progress = .returned value) : ToldEach s n c connIds json value := by
  have progress := ok.progress
  rw [returned, request] at progress
  have serialized' : toRawValue notification = .ok json := by rwa [request] at serialized
  obtain ⟨aligned, rfl⟩ := ReturnedOk.results_eq progress serialized'
  refine ⟨aligned, ⟨_, rfl, ?_, ?_⟩, ok.sent_map serialized⟩
  · rw [← aligned, List.length_map, List.length_map]
  · intro i a found
    have known := (ok.seen a (List.mem_of_getElem? found)).2
    rw [List.getElem?_map, found, Option.map_some, Option.some_inj, result_ok_iff known]

/-- A copy is that of an attempt that found its sink open. -/
theorem mem_sentBy_iff (ok : CallOk s n c) (serialized : c.request.json = .ok json) (copy : Copy) :
    copy ∈ s.sentBy n ↔ copy.json = json ∧ ⟨copy.connId, some copy.sink, true⟩ ∈ c.tried := by
  rw [ok.sent serialized, List.mem_filterMap]
  constructor
  · rintro ⟨a, tried, copied⟩
    obtain ⟨up, copied⟩ := Option.ite_none_right_eq_some.mp copied
    obtain ⟨sink, found, rfl⟩ := Option.map_eq_some_iff.mp copied
    refine ⟨rfl, ?_⟩
    change (⟨a.connId, some sink, true⟩ : Attempt) ∈ c.tried
    rw [← found, ← up]
    exact tried
  · rintro ⟨rfl, tried⟩
    exact ⟨_, tried, rfl⟩

/-- A loop that is through has come to the selected entries of the table. -/
theorem tried_iff (ok : CallOk s n c) {filter : ConnectionId → Bool}
    (all : c.tried.map Attempt.connId = c.order.filter filter) (connId : ConnectionId) (sink : Sink) :
    (∃ isOpen, ⟨connId, some sink, isOpen⟩ ∈ c.tried) ↔
      filter connId = true ∧ c.connections.lookup connId = some sink := by
  constructor
  · rintro ⟨isOpen, tried⟩
    have listed := List.mem_map_of_mem (f := Attempt.connId) tried
    rw [all] at listed
    exact ⟨(List.mem_filter.mp listed).2, (ok.seen _ tried).1.symm⟩
  · rintro ⟨selected, found⟩
    have key : connId ∈ c.order := by
      rw [← List.mem_toFinset, ok.order.2, Finmap.mem_keys, ← Finmap.lookup_isSome, found]
      rfl
    have listed : connId ∈ c.tried.map Attempt.connId := by
      rw [all]
      exact List.mem_filter.mpr ⟨key, selected⟩
    obtain ⟨a, tried, rfl⟩ := List.mem_map.mp listed
    refine ⟨a.isOpen, ?_⟩
    rw [← found, ← (ok.seen a tried).1]
    exact tried

theorem broadcasted (ok : CallOk s n c) {filter : ConnectionId → Bool} (selects : c.request.filter? = some filter)
    (serialized : c.request.json = .ok json) (returned : c.progress = .returned value) :
    Broadcasted s n c filter json value := by
  have progress := ok.progress
  rw [returned] at progress
  obtain ⟨all, rfl⟩ := ReturnedOk.broadcast_eq progress serialized selects
  have mapped := ok.sent_map serialized
  have once : (c.tried.map Attempt.connId).Nodup := by
    rw [all]
    exact ok.order.1.filter _
  refine ⟨once, ok.tried_iff all, ?_, ok.mem_sentBy_iff serialized, ?_⟩
  · have ids := congrArg (List.map Prod.fst) mapped
    rw [List.map_map, List.map_map] at ids
    change ((s.sentBy n).map Copy.connId) = (c.tried.filter Attempt.isOpen).map Attempt.connId at ids
    rw [ids]
    exact (List.filter_sublist.map Attempt.connId).nodup once
  · have lengths := congrArg List.length mapped
    rw [List.length_map, List.length_map, ← List.countP_eq_length_filter] at lengths
    rw [lengths]

end CallOk

/-- What a broadcast leaves to its task is what `ConnectionManager.failedConnections` gives for
    the sinks that it has found closed, if no two connections share one. -/
theorem CallOk.failedConnections_eq (ok : CallOk s n c) {filter : ConnectionId → Bool}
    (selects : c.request.filter? = some filter) (serialized : c.request.json = .ok json)
    (returned : c.progress = .returned value)
    (apart : ∀ connId connId' sink, c.connections.lookup connId = some sink →
      c.connections.lookup connId' = some sink → connId = connId') :
    ((c.tried.filter fun a => !a.isOpen).map Attempt.connId).Nodup ∧
      ((c.tried.filter fun a => !a.isOpen).map Attempt.connId).toFinset =
        ConnectionManager.failedConnections ⟨c.connections⟩ filter
          fun sink => c.tried.any fun a => a.sink = some sink && !a.isOpen := by
  have done := ok.broadcasted selects serialized returned
  refine ⟨(List.filter_sublist.map Attempt.connId).nodup done.once, ?_⟩
  ext connId
  simp only [ConnectionManager.failedConnections, List.mem_toFinset, List.mem_map, List.mem_filter, Finset.mem_filter,
    Finmap.mem_keys, Bool.and_eq_true, Option.any_eq_true, List.any_eq_true, decide_eq_true_eq]
  constructor
  · rintro ⟨a, ⟨tried, down⟩, rfl⟩
    obtain ⟨sink, known, found⟩ := ok.registered (by rw [selects]; rfl) tried
    obtain ⟨selected, -⟩ := (done.selected a.connId sink).mp ⟨a.isOpen, by rw [← known]; exact tried⟩
    exact ⟨Finmap.mem_of_lookup_eq_some found, selected, sink, found, a, tried, known, down⟩
  · rintro ⟨-, -, sink, found, a, tried, known, down⟩
    obtain ⟨-, here⟩ := (done.selected a.connId sink).mp ⟨a.isOpen, by rw [← known]; exact tried⟩
    exact ⟨a, ⟨tried, down⟩, apart a.connId connId sink here found⟩

/-- An entry goes away when it is unregistered, or when the task of a broadcast comes to it:
    then the broadcast has found its sink closed. -/
theorem entry_of_move {s' : Notifier} {a : Action} (move : Move s a s') (inv : Inv s) (history : History ts s)
    (unique : NeverReused (ts ++ [⟨s, a, s'⟩])) {connId : ConnectionId} {sink : Sink}
    (found : s.manager.connections.lookup connId = some sink) :
    s'.manager.connections.lookup connId = some sink ∨ a = .unregister connId ∨
      ∃ task todo n c, a = .cleanUp task ∧ s.tasks[task]? = some { call := n, todo := connId :: todo } ∧
        s.calls[n]? = some c ∧ c.request.filter?.isSome = true ∧ ⟨connId, some sink, false⟩ ∈ c.tried := by
  have entered := history.entries connId sink found
  have before := unique.of_append
  rw [NeverReused, History.registrations_snoc, List.map_append] at unique
  obtain ⟨-, -, apart⟩ := List.nodup_append.mp unique
  cases move with
  | channel | close | receive | call | skip | finish | cancel => exact .inl found
  | put put =>
      rw [send_eq put]
      exact .inl found
  | send _ _ tells =>
      rw [tell_eq tells]
      exact .inl found
  | register =>
      refine .inl ?_
      rw [ConnectionManager.registerConnection, Table.lookup_insert_ite, if_neg ?_]
      · exact found
      · rintro rfl
        exact apart connId (List.mem_map_of_mem entered) connId List.mem_cons_self rfl
  | unregister =>
      rename_i connId' _
      rw [ConnectionManager.unregisterConnection, Table.lookup_erase_ite]
      by_cases same : connId = connId'
      · exact .inr (.inl (by rw [same]))
      · rw [if_neg same]
        exact .inl found
  | cleanUp unread here first =>
      rename_i task work connId' todo
      rw [ConnectionManager.unregisterConnection, Table.lookup_erase_ite]
      by_cases same : connId = connId'
      · subst same
        obtain ⟨c, called, selects, attempt, tried, rfl, down⟩ :=
          inv.tasks work (List.mem_of_getElem? here) connId (by rw [first]; exact List.mem_cons_self)
        obtain ⟨sink', known, registered⟩ := Swept.registered inv history called selects tried
        have sink_eq := before.sink_eq entered registered
        refine .inr (.inr ⟨task, todo, work.call, c, rfl, ?_, called, selects, ?_⟩)
        · rw [here, ← first]
        · rw [sink_eq, ← known, ← down]
          exact tried
      · rw [if_neg same]
        exact .inl found

end Promises

/-- Every call that sends can return. A broadcast then has put one copy of the notification,
    an object of version, method and params, on each selected connection that was open, and none
    elsewhere, and returns their number; `send_to_connections` has told for each id whether it is
    registered and open. Entries are removed only by `unregister_connection`, or when a broadcast
    has found their sink closed. -/
theorem broadcast_delivery {ts : List Step} {s : Notifier} (run : Run step new ts s) (unique : NeverReused ts) :
    (∀ (n : Nat) (c : Call), s.calls[n]? = some c → Recorded ts n c ∧
      (c.progress.isReading = true → s.Finishes n) ∧
      (∀ json, c.request.json = .ok json ↔ ∃ params, c.request.notification.params = .ok params ∧
        json = .ofJson (.obj [("jsonrpc", .str "2.0"), ("method", .str c.request.notification.method),
          ("params", params)])) ∧
      (∀ error, c.request.json = .error error → s.sentBy n = []) ∧
      ∀ value json, c.progress = .returned value → c.request.json = .ok json →
        (∀ filter, c.request.filter? = some filter → Broadcasted s n c filter json value) ∧
        ∀ connIds notification, c.request = .sendToConnections connIds notification →
          ToldEach s n c connIds json value) ∧
    (∀ t ∈ ts, ∀ connId sink, t.before.manager.connections.lookup connId = some sink →
      t.after.manager.connections.lookup connId = some sink ∨ t.action = .unregister connId ∨
        ∃ task todo n c, t.action = .cleanUp task ∧
          t.before.tasks[task]? = some { call := n, todo := connId :: todo } ∧ t.before.calls[n]? = some c ∧
          c.request.filter?.isSome = true ∧ ⟨connId, some sink, false⟩ ∈ c.tried) ∧
    s.Swept := by
  obtain ⟨inv, fits⟩ := inv_run run
  refine ⟨?_, ?_, Swept.swept_run run unique⟩
  · intro n c found
    have ok := inv.calls n c found
    refine ⟨(history_run run).calls n c found, fits.finishes found, fun json => Request.json_eq_ok_iff, ?_, ?_⟩
    · intro error refused
      rw [ok.copies, Call.copies, refused]
    · intro value json returned serialized
      refine ⟨?_, ?_⟩
      · intro filter selects
        exact ok.broadcasted selects serialized returned
      · intro connIds notification request
        exact ok.toldEach request serialized returned
  · intro t member connId sink found
    obtain ⟨pre, post, rfl, earlier, taken, -⟩ := run.split member
    have so_far : NeverReused (pre ++ [t]) := by
      rw [List.append_cons] at unique
      exact unique.of_append
    exact entry_of_move (move_of_step taken) (inv_run earlier).1 (history_run earlier) so_far found

end Notifier

def Progress.value : Progress → Option Returned
  | .returned value => some value
  | .sending _ _ | .sendingTo _ | .broadcasting _ | .cancelled => none

theorem Progress.returned_of_value {p : Progress} {value : Returned} (known : p.value = some value) :
    p = .returned value := by
  cases p with
  | returned value' => cases known; rfl
  | sending | sendingTo | broadcasting | cancelled => cases known

namespace Notifier

def alert : Outgoing := { method := "alert", params := .ok (.arr [.int 1]) }

/-- Of three connections one is closed and one is left out. While the clean-up waits, a fourth
    one is registered; `send_to_connections` comes behind it. -/
def alertRun : List Action :=
  [.channel 1, .channel 1, .channel 1, .register 7 0, .register 8 1, .register 9 2, .close 1,
    .call (.broadcastFiltered alert fun connId => connId != 9) [8, 9, 7], .resume 0, .resume 0, .resume 0, .resume 0,
    .register 10 2, .cleanUp 0, .receive 0, .call (.sendToConnections [7, 8, 10] alert) [7, 9, 10], .resume 1,
    .resume 1, .resume 1, .resume 1]

/-- What the two calls of the run have returned. -/
def alerted (ts : List Step) (s : Notifier) : Bool :=
  decide ((registrations ts).map Prod.fst).Nodup && (s.manager.connections.lookup 8).isNone &&
    s.calls[0]?.any (fun c =>
      (c.request.filter?.any fun filter => filter 7 && filter 8 && !filter 9) && c.request.json.toOption.isSome &&
        c.progress.value = some (.count (.ok 1)) && c.tried = [⟨8, some 1, false⟩, ⟨7, some 0, true⟩]) &&
    s.calls[1]?.any fun c =>
      c.progress.value = some (.results (.ok [.ok (), .error (.connectionNotFound 8), .ok ()]))

theorem broadcast_delivery_alert :
    ∃ ts s c filter json, Run step new ts s ∧ ts.map Transition.action = alertRun ∧ alerted ts s = true ∧
      s.calls[0]? = some c ∧ Broadcasted s 0 c filter json (.count (.ok 1)) ∧ s.Swept := by
  obtain ⟨ts, s, run, labels, facts⟩ := Run.records step new alertRun alerted (by decide +kernel)
  have checked := facts
  simp only [alerted, Bool.and_eq_true, decide_eq_true_eq, Option.any_eq_true] at checked
  obtain ⟨⟨⟨unique, -⟩, c, found, ⟨⟨⟨filter, selects, -⟩, serialized⟩, returned⟩, -⟩, -⟩ := checked
  cases json : c.request.json with
  | error error =>
      rw [json] at serialized
      cases serialized
  | ok json' =>
      obtain ⟨calls, -, swept⟩ := broadcast_delivery run unique
      obtain ⟨-, -, -, -, promised⟩ := calls 0 c found
      obtain ⟨broadcasted, -⟩ := promised (.count (.ok 1)) json' (Progress.returned_of_value returned) json
      exact ⟨ts, s, c, filter, json', run, labels, facts, found, broadcasted filter selects, swept⟩

end Notifier

end Broadcast

end Server

end Jsonrpsee
