import Jsonrpsee.Server.Notifications
import Jsonrpsee.Server.Shutdown

/-! # Subscription methods that are called directly

`Methods::inner_call` runs a callback without a server, on a channel of its own. For a
subscription method it waits for the response of the callback and then takes one message
off the channel, the copy of that response. The caller keeps a sender, so the channel is
not closed: if there is no message, the call waits for ever.
-/

namespace Jsonrpsee

namespace Server

/-- How the method was registered. -/
inductive Registration where
  /-- `register_subscription`: a task waits for the handler. -/
  | async
  /-- `register_subscription_raw`. -/
  | raw
  deriving Repr, DecidableEq

/-- How far `inner_call` is. -/
inductive CallPhase where
  /-- The future of the callback has not resolved. -/
  | waiting
  /-- It has, and the call waits for a message. -/
  | resolved (rp : MethodResponse)
  | returned (rp : MethodResponse)

/-- One direct call: the connection 0 with the subscription of the sink 0. -/
structure DirectCall where
  talk : Talk
  /-- Messages that have been received. -/
  taken : Nat
  phase : CallPhase

inductive DirectAction where
  /-- The handler, its sinks and its task, and unsubscribe calls of others. -/
  | talk (a : TalkAction)
  /-- The future of the callback resolves. -/
  | resolve
  /-- A message is received, by `inner_call` or behind it. -/
  | recv

/-- The handler drops its `PendingSubscriptionSink`, which it has neither accepted nor
    rejected. -/
def DirectAction.dropPending : DirectAction := .talk (.hub (.dropPending 0))

/-- There is one mock permit, and no limit for responses. -/
def directConfig : ServerConfig := { maxSubscriptionsPerConnection := 1, maxResponseBodySize := 2 ^ 64 - 1 }

/-- The steps of others than the call itself. -/
def Registration.allows (registration : Registration) : TalkAction → Bool
  | .hub (.unsubscribe _ _ _) => true
  | .hub a => a.sink = some 0
  | .returns n _ | .close n => registration = .async && n = 0
  | .respond _ _ _ | .resume _ | .abandon _ => false

namespace DirectCall

/-- The hub with the channel of the call. -/
def channel : Hub := { Hub.new with conns := Hub.new.conns.insert 0 (.new directConfig) }

/-- The callback has been called. -/
def start (call : SubscribeCall) : DirectCall :=
  { talk := Talk.spawn { hub := channel, tasks := ∅ } (channel.enlist { call with connId := 0 })
    taken := 0
    phase := .waiting }

/-- The messages that have been put on the channel. -/
def messages (s : DirectCall) : List (Origin × RawText) := s.talk.hub.outgoing 0

/-- The messages that are in the channel. -/
def inChannel (s : DirectCall) : List (Origin × RawText) := s.messages.drop s.taken

/-- A sender waits until the buffer has room; a receiver waits for a message. -/
def step (registration : Registration) (bufSize : Nat) (id : Id) (s : DirectCall) : DirectAction → Option DirectCall
  | .talk a =>
      if registration.allows a then
        (s.talk.step directConfig a).bind fun talk =>
          if (talk.hub.outgoing 0).length ≤ s.taken + bufSize then some { s with talk } else none
      else none
  | .resolve =>
      match s.phase, s.talk.hub.answers.lookup 0 with
      | .waiting, some answer =>
          (s.talk.step directConfig (.resume 0)).map fun talk => { s with talk, phase := .resolved (answer.response id) }
      | _, _ => none
  | .recv =>
      if s.taken < s.messages.length then
        match s.phase with
        | .waiting => none
        | .resolved rp | .returned rp => some { s with taken := s.taken + 1, phase := .returned rp }
      else none

/-- What a step can do. -/
inductive Move (registration : Registration) (bufSize : Nat) (id : Id) (s : DirectCall) :
    DirectAction → DirectCall → Prop where
  | talk {a : TalkAction} {talk : Talk} (allowed : registration.allows a = true)
      (taken : s.talk.step directConfig a = some talk) (fits : (talk.hub.outgoing 0).length ≤ s.taken + bufSize) :
      Move registration bufSize id s (.talk a) { s with talk }
  | resolve {answer : Answer} {talk : Talk} (phase : s.phase = .waiting)
      (given : s.talk.hub.answers.lookup 0 = some answer) (taken : s.talk.step directConfig (.resume 0) = some talk) :
      Move registration bufSize id s .resolve { s with talk, phase := .resolved (answer.response id) }
  | recv {rp : MethodResponse} (some : s.taken < s.messages.length)
      (phase : s.phase = .resolved rp ∨ s.phase = .returned rp) :
      Move registration bufSize id s .recv { s with taken := s.taken + 1, phase := .returned rp }

theorem move_of_step {registration : Registration} {bufSize : Nat} {id : Id} {s s' : DirectCall} {a : DirectAction}
    (taken : step registration bufSize id s a = some s') : Move registration bufSize id s a s' := by
  cases a with
  | talk a =>
      obtain ⟨allowed, taken⟩ := Option.ite_none_right_eq_some.mp taken
      obtain ⟨talk, moved, taken⟩ := Option.bind_eq_some_iff.mp taken
      obtain ⟨fits, taken⟩ := Option.ite_none_right_eq_some.mp taken
      cases taken
      exact .talk allowed moved fits
  | resolve =>
      simp only [step] at taken
      split at taken
      · rename_i phase given
        obtain ⟨talk, moved, rfl⟩ := Option.map_eq_some_iff.mp taken
        exact .resolve phase given moved
      · cases taken
  | recv =>
      obtain ⟨some, taken⟩ := Option.ite_none_right_eq_some.mp taken
      split at taken
      · cases taken
      · rename_i rp phase
        cases taken
        exact .recv some (.inl phase)
      · rename_i rp phase
        cases taken
        exact .recv some (.inr phase)

/-! ## What holds in every state -/

/-- What the phase tells about the answer of the sink. -/
def PhaseOk (id : Id) (s : DirectCall) : CallPhase → Prop
  | .waiting => s.taken = 0 ∧ s.talk.awaits 0 = true
  | .resolved rp => s.taken = 0 ∧ ∃ answer, s.talk.hub.answers.lookup 0 = some answer ∧ rp = answer.response id
  | .returned rp => s.talk.hub.answers.lookup 0 = some (.sent rp)

structure Inv (bufSize : Nat) (id : Id) (s : DirectCall) (dropped : Prop) : Prop where
  gated : Talk.Gated directConfig s.talk
  tracks : ∃ spoke, s.talk.hub.Tracks 0 0 id spoke
  up : s.talk.hub.isOpen 0 = true
  own : ∀ message ∈ s.messages, message.1 = .accept 0 ∨ message.1 = .reject 0 ∨ message.1 = .sink 0
  fits : s.messages.length ≤ s.taken + bufSize
  dropped_iff : s.talk.hub.answers.lookup 0 = some .dropped ↔ dropped
  phase : s.PhaseOk id s.phase

section Steps

variable {bufSize : Nat} {id : Id} {s : DirectCall} {dropped : Prop}

/-- The call does not go away while it waits, so `accept` does not fail. -/
theorem Inv.no_fail (inv : Inv bufSize id s dropped) {a : HubAction} {talk : Talk}
    (taken : s.talk.step directConfig (.hub a) = some talk) : a ≠ .acceptFail 0 := by
  rintro rfl
  obtain ⟨admitted, taken⟩ := Option.ite_none_right_eq_some.mp taken
  obtain ⟨hub, moved, rfl⟩ := Option.map_eq_some_iff.mp taken
  obtain ⟨spoke, tracks⟩ := inv.tracks
  have phase := inv.phase
  cases Hub.move_of_step moved with
  | fail found stage =>
      have unanswered := (tracks.voice_eq found stage).1
      cases reached : s.phase with
      | waiting =>
          rw [reached] at phase
          simp [Talk.admits, phase.2] at admitted
      | resolved rp =>
          rw [reached] at phase
          obtain ⟨-, answer, given, -⟩ := phase
          cases unanswered.symm.trans given
      | returned rp =>
          rw [reached] at phase
          cases unanswered.symm.trans phase

/-- A step of the sink answers with `dropped` only when it is dropped. -/
theorem dropped_iff_of_move {h h' : Hub} {a : HubAction} {spoke : Prop} (tracks : h.Tracks 0 0 id spoke)
    (move : Hub.Move directConfig h a h') (up : h.isOpen 0 = true) (waits : a ≠ .acceptFail 0) :
    h'.answers.lookup 0 = some .dropped ↔ h.answers.lookup 0 = some .dropped ∨ a = .dropPending 0 := by
  constructor
  · intro gone
    by_cases acts : a.sink = some 0
    · cases move with
      | connect | close | subscribe | unsubscribe | refuse => cases acts
      | disconnected found stage down =>
          cases acts
          rw [(tracks.own found).1, up] at down
          cases down
      | fail => cases acts; exact absurd rfl waits
      | drop => cases acts; exact .inr rfl
      | complete | rejected =>
          cases acts
          simp only [Hub.advance, Hub.answer, Table.lookup_insert_ite, if_true] at gone
          cases gone
      | release | dropLast =>
          simp only [Hub.free, Hub.onConn_answers] at gone
          exact .inl gone
      | respond | reject | send =>
          simp only [Hub.advance, Hub.push_answers] at gone
          exact .inl gone
      | _ => exact .inl gone
    · rw [move.answers_of_ne acts] at gone
      exact .inl gone
  · rintro (gone | rfl)
    · exact tracks.answers_kept move gone
    · cases move with
      | drop => simp only [Hub.advance, Hub.answer, Table.lookup_insert_ite, if_true]

/-- Answers that have been given stay, and so does the phase. -/
theorem PhaseOk.kept {talk : Talk} {phase : CallPhase} (ok : PhaseOk id s phase)
    (answers : ∀ {answer}, s.talk.hub.answers.lookup 0 = some answer → talk.hub.answers.lookup 0 = some answer)
    (awaits : s.talk.awaits 0 = true → talk.awaits 0 = true) : PhaseOk id { s with talk } phase := by
  cases phase with
  | waiting => exact ⟨ok.1, awaits ok.2⟩
  | resolved rp =>
      obtain ⟨untouched, answer, given, same⟩ := ok
      exact ⟨untouched, answer, answers given, same⟩
  | returned rp => exact answers ok

theorem allows_hub {registration : Registration} {a : HubAction} (allowed : registration.allows (.hub a) = true) :
    a.sink = some 0 ∨ ∃ conn method params, a = .unsubscribe conn method params := by
  cases a with
  | unsubscribe conn method params => exact .inr ⟨_, _, _, rfl⟩
  | _ => exact .inl (of_decide_eq_true allowed)

/-- A step of the sink. -/
theorem Inv.of_hub (inv : Inv bufSize id s dropped) {registration : Registration} {a : HubAction} {talk : Talk}
    (allowed : registration.allows (.hub a) = true) (taken : s.talk.step directConfig (.hub a) = some talk)
    (fits : (talk.hub.outgoing 0).length ≤ s.taken + bufSize) :
    Inv bufSize id { s with talk } (dropped ∨ a = .dropPending 0) := by
  have waits := inv.no_fail taken
  have gated := inv.gated.of_move (Talk.move_of_step taken)
  obtain ⟨-, taken⟩ := Option.ite_none_right_eq_some.mp taken
  obtain ⟨hub, moved, rfl⟩ := Option.map_eq_some_iff.mp taken
  have move := Hub.move_of_step moved
  obtain ⟨spoke, tracks⟩ := inv.tracks
  have hub_eq : (s.talk.spawn hub).hub = hub := Talk.spawn_hub
  have stays : a ≠ .close 0 := by
    rintro rfl
    rcases allows_hub allowed with acts | ⟨_, _, _, same⟩
    · cases acts
    · cases same
  refine ⟨gated, ⟨spoke ∨ a.Speaks 0, ?_⟩, ?_, ?_, fits, ?_, ?_⟩
  · rw [hub_eq]
    exact tracks.of_move move inv.up waits
  · rw [hub_eq]
    exact move.stays_open stays inv.up
  · intro message member
    rw [messages, hub_eq] at member
    rcases move.outgoing 0 with same | ⟨n, sub, origin, json, acts, -, -, grown, cases⟩
    · rw [same] at member
      exact inv.own message member
    · have sink : n = 0 := by
        rcases allows_hub allowed with own | ⟨_, _, _, rfl⟩
        · exact Option.some.inj (acts.symm.trans own)
        · cases acts
      subst sink
      rw [grown] at member
      rcases List.mem_append.mp member with old | new
      · exact inv.own message old
      · obtain rfl := List.mem_singleton.mp new
        rcases cases with ⟨rfl, -⟩ | rfl | ⟨rfl, -⟩
        · exact .inl rfl
        · exact .inr (.inl rfl)
        · exact .inr (.inr rfl)
  · rw [hub_eq, dropped_iff_of_move tracks move inv.up waits, inv.dropped_iff]
  · refine inv.phase.kept (fun given => ?_) fun awaits => ?_
    · rw [hub_eq]
      exact tracks.answers_kept move given
    · rw [Talk.awaits, Talk.lookup_spawn (Nat.ne_of_lt tracks.old)]
      exact awaits

/-- The task of `register_subscription` takes note of the end of the handler, or sends its
    last message. -/
theorem Inv.of_task (inv : Inv bufSize id s dropped) {a : TalkAction} {talk : Talk}
    (own : (∃ response, a = .returns 0 response) ∨ a = .close 0) (taken : s.talk.step directConfig a = some talk)
    (fits : (talk.hub.outgoing 0).length ≤ s.taken + bufSize) : Inv bufSize id { s with talk } dropped := by
  have move := Talk.move_of_step taken
  have gated := inv.gated.of_move move
  have awaits {hub : Hub} {task task' : SubscriptionTask} (found : s.talk.tasks.lookup 0 = some task)
      (same : task'.accepted = task.accepted) (waiting : s.talk.awaits 0 = true) :
      Talk.awaits { hub, tasks := s.talk.tasks.insert 0 task' } 0 = true := by
    rw [Talk.awaits, found] at waiting
    rw [Talk.awaits, Table.lookup_insert_ite, if_pos rfl, Option.any_some, same]
    exact waiting
  obtain ⟨spoke, tracks⟩ := inv.tracks
  rcases own with ⟨response, rfl⟩ | rfl
  · cases move with
    | returns found =>
        exact ⟨gated, ⟨spoke, tracks⟩, inv.up, inv.own, fits, inv.dropped_iff,
          inv.phase.kept (fun given => given) (awaits found rfl)⟩
  · cases move with
    | finish found =>
        exact ⟨gated, ⟨spoke, tracks⟩, inv.up, inv.own, fits, inv.dropped_iff,
          inv.phase.kept (fun given => given) (awaits found rfl)⟩
    | @close n task response json found returned accepted composed =>
        refine ⟨gated, ⟨spoke, tracks.push rfl⟩, Hub.isOpen_push.trans inv.up, ?_, fits, ?_, ?_⟩
        · intro message member
          rw [messages, Hub.outgoing_push] at member
          rcases List.mem_append.mp member with old | new
          · exact inv.own message old
          · split at new
            · obtain rfl := List.mem_singleton.mp new
              exact .inr (.inr rfl)
            · cases new
        · rw [Hub.push_answers]
          exact inv.dropped_iff
        · refine inv.phase.kept (fun given => ?_) (awaits found rfl)
          rw [Hub.push_answers]
          exact given

/-- The first message comes from `accept` or `reject`. -/
theorem Inv.first_isAnswer (inv : Inv bufSize id s dropped) {message : Origin × RawText} {rest : List (Origin × RawText)}
    (shape : s.messages = message :: rest) : message.1.isAnswer 0 = true := by
  obtain ⟨origin, json⟩ := message
  rcases inv.own (origin, json) (by rw [shape]; exact List.mem_cons_self) with same | same | same
  · rw [same]
    rfl
  · rw [same]
    rfl
  · -- A message of the sink comes behind the response of `accept`.
    have first : (s.talk.hub.outgoing 0)[0]? = some (.sink 0, json) := by
      rw [show s.talk.hub.outgoing 0 = _ from shape, List.getElem?_cons_zero, show origin = _ from same]
    obtain ⟨-, -, -, j, before, -⟩ := inv.gated.led 0 0 0 json first
    exact absurd before (Nat.not_lt_zero j)

theorem Inv.said_cons (inv : Inv bufSize id s dropped) {message : Origin × RawText} {rest : List (Origin × RawText)}
    (shape : s.messages = message :: rest) : ∃ more, s.talk.hub.said 0 (Origin.isAnswer 0) = message.2 :: more := by
  refine ⟨(rest.filter fun message => message.1.isAnswer 0).map Prod.snd, ?_⟩
  rw [Hub.said, show s.talk.hub.outgoing 0 = _ from shape, List.filter_cons, if_pos (inv.first_isAnswer shape),
    List.map_cons]

theorem Inv.messages_of_silent (inv : Inv bufSize id s dropped)
    (silent : s.talk.hub.said 0 (Origin.isAnswer 0) = []) : s.messages = [] := by
  cases shape : s.messages with
  | nil => rfl
  | cons message rest =>
      obtain ⟨more, said⟩ := inv.said_cons shape
      cases said.symm.trans silent

/-- A sink that was dropped has left the channel empty. -/
theorem Inv.messages_of_dropped (inv : Inv bufSize id s dropped)
    (given : s.talk.hub.answers.lookup 0 = some .dropped) : s.messages = [] := by
  obtain ⟨spoke, tracks⟩ := inv.tracks
  rcases tracks.answered given with ⟨-, silent, -⟩ | ⟨rp, given', -⟩
  · exact inv.messages_of_silent silent
  · cases given.symm.trans given'

/-- The first message is the response that the call gets. -/
theorem Inv.messages_of_sent (inv : Inv bufSize id s dropped) {rp : MethodResponse}
    (given : s.talk.hub.answers.lookup 0 = some (.sent rp)) : ∃ origin rest, s.messages = (origin, rp.json) :: rest := by
  obtain ⟨spoke, tracks⟩ := inv.tracks
  rcases tracks.answered given with ⟨given', -⟩ | ⟨rp', given', said, -⟩
  · cases given.symm.trans given'
  · cases given.symm.trans given'
    cases shape : s.messages with
    | nil =>
        rw [Hub.said, show s.talk.hub.outgoing 0 = _ from shape] at said
        cases said
    | cons message rest =>
        obtain ⟨more, said'⟩ := inv.said_cons shape
        obtain ⟨same, -⟩ := List.cons.inj (said'.symm.trans said)
        exact ⟨message.1, rest, by rw [← same]⟩

/-- There is only the task of the call itself. -/
theorem own_task {registration : Registration} {n : SinkId} (allowed : (registration = .async && n = 0) = true) :
    n = 0 := of_decide_eq_true ((Bool.and_eq_true _ _).mp allowed).2

theorem Inv.of_step (inv : Inv bufSize id s dropped) {registration : Registration} {a : DirectAction} {s' : DirectCall}
    (taken : step registration bufSize id s a = some s') : Inv bufSize id s' (dropped ∨ a = .dropPending) := by
  cases move_of_step taken with
  | @talk a talk allowed moved fits =>
      have same : dropped ∨ DirectAction.talk a = .dropPending ↔ dropped ∨ a = .hub (.dropPending 0) := by
        simp [DirectAction.dropPending]
      rw [same]
      cases a with
      | hub a =>
          have inv' := inv.of_hub allowed moved fits
          simpa using inv'
      | returns n response =>
          obtain rfl := own_task allowed
          have inv' := inv.of_task (.inl ⟨response, rfl⟩) moved fits
          simpa using inv'
      | close n =>
          obtain rfl := own_task allowed
          have inv' := inv.of_task (.inr rfl) moved fits
          simpa using inv'
      | respond | resume | abandon => cases allowed
  | @resolve answer talk phase given moved =>
      have same : dropped ∨ DirectAction.resolve = .dropPending ↔ dropped := by simp [DirectAction.dropPending]
      rw [same]
      have waiting := inv.phase
      rw [phase] at waiting
      have move := Talk.move_of_step moved
      have gated := inv.gated.of_move move
      cases move with
      | resume => exact ⟨gated, inv.tracks, inv.up, inv.own, inv.fits, inv.dropped_iff, waiting.1, answer, given, rfl⟩
  | @recv rp some phase =>
      have same : dropped ∨ DirectAction.recv = .dropPending ↔ dropped := by simp [DirectAction.dropPending]
      rw [same]
      have fits : s.messages.length ≤ s.taken + 1 + bufSize := by
        have before := inv.fits
        omega
      refine ⟨inv.gated, inv.tracks, inv.up, inv.own, fits, inv.dropped_iff, ?_⟩
      have ok := inv.phase
      rcases phase with phase | phase
      · rw [phase] at ok
        obtain ⟨untouched, answer, given, rfl⟩ := ok
        cases answer with
        | sent rp => exact given
        | dropped =>
            rw [inv.messages_of_dropped given] at some
            cases some
      · rw [phase] at ok
        exact ok

end Steps

theorem lookup_channel : channel.conns.lookup 0 = some (.new directConfig) := Finmap.lookup_insert _

theorem connect_channel : Hub.Move directConfig Hub.new (.connect 0) channel := .connect rfl

theorem gated_start (call : SubscribeCall) : Talk.Gated directConfig (start call).talk := by
  have gated := (Talk.Gated.new directConfig).of_move (.hub connect_channel)
  have connected : Talk.Gated directConfig { hub := channel, tasks := ∅ } := gated
  have subscribed : Hub.Move directConfig channel (.subscribe { call with connId := 0 })
      (channel.enlist { call with connId := 0 }) := .subscribe lookup_channel (by decide)
  have subscribing := connected.of_move (.hub subscribed)
  exact subscribing

theorem inv_start (bufSize : Nat) (call : SubscribeCall) : Inv bufSize call.id (start call) False := by
  have hub_eq : (start call).talk.hub = channel.enlist { call with connId := 0 } := Talk.spawn_hub
  have unheard : channel.Unheard := Hub.unheard_new.of_move (.new directConfig) connect_channel
  have silent : (start call).messages = [] := by
    rw [messages, hub_eq]
    refine (Hub.outgoing_onConn channel 0 (fun _ => rfl) 0).trans ?_
    rw [Hub.outgoing, lookup_channel]
    rfl
  refine ⟨gated_start call, ⟨False, ?_⟩, ?_, ?_, ?_, ?_, rfl, rfl⟩
  · rw [hub_eq]
    exact unheard.tracks { call with connId := 0 }
  · rw [hub_eq]
    refine (@Hub.isOpen_onConn channel 0 0 (fun c => { c with permits := c.permits - 1 }) fun _ => rfl).trans ?_
    rw [Hub.isOpen, lookup_channel]
    rfl
  · rw [silent]
    simp
  · rw [silent]
    exact Nat.zero_le _
  · rw [hub_eq, Hub.enlist, Hub.onConn_answers]
    simp [channel, Hub.new]

/-- The handler has dropped its sink in the run. -/
def Dropped (ts : List (Transition DirectCall DirectAction)) : Prop := ∃ tr ∈ ts, tr.action = .dropPending

theorem inv_run {registration : Registration} {bufSize : Nat} {call : SubscribeCall}
    {ts : List (Transition DirectCall DirectAction)} {s : DirectCall}
    (run : Run (step registration bufSize call.id) (start call) ts s) : Inv bufSize call.id s (Dropped ts) := by
  induction run with
  | nil =>
      have none : Dropped [] ↔ False := by simp [Dropped]
      rw [none]
      exact inv_start bufSize call
  | @snoc ts s a s' _ taken ih =>
      have more : Dropped (ts ++ [⟨s, a, s'⟩]) ↔ Dropped ts ∨ a = .dropPending := by
        simp [Dropped, or_and_right, exists_or]
      rw [more]
      exact ih.of_step taken

/-! ## Calls that return -/

section Finishing

variable {registration : Registration} {bufSize : Nat} {id : Id} {s : DirectCall}

/-- The call can return from here, with a handler that does not drop its sink. -/
def Finishes (registration : Registration) (bufSize : Nat) (id : Id) (s : DirectCall) : Prop :=
  ∃ actions s' rp, exec (step registration bufSize id) s actions = some s' ∧ .dropPending ∉ actions ∧
    s'.phase = .returned rp

theorem Finishes.cons {a : DirectAction} {s' : DirectCall} (taken : step registration bufSize id s a = some s')
    (keeps : a ≠ .dropPending) (finishes : Finishes registration bufSize id s') :
    Finishes registration bufSize id s := by
  obtain ⟨actions, last, rp, done, kept, phase⟩ := finishes
  refine ⟨a :: actions, last, rp, ?_, ?_, phase⟩
  · rw [exec, taken]
    exact done
  · rw [List.mem_cons, not_or]
    exact ⟨Ne.symm keeps, kept⟩

/-- The copy of the response is there, and the call returns. -/
theorem Inv.recv (inv : Inv bufSize id s False) {rp : MethodResponse} (phase : s.phase = .resolved rp) :
    (∃ origin rest, s.inChannel = (origin, rp.json) :: rest) ∧
      ∃ s', step registration bufSize id s .recv = some s' ∧ s'.phase = .returned rp := by
  have ok := inv.phase
  rw [phase] at ok
  obtain ⟨untouched, answer, given, rfl⟩ := ok
  cases answer with
  | dropped => exact (inv.dropped_iff.mp given).elim
  | sent rp =>
      obtain ⟨origin, rest, shape⟩ := inv.messages_of_sent given
      have waiting : s.inChannel = (origin, rp.json) :: rest := by
        rw [inChannel, untouched, shape]
        rfl
      refine ⟨⟨origin, rest, waiting⟩, { s with taken := s.taken + 1, phase := .returned rp }, ?_, rfl⟩
      have some : s.taken < s.messages.length := by
        rw [untouched, shape]
        exact Nat.zero_lt_succ _
      simp only [step, some, if_true, phase]
      rfl

theorem Inv.finish_resolved (inv : Inv bufSize id s False) {rp : MethodResponse} (phase : s.phase = .resolved rp) :
    Finishes registration bufSize id s := by
  obtain ⟨-, s', taken, returned⟩ := @Inv.recv registration bufSize id s inv rp phase
  exact .cons taken (by simp [DirectAction.dropPending]) ⟨[], s', rp, rfl, by simp, returned⟩

theorem Inv.finish_answered (inv : Inv bufSize id s False) (phase : s.phase = .waiting) {answer : Answer}
    (given : s.talk.hub.answers.lookup 0 = some answer) : Finishes registration bufSize id s := by
  have ok := inv.phase
  rw [phase] at ok
  obtain ⟨task, found, waiting⟩ := (Option.any_eq_true _ _).mp ok.2
  have resumed : s.talk.step directConfig (.resume 0) =
      some { s.talk with tasks := s.talk.tasks.insert 0 { task with accepted := answer.signal } } := by
    simp only [Talk.step, found, Option.bind_some, Talk.stepTask, of_decide_eq_true waiting, given]
  have taken : step registration bufSize id s .resolve =
      some { s with
        talk := { s.talk with tasks := s.talk.tasks.insert 0 { task with accepted := answer.signal } }
        phase := .resolved (answer.response id) } := by
    simp only [step, phase, given, resumed, Option.map_some]
  have keeps : DirectAction.resolve ≠ .dropPending := by simp [DirectAction.dropPending]
  have inv' := inv.of_step taken
  rw [false_or, eq_false keeps] at inv'
  exact .cons taken keeps (inv'.finish_resolved rfl)

/-- A step of the handler that finds room in the channel. -/
theorem step_hub {a : HubAction} {hub : Hub} (own : a.sink = some 0) (admitted : s.talk.admits a = true)
    (moved : s.talk.hub.step directConfig a = some hub) (fits : (hub.outgoing 0).length ≤ s.taken + bufSize) :
    step registration bufSize id s (.talk (.hub a)) = some { s with talk := s.talk.spawn hub } := by
  have allowed : registration.allows (.hub a) = true := by
    cases a <;> simp_all [Registration.allows, HubAction.sink]
  have talked : s.talk.step directConfig (.hub a) = some (s.talk.spawn hub) := by
    simp only [Talk.step, admitted, if_true, moved, Option.map_some]
  simp only [step, allowed, if_true, talked, Option.bind_some]
  rw [if_pos]
  rwa [Talk.spawn_hub]

/-- The response is on the channel, and is handed to the call next. -/
theorem Inv.finish_handed (inv : Inv bufSize id s False) (phase : s.phase = .waiting) {sub : Subscription}
    (found : s.talk.hub.subs.lookup 0 = some sub) {rp : MethodResponse}
    (stage : sub.stage = .responded rp ∨ sub.stage = .rejected rp) : Finishes registration bufSize id s := by
  have ok := inv.phase
  rw [phase] at ok
  obtain ⟨a, stage', own, admitted, moved, keeps⟩ : ∃ a stage', a.sink = some 0 ∧ s.talk.admits a = true ∧
      s.talk.hub.step directConfig a = some ((s.talk.hub.answer 0 (.sent rp)).advance 0 sub stage') ∧
      DirectAction.talk (.hub a) ≠ .dropPending := by
    rcases stage with stage | stage
    · refine ⟨.acceptComplete 0, .completed rp, rfl, ok.2, ?_, by simp [DirectAction.dropPending]⟩
      simp only [Hub.step, found, Option.bind_some, Hub.stepSink, stage]
    · refine ⟨.rejectComplete 0, .released, rfl, rfl, ?_, by simp [DirectAction.dropPending]⟩
      simp only [Hub.step, found, Option.bind_some, Hub.stepSink, stage]
  have taken := @step_hub registration bufSize id s a _ own admitted moved inv.fits
  have inv' := inv.of_step taken
  rw [false_or, eq_false keeps] at inv'
  have given : (s.talk.spawn ((s.talk.hub.answer 0 (.sent rp)).advance 0 sub stage')).hub.answers.lookup 0 =
      some (.sent rp) := by
    rw [Talk.spawn_hub]
    exact Finmap.lookup_insert _
  exact .cons taken keeps (inv'.finish_answered phase given)

/-- The handler can still reject. -/
theorem Inv.finish_pending (inv : Inv bufSize id s False) (room : 0 < bufSize) (phase : s.phase = .waiting)
    {sub : Subscription} (found : s.talk.hub.subs.lookup 0 = some sub) (stage : sub.stage = .pending) :
    Finishes registration bufSize id s := by
  obtain ⟨spoke, tracks⟩ := inv.tracks
  have empty := inv.messages_of_silent (tracks.voice_eq found stage).2.1
  let rp := MethodResponse.subscriptionError sub.id (.ofCode .internalError)
  have moved : s.talk.hub.step directConfig (.rejectSend 0 (.ofCode .internalError)) =
      some ((s.talk.hub.push sub.uniqSub.connId (.reject 0) rp.json).advance 0 sub (.rejected rp)) := by
    simp only [Hub.step, found, Option.bind_some, Hub.stepSink, stage, rp]
  have fits : (((s.talk.hub.push sub.uniqSub.connId (.reject 0) rp.json).advance 0 sub (.rejected rp)).outgoing 0).length ≤
      s.taken + bufSize := by
    change ((s.talk.hub.push sub.uniqSub.connId (.reject 0) rp.json).outgoing 0).length ≤ _
    rw [Hub.outgoing_push, show s.talk.hub.outgoing 0 = _ from empty]
    split
    · exact Nat.le_trans room (Nat.le_add_left _ _)
    · exact Nat.zero_le _
  have taken := @step_hub registration bufSize id s _ _ rfl rfl moved fits
  have keeps : DirectAction.talk (.hub (.rejectSend 0 (.ofCode .internalError))) ≠ .dropPending := by
    simp [DirectAction.dropPending]
  have inv' := inv.of_step taken
  rw [false_or, eq_false keeps] at inv'
  have rejected : (s.talk.spawn ((s.talk.hub.push sub.uniqSub.connId (.reject 0) rp.json).advance 0 sub
      (.rejected rp))).hub.subs.lookup 0 = some { sub with stage := .rejected rp } := by
    rw [Talk.spawn_hub, Hub.advance_push_subs]
    exact Finmap.lookup_insert _
  exact .cons taken keeps (inv'.finish_handed phase rejected (.inr rfl))

theorem Inv.finishes (inv : Inv bufSize id s False) (room : 0 < bufSize) : Finishes registration bufSize id s := by
  cases phase : s.phase with
  | returned rp => exact ⟨[], s, rp, rfl, by simp, phase⟩
  | resolved rp => exact inv.finish_resolved phase
  | waiting =>
      cases given : s.talk.hub.answers.lookup 0 with
      | some answer => exact inv.finish_answered phase given
      | none =>
          obtain ⟨spoke, tracks⟩ := inv.tracks
          have unanswered : ¬ s.talk.hub.Answered 0 0 id spoke := by
            rintro (⟨given', -⟩ | ⟨rp, given', -⟩) <;> cases given.symm.trans given'
          have voice := tracks.voice
          cases found : s.talk.hub.subs.lookup 0 with
          | none =>
              rw [found] at voice
              exact absurd voice unanswered
          | some sub =>
              rw [found, Option.map_some] at voice
              cases stage : sub.stage with
              | pending => exact inv.finish_pending room phase found stage
              | responded rp => exact inv.finish_handed phase found (.inl stage)
              | rejected rp => exact inv.finish_handed phase found (.inr stage)
              | completed | released | accepted =>
                  rw [stage] at voice
                  exact absurd voice unanswered

end Finishing

/-- A call that waits for a message behind a dropped sink does not return. -/
theorem Inv.not_returned {bufSize : Nat} {id : Id} {s : DirectCall} (inv : Inv bufSize id s True) (rp : MethodResponse) :
    s.phase ≠ .returned rp := by
  intro phase
  have ok := inv.phase
  rw [phase] at ok
  cases ok.symm.trans (inv.dropped_iff.mpr trivial)

/-- A direct call returns unless the handler drops its sink: then, and only then, the
    channel is empty when the callback has resolved, and the call waits for ever. -/
theorem direct_call_returns {registration : Registration} {bufSize : Nat} (room : 0 < bufSize) {call : SubscribeCall}
    {ts : List (Transition DirectCall DirectAction)} {s : DirectCall}
    (run : Run (step registration bufSize call.id) (start call) ts s) :
    (¬ Dropped ts →
      (∀ rp, s.phase = .resolved rp → (∃ origin rest, s.inChannel = (origin, rp.json) :: rest) ∧
        ∃ s', step registration bufSize call.id s .recv = some s' ∧ s'.phase = .returned rp) ∧
      Finishes registration bufSize call.id s) ∧
    (Dropped ts → s.inChannel = [] ∧
      ∀ us s', Run (step registration bufSize call.id) s us s' → ∀ rp, s'.phase ≠ .returned rp) := by
  have inv := inv_run run
  constructor
  · intro kept
    rw [eq_false kept] at inv
    exact ⟨fun rp phase => inv.recv phase, inv.finishes room⟩
  · intro dropped
    have gone : Inv bufSize call.id s True := by rwa [eq_true dropped] at inv
    refine ⟨?_, ?_⟩
    · rw [inChannel, gone.messages_of_dropped (gone.dropped_iff.mpr trivial), List.drop_nil]
    · intro us s' later rp
      have still : Inv bufSize call.id s' True := later.invariant (fun s => Inv bufSize call.id s True) (fun _ => True)
        (fun _ _ => trivial) gone fun tr _ before taken => by
          have after := before.of_step taken
          rwa [true_or] at after
      exact still.not_returned rp

def CallPhase.isResolved : CallPhase → Bool
  | .resolved _ => true
  | .waiting | .returned _ => false

/-- A subscribe call. -/
def tickCall : SubscribeCall := { connId := 0, method := 0, notif := "tick", id := .number 1, subId := .num 5 }

/-- The handler drops its sink, the callback resolves, and there is no message. -/
theorem direct_call_dropped :
    ¬ ∀ (registration : Registration) (bufSize : Nat) (call : SubscribeCall)
        (ts : List (Transition DirectCall DirectAction)) (s : DirectCall) (rp : MethodResponse), 0 < bufSize →
      Run (step registration bufSize call.id) (start call) ts s → s.phase = .resolved rp → s.inChannel ≠ [] := by
  intro filled
  obtain ⟨ts, s, run, -, facts⟩ := Run.reaches (step .async 1 tickCall.id) (start tickCall) [.dropPending, .resolve]
    (fun s => CallPhase.isResolved s.phase && s.inChannel.isEmpty) (by decide +kernel)
  obtain ⟨resolved, empty⟩ := (Bool.and_eq_true _ _).mp facts
  cases phase : s.phase with
  | resolved rp => exact filled .async 1 tickCall ts s rp Nat.one_pos run phase (List.isEmpty_iff.mp empty)
  | waiting | returned =>
      rw [phase] at resolved
      cases resolved

/-- A handler that accepts. -/
theorem direct_call_returns_accepted :
    ∃ ts s rp s', Run (step .raw 1 tickCall.id) (start tickCall) ts s ∧ s.phase = .resolved rp ∧
      step .raw 1 tickCall.id s .recv = some s' ∧ s'.phase = .returned rp := by
  obtain ⟨ts, s, run, labels, facts⟩ := Run.reaches (step .raw 1 tickCall.id) (start tickCall)
    [.talk (.hub (.acceptSend 0)), .talk (.hub (.acceptComplete 0)), .resolve]
    (fun s => CallPhase.isResolved s.phase) (by decide +kernel)
  have kept : ¬ Dropped ts := by
    rintro ⟨tr, member, drops⟩
    have listed := List.mem_map_of_mem (f := Transition.action) member
    rw [labels, drops] at listed
    simp [DirectAction.dropPending] at listed
  cases phase : s.phase with
  | resolved rp =>
      obtain ⟨-, s', taken, returned⟩ := ((direct_call_returns Nat.one_pos run).1 kept).1 rp phase
      exact ⟨ts, s, rp, s', run, phase, taken, returned⟩
  | waiting | returned =>
      rw [phase] at facts
      cases facts

end DirectCall

end Server

end Jsonrpsee
