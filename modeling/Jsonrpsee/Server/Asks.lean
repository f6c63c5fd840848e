import Mathlib.Data.Multiset.Basic
import Jsonrpsee.Lib.Owners
import Jsonrpsee.Server.Senders

/-! # What a connection is asked and what it answers

A call asks for one response, a batch for one array with the responses to its
calls, a notification for nothing. Whatever the order in which the tasks of a
connection run, it never carries more answers than it was asked for, and once
the tasks are through, it carries exactly those.
-/

namespace Jsonrpsee

namespace Server

/-- What one message on a wire asks for or answers. -/
inductive Ask where
  | single (id : Id)
  /-- The ids of a batch, in any order. -/
  | batch (ids : Multiset Id)
  deriving DecidableEq

def Incoming.ask : Incoming → Option Ask
  | .call req _ => some (.single req.id)
  | .batch entries => if callIds entries = [] then none else some (.batch (callIds entries))
  | .notification _ _ | .refused _ => none

/-- What a message of the server answers. -/
def answerTo : Json → Option Ask
  | .arr elems => some (.batch (elems.filterMap responseId))
  | value => (responseId value).map .single

/-- What some messages answer. -/
def asksOf (messages : List RawText) : List Ask := messages.filterMap fun json => answerTo json.value

/-- The batch response of the task was too big. -/
def TaskState.tooBig : TaskState → Bool
  | .sending _ tooBig | .done tooBig => tooBig
  | .calling _ _ _ | .running _ _ _ _ | .subscribing _ _ _ _ | .returned _ _ | .looping _ | .panicked => false

theorem answerTo_of_responseId {value : Json} {id : Id} (reply : responseId value = some id) :
    answerTo value = some (.single id) := by
  cases value with
  | obj members => simp only [answerTo, reply, Option.map_some]
  | _ => cases reply

/-- The answers of some response objects. -/
theorem asksOf_eq {messages : List RawText} (replies : ∀ json ∈ messages, ∃ id, responseId json.value = some id) :
    asksOf messages = (idsOf messages).map .single := by
  induction messages with
  | nil => rfl
  | cons json rest ih =>
      obtain ⟨id, reply⟩ := replies json List.mem_cons_self
      have later := ih fun other member => replies other (List.mem_cons_of_mem _ member)
      unfold asksOf idsOf at later ⊢
      simp only [List.filterMap_cons, answerTo_of_responseId reply, later, List.flatMap_cons,
        responseIds_of_responseId reply, List.singleton_append, List.map_cons]

namespace Task

variable {task : Task} {h : Hub} {t : TaskId} {spoke : SinkId → Prop}

/-- Messages of a task, of its sinks, and notifications. -/
theorem asksOf_sends (quiet : ∀ n json, (.sink n, json) ∈ h.outgoing task.conn → answerTo json.value = none) :
    (asksOf (h.said task.conn (task.sends t))).Perm
      (asksOf (h.said task.conn (· = .task t)) ++ asksOf (h.said task.conn task.answers)) := by
  have parts := List.filter_append_perm (fun message => decide (message.1 = Origin.task t))
    ((h.outgoing task.conn).filter fun message => task.sends t message.1)
  rw [List.filter_filter, List.filter_filter] at parts
  have own : (fun message : Origin × RawText => decide (message.1 = .task t) && task.sends t message.1) =
      fun message => decide (message.1 = .task t) := by
    funext ⟨origin, json⟩
    cases origin <;> simp [Task.sends]
  rw [own] at parts
  have flat := ((parts.map Prod.snd).filterMap fun json => answerTo json.value).symm
  rw [List.map_append, List.filterMap_append] at flat
  refine flat.trans (List.Perm.append_left _ (List.Perm.of_eq ?_))
  -- Notifications answer nothing.
  simp only [asksOf, Hub.said, List.filterMap_map, List.filterMap_filter]
  refine List.filterMap_congr fun message member => ?_
  obtain ⟨origin, json⟩ := message
  cases origin with
  | task u => by_cases same : u = t <;> simp [Task.sends, Task.answers, same]
  | accept n | reject n => simp [Task.sends, Task.answers]
  | sink n =>
      have none := quiet n json member
      simp [Task.sends, Task.answers, none]

/-- The messages of the sinks are response objects. -/
theorem replies_of_answers (tracked : ∀ n ∈ task.sinks, ∃ id, h.Tracks task.conn n id (spoke n)) :
    ∀ json ∈ h.said task.conn task.answers, ∃ id, responseId json.value = some id := by
  intro json said
  obtain ⟨n, member, said⟩ := mem_said_answers.mp said
  obtain ⟨id, tracks⟩ := tracked n member
  rcases tracks.heard with ⟨silent, -⟩ | ⟨json', same, reply, -⟩
  · rw [silent] at said
    cases said
  · rw [same] at said
    obtain rfl := List.mem_singleton.mp said
    exact ⟨id, reply⟩

/-- Without an entry in its books, a task has no sinks, and they say nothing. -/
theorem said_answers_of_no_sinks (none : task.sinks = []) : h.said task.conn task.answers = [] := by
  refine List.eq_nil_iff_forall_not_mem.mpr fun json said => ?_
  obtain ⟨n, member, -⟩ := mem_said_answers.mp said
  rw [none] at member
  cases member

theorem said_answers_of_unheard (unheard : ∀ n ∈ task.sinks, h.said task.conn (Origin.isAnswer n) = []) :
    h.said task.conn task.answers = [] := by
  refine List.eq_nil_iff_forall_not_mem.mpr fun json said => ?_
  obtain ⟨n, member, said⟩ := mem_said_answers.mp said
  rw [unheard n member] at said
  cases said

/-- The books of a task without panics hold the ids of its calls. -/
theorem Books.perm {sinks : List SinkId} {before : List Entry} {rps : List MethodResponse} {ids : List Id}
    (books : Books sinks [] before rps ids) : ids.Perm (callIds before) :=
  books.perm_iff.mpr (by simp)

/-- The response to a single call: it is given by the task or by its sink, once. -/
theorem Final.asks_single {rp : MethodResponse} (final : task.Final h rp) (calm : task.failed = []) {req : Request}
    {extensions : Extensions} (message : task.message = .call req extensions)
    (tracked : ∀ n ∈ task.sinks, ∃ id, h.Tracks task.conn n id (spoke n)) :
    asksOf (if rp.isMethodCall || rp.isBatch then [rp.json] else []) ++ asksOf (h.said task.conn task.answers) =
      [.single req.id] := by
  have single : task.message.isSingle = true := by
    rw [message]
    rfl
  obtain ⟨rps, ids, books, shared⟩ := final.single single tracked
  rw [calm, message] at books
  obtain rfl : ids = [req.id] := List.perm_singleton.mp books.perm
  have own : ∀ json ∈ (if rp.isMethodCall || rp.isBatch then [rp.json] else []),
      ∃ id, responseId json.value = some id := by
    intro json member
    obtain ⟨rps, ids, books, ended⟩ := final
    rw [if_pos single] at ended
    obtain ⟨rfl, -⟩ := ended
    split at member
    · obtain rfl := List.mem_singleton.mp member
      cases books.replies with
      | cons reply _ => exact ⟨_, reply⟩
    · cases member
  rw [asksOf_eq own, asksOf_eq (replies_of_answers tracked), ← List.map_append, shared]
  rfl

/-- The response to a batch. -/
theorem Final.asks_batch {rp : MethodResponse} (final : task.Final h rp) (calm : task.failed = [])
    (wellFormed : task.message.WellFormed) (batch : task.message.isSingle = false) :
    asksOf (if rp.isMethodCall || rp.isBatch then [rp.json] else []) = task.message.ask.toList := by
  obtain ⟨entries, message⟩ : ∃ entries, task.message = .batch entries := by
    cases message : task.message with
    | call =>
        rw [message] at batch
        cases batch
    | batch entries => exact ⟨entries, rfl⟩
    | notification | refused =>
        rw [message] at wellFormed
        exact wellFormed.elim
  obtain ⟨rps, ids, books, ended⟩ := final
  rw [if_neg (by rw [batch]; simp)] at ended
  obtain ⟨extensions, rfl⟩ := ended
  have replies := books.replies
  rw [calm, message] at books
  have same : ids.Perm (callIds entries) := books.perm
  rw [message, Incoming.ask]
  unfold RpcService.closing
  by_cases empty : rps = []
  · subst empty
    obtain rfl : ids = [] := List.forall₂_nil_left_iff.mp replies
    have none : callIds entries = [] := List.nil_perm.mp same
    have silent : task.message.entries.any Entry.isNotification = true := by
      refine any_isNotification_of_no_calls wellFormed.nonempty wellFormed.no_error ?_
      rw [message]
      exact none
    rw [if_pos rfl, ← message, silent, if_pos rfl, if_pos none]
    rfl
  · have some : callIds entries ≠ [] := by
      intro none
      rw [none, List.perm_nil] at same
      subst same
      exact empty (List.forall₂_nil_right_iff.mp replies)
    rw [if_neg empty, if_neg some]
    show asksOf [arrayOf rps] = _
    have elems := filterMap_of_replies replies
    simp only [asksOf, List.filterMap_cons, List.filterMap_nil, arrayOf, answerTo, elems]
    rw [Multiset.coe_eq_coe.mpr same]
    rfl

/-- Before the task has put its response on the channel, only its sink can have
    answered a single call. -/
theorem Final.answers_single {rp : MethodResponse} (final : task.Final h rp) (calm : task.failed = []) {req : Request}
    {extensions : Extensions} (message : task.message = .call req extensions)
    (tracked : ∀ n ∈ task.sinks, ∃ id, h.Tracks task.conn n id (spoke n)) :
    asksOf (h.said task.conn task.answers) = [.single req.id] ∨ asksOf (h.said task.conn task.answers) = [] := by
  rcases List.append_eq_singleton_iff.mp (final.asks_single calm message tracked) with ⟨-, all⟩ | ⟨-, none⟩
  · exact .inl all
  · exact .inr none

/-- A single call is answered once, at the latest when its task is through. -/
theorem Accounts.asks_single (accounts : task.Accounts h t spoke) (calm : task.failed = [])
    (small : task.state.tooBig = false) {req : Request} {extensions : Extensions}
    (message : task.message = .call req extensions) :
    asksOf (h.said task.conn (· = .task t)) ++ asksOf (h.said task.conn task.answers) = [.single req.id] ∨
      (∀ tooBig, task.state ≠ .done tooBig) ∧
        asksOf (h.said task.conn (· = .task t)) ++ asksOf (h.said task.conn task.answers) = [] := by
  have single : task.message.isSingle = true := by
    rw [message]
    rfl
  have entries : task.message.entries = [.ok (.call req extensions)] := by
    rw [message]
    rfl
  have alone : ∀ {before after rps} {rest : Option Loop}, task.Place before after rps rest → rest = none ∧ before = [] := by
    intro before after rps rest place
    cases rest with
    | none => exact ⟨rfl, place.2.1⟩
    | some loop => cases single.symm.trans place.1
  have stands := accounts.stands
  -- Until the task is through, what counts is what its sinks have said.
  have waiting : (∀ tooBig, task.state ≠ .done tooBig) →
      (asksOf (h.said task.conn task.answers) = [.single req.id] ∨ asksOf (h.said task.conn task.answers) = []) →
      asksOf (h.said task.conn (· = .task t)) ++ asksOf (h.said task.conn task.answers) = [.single req.id] ∨
        (∀ tooBig, task.state ≠ .done tooBig) ∧
          asksOf (h.said task.conn (· = .task t)) ++ asksOf (h.said task.conn task.answers) = [] := by
    intro unfinished cases
    rw [accounts.unsent unfinished]
    exact cases.imp id fun none => ⟨unfinished, none⟩
  have sinkless : task.sinks = [] → asksOf (h.said task.conn task.answers) = [] := by
    intro none
    rw [said_answers_of_no_sinks none]
    rfl
  cases state : task.state with
  | calling req' extensions' rest | running req' extensions' blocking rest =>
      rw [state] at stands
      obtain ⟨before, after, rps, ids, -, place, books⟩ := stands
      obtain ⟨-, rfl⟩ := alone place
      rw [state] at waiting
      exact waiting (by simp) (.inr (sinkless books.sinks_eq_nil))
  | subscribing req' extensions' n rest =>
      rw [state] at stands
      obtain ⟨before, after, rps, ids, sinks, shape, place, books, own, tracks⟩ := stands
      obtain ⟨-, rfl⟩ := alone place
      rw [books.sinks_eq_nil, List.nil_append] at own
      rw [entries, List.nil_append] at shape
      cases shape
      rw [state] at waiting
      refine waiting (by simp) ?_
      have only : task.answers = Origin.isAnswer n := by
        rw [answers_eq, own]
        funext origin
        simp
      rw [only]
      rcases tracks.heard with ⟨silent, -⟩ | ⟨json, said, reply, -⟩
      · rw [silent]
        exact .inr rfl
      · left
        rw [said]
        simp only [asksOf, List.filterMap_cons, answerTo_of_responseId reply, List.filterMap_nil]
  | returned rp rest =>
      rw [state] at stands waiting
      have returned := stands
      obtain ⟨before, after, rps, ids, entry, -, place, -⟩ := returned
      obtain ⟨rfl, -⟩ := alone place
      have final : task.Final h rp := stands.collect rfl
      exact waiting (by simp) (final.answers_single calm message accounts.sinks)
  | looping loop =>
      rw [state] at stands
      obtain ⟨before, rps, ids, -, place, -⟩ := stands
      cases (alone place).1
  | sending rp tooBig =>
      rw [state] at stands waiting small
      exact waiting (by simp) ((stands small).answers_single calm message accounts.sinks)
  | done tooBig =>
      rw [state] at stands small
      obtain ⟨rp, final, said⟩ := stands small
      rw [said]
      exact .inl (final.asks_single calm message accounts.sinks)
  | panicked =>
      rw [state] at stands waiting
      have few : task.sinks.length < (callIds task.message.entries).length := stands
      rw [entries] at few
      have none : task.sinks = [] := List.eq_nil_of_length_eq_zero (Nat.lt_one_iff.mp few)
      exact waiting (by simp) (.inr (sinkless none))

/-- At any time the task and its sinks have said nothing or what the message asks
    for, and once the task is through, they have said it. -/
theorem Accounts.asks (accounts : task.Accounts h t spoke) (wellFormed : task.message.WellFormed)
    (calm : task.failed = []) (small : task.state.tooBig = false)
    (unheard : task.message.isSingle = false → ∀ n ∈ task.sinks, h.said task.conn (Origin.isAnswer n) = []) :
    asksOf (h.said task.conn (· = .task t)) ++ asksOf (h.said task.conn task.answers) = task.message.ask.toList ∨
      (∀ tooBig, task.state ≠ .done tooBig) ∧
        asksOf (h.said task.conn (· = .task t)) ++ asksOf (h.said task.conn task.answers) = [] := by
  cases kind : task.message.isSingle with
  | true =>
      cases message : task.message with
      | call req extensions => exact accounts.asks_single calm small message
      | batch | notification | refused =>
          rw [message] at kind
          cases kind
  | false =>
      rw [said_answers_of_unheard (unheard kind)]
      by_cases finished : ∃ tooBig, task.state = .done tooBig
      · obtain ⟨tooBig, state⟩ := finished
        have stands := accounts.stands
        rw [state] at stands small
        obtain ⟨rp, final, said⟩ := stands small
        rw [said, final.asks_batch calm wellFormed kind]
        exact .inl (List.append_nil _)
      · have unfinished : ∀ tooBig, task.state ≠ .done tooBig := not_exists.mp finished
        rw [accounts.unsent unfinished]
        exact .inr ⟨unfinished, rfl⟩

/-- The task of a notification: there is nothing it could say. -/
def Mute (task : Task) (h : Hub) (t : TaskId) : Prop :=
  task.sinks = [] ∧ (∀ conn, h.said conn (· = .task t) = []) ∧
    (task.state = .done false ∨
      ∃ rp, task.state = .sending rp false ∧ (rp.isMethodCall || rp.isBatch) = false)

theorem Mute.of_stepTask (mute : task.Mute h t) {service : Service} {a : TaskAction} {h' : Hub} {task' : Task}
    (taken : service.stepTask h t task a = some (h', task')) : task'.Mute h' t := by
  obtain ⟨sinks, silent, state⟩ := mute
  rcases state with done | ⟨rp, sending, quiet⟩
  · unfold Service.stepTask at taken
    rw [done] at taken
    cases a <;> cases taken
  · unfold Service.stepTask at taken
    rw [sending] at taken
    cases a with
    | send =>
        simp only [quiet, Bool.false_eq_true, if_false] at taken
        cases taken
        exact ⟨sinks, silent, .inl rfl⟩
    | call | resolve | joinError | resume | collect | loop | panic => cases taken

end Task

namespace Serving

variable {service : Service} {w w' : Serving} {ts : List (Transition Serving ServingAction)} {conn : ConnectionId}

theorem muted (run : Run (step service) .new ts w) : ∀ {t task n extensions}, w.tasks.lookup t = some task →
    task.message = .notification n extensions → task.Mute w.hub t := by
  induction run with
  | nil =>
      intro t task n extensions found
      cases found
  | @snoc ts w a w' earlier taken ih =>
      have before := balanced earlier
      intro u task₁ n extensions found₁ message
      cases a with
      | hub a =>
          simp only [step] at taken
          obtain ⟨free, taken⟩ := Option.ite_none_right_eq_some.mp taken
          obtain ⟨hub, moved, rfl⟩ := Option.map_eq_some_iff.mp taken
          obtain ⟨sinks, silent, state⟩ := ih found₁ message
          refine ⟨sinks, fun conn => ?_, state⟩
          exact ((Hub.move_of_step moved).said conn (by simp)).trans (silent conn)
      | receive conn data extensions' =>
          simp only [step] at taken
          obtain ⟨-, taken⟩ := Option.ite_none_right_eq_some.mp taken
          obtain rfl := Option.some.inj taken
          rw [Table.lookup_insert_ite] at found₁
          split at found₁
          · rename_i new
            subst new
            obtain rfl := Option.some.inj found₁
            have message : service.read data extensions' = .notification n extensions := message
            refine ⟨rfl, (before.fresh (Nat.le_refl _)).2, .inr ⟨RpcService.notification extensions, ?_, rfl⟩⟩
            show service.start (service.read data extensions') = _
            rw [message]
            rfl
          · exact ih found₁ message
      | task t a =>
          obtain ⟨task, found, taken⟩ := Option.bind_eq_some_iff.mp taken
          obtain ⟨⟨hub, task'⟩, moved, rfl⟩ := Option.map_eq_some_iff.mp taken
          obtain ⟨-, sameMessage, effect⟩ := Task.stepTask_effect moved
          rw [Table.lookup_insert_ite] at found₁
          split at found₁
          · rename_i same
            subst same
            obtain rfl := Option.some.inj found₁
            exact (ih found (sameMessage.symm.trans message)).of_stepTask moved
          · rename_i other
            obtain ⟨sinks, silent, state⟩ := ih found₁ message
            obtain ⟨-, -, -, -, said, -⟩ := before.of_effect effect
            exact ⟨sinks, fun conn => (said conn u other).trans (silent conn), state⟩

/-! ## The asks and answers of a connection -/

/-- What the message of one task asks for. -/
def due (w : Serving) (conn : ConnectionId) (t : TaskId) : List Ask :=
  ((w.tasks.lookup t).bind fun task => if task.conn = conn then task.message.ask else none).toList

/-- What the messages of a connection have asked for, in the order of their arrival. -/
def asked (w : Serving) (conn : ConnectionId) : List Ask := (List.range w.next).flatMap (w.due conn)

/-- What has been answered on the channel of a connection. -/
def answered (w : Serving) (conn : ConnectionId) : List Ask :=
  (w.hub.outgoing conn).filterMap fun message => answerTo message.2.value

/-- The message on the channel is that of a task. -/
def owns (w : Serving) (conn : ConnectionId) (t : TaskId) (message : Origin × RawText) : Bool :=
  (w.tasks.lookup t).any fun task => task.conn = conn && task.sends t message.1

/-- The connection is open, and on it no blocking callback has panicked, no batch
    response has been too big and no handler has answered for a call of a batch. -/
structure Calm (w : Serving) (conn : ConnectionId) : Prop where
  up : w.hub.isOpen conn = true
  unharmed : ∀ {t task}, w.tasks.lookup t = some task → task.conn = conn → task.failed = []
  small : ∀ {t task}, w.tasks.lookup t = some task → task.conn = conn → task.state.tooBig = false
  unheard : ∀ {t task}, w.tasks.lookup t = some task → task.conn = conn → task.message.isSingle = false →
    ∀ n ∈ task.sinks, w.hub.said conn (Origin.isAnswer n) = []

theorem calm_iff : w.Calm conn ↔ w.hub.isOpen conn = true ∧
    Table.count w.tasks (fun task => task.conn = conn ∧ ¬ (task.failed = [] ∧ task.state.tooBig = false ∧
      (task.message.isSingle = false → ∀ n ∈ task.sinks, (w.hub.said conn (Origin.isAnswer n)).isEmpty = true))) = 0 := by
  rw [Table.count_eq_zero_iff]
  constructor
  · rintro ⟨up, unharmed, small, unheard⟩
    refine ⟨up, fun found off => off.2 ⟨unharmed found off.1, small found off.1, fun batch n member => ?_⟩⟩
    rw [unheard found off.1 batch n member]
    rfl
  · rintro ⟨up, none⟩
    have all : ∀ {t task}, w.tasks.lookup t = some task → task.conn = conn → task.failed = [] ∧
        task.state.tooBig = false ∧ (task.message.isSingle = false →
          ∀ n ∈ task.sinks, (w.hub.said conn (Origin.isAnswer n)).isEmpty = true) :=
      fun found here => not_not.mp fun off => none found ⟨here, off⟩
    exact ⟨up, fun found here => (all found here).1, fun found here => (all found here).2.1,
      fun found here batch n member => List.isEmpty_iff.mp ((all found here).2.2 batch n member)⟩

instance (w : Serving) (conn : ConnectionId) : Decidable (w.Calm conn) := decidable_of_iff _ calm_iff.symm

/-- The messages of the connection are in order, and handlers send notifications. -/
structure Orderly (w : Serving) (conn : ConnectionId) : Prop extends Calm w conn where
  messages : ∀ {t task}, w.tasks.lookup t = some task → task.conn = conn →
    task.message.WellFormed ∨ ∃ n extensions, task.message = .notification n extensions
  quiet : ∀ n json, (.sink n, json) ∈ w.hub.outgoing conn → answerTo json.value = none

/-! What the steps do to both. -/

theorem due_insert {t : TaskId} {task task' : Task} (found : w.tasks.lookup t = some task)
    (sameConn : task'.conn = task.conn) (sameMessage : task'.message = task.message) (hub : Hub) (u : TaskId) :
    due { w with hub, tasks := w.tasks.insert t task' } conn u = w.due conn u := by
  unfold due
  dsimp only
  rw [Table.lookup_insert_ite]
  split
  · rename_i same
    rw [same, found, Option.bind_some, Option.bind_some, sameConn, sameMessage]
  · rfl

/-- A message asks for what it asks for. -/
theorem asked_receive {conn' : ConnectionId} {data : List UInt8} {extensions : Extensions}
    (taken : w.step service (.receive conn' data extensions) = some w') :
    w'.asked conn = w.asked conn ++ (if conn' = conn then (service.read data extensions).ask else none).toList := by
  simp only [step] at taken
  obtain ⟨-, taken⟩ := Option.ite_none_right_eq_some.mp taken
  obtain rfl := Option.some.inj taken
  unfold asked
  dsimp only
  rw [List.range_succ, List.flatMap_append, List.flatMap_singleton]
  congr 1
  · refine List.flatMap_congr fun u member => ?_
    rw [due, due, Table.lookup_insert_ite, if_neg (Nat.ne_of_lt (List.mem_range.mp member))]
  · rw [due, Table.lookup_insert_ite, if_pos rfl]
    rfl

/-- Only messages of the connection itself ask for something. -/
theorem asked_of_step {a : ServingAction} (taken : w.step service a = some w')
    (other : ∀ data extensions, a ≠ .receive conn data extensions) : w'.asked conn = w.asked conn := by
  cases a with
  | hub a =>
      simp only [step] at taken
      obtain ⟨-, taken⟩ := Option.ite_none_right_eq_some.mp taken
      obtain ⟨hub, -, rfl⟩ := Option.map_eq_some_iff.mp taken
      rfl
  | receive conn' data extensions =>
      have elsewhere : conn' ≠ conn := fun same => other data extensions (same ▸ rfl)
      rw [asked_receive taken, if_neg elsewhere, Option.toList_none, List.append_nil]
  | task t a =>
      obtain ⟨task, found, taken⟩ := Option.bind_eq_some_iff.mp taken
      obtain ⟨⟨hub, task'⟩, moved, rfl⟩ := Option.map_eq_some_iff.mp taken
      obtain ⟨sameConn, sameMessage, -⟩ := Task.stepTask_effect moved
      unfold asked
      exact congrArg (List.range w.next).flatMap (funext (due_insert found sameConn sameMessage hub))

/-- Nothing is taken off a channel. -/
theorem outgoing_prefix {a : ServingAction} (taken : w.step service a = some w') :
    w.hub.outgoing conn <+: w'.hub.outgoing conn := by
  cases a with
  | hub a =>
      simp only [step] at taken
      obtain ⟨-, taken⟩ := Option.ite_none_right_eq_some.mp taken
      obtain ⟨hub, moved, rfl⟩ := Option.map_eq_some_iff.mp taken
      exact (Hub.move_of_step moved).outgoing_grows
  | receive conn' data extensions =>
      simp only [step] at taken
      obtain ⟨-, taken⟩ := Option.ite_none_right_eq_some.mp taken
      obtain rfl := Option.some.inj taken
      exact List.prefix_rfl
  | task t a =>
      obtain ⟨task, found, taken⟩ := Option.bind_eq_some_iff.mp taken
      obtain ⟨⟨hub, task'⟩, moved, rfl⟩ := Option.map_eq_some_iff.mp taken
      cases Task.talks_of_stepTask moved with
      | silent _ _ outgoing => rw [outgoing]
      | push rp tooBig state loud hub =>
          rw [hub]
          exact Hub.outgoing_push_grows
      | subscribe call _ hub => rw [hub, Task.outgoing_enlist]

/-! What an orderly connection has answered. -/

theorem Staffed.sharedOut (staffed : Staffed w) (conn : ConnectionId) :
    SharedOut (w.owns conn) (List.range w.next) (w.hub.outgoing conn) where
  nodup := List.nodup_range
  owned message member := by
    obtain ⟨t, task, found, here, own⟩ := staffed.messages member
    refine ⟨t, List.mem_range.mpr (staffed.next found), ?_⟩
    simp [owns, found, here, own]
  sole message _ t _ u _ mine yours := by
    obtain ⟨task, found, mine⟩ := (Option.any_eq_true _ _).mp mine
    obtain ⟨task', found', yours⟩ := (Option.any_eq_true _ _).mp yours
    have mine := (Bool.and_eq_true_iff.mp mine).2
    have yours := (Bool.and_eq_true_iff.mp yours).2
    obtain ⟨origin, json⟩ := message
    cases origin with
    | task v => exact (of_decide_eq_true mine).symm.trans (of_decide_eq_true yours)
    | accept n | reject n | sink n =>
        exact staffed.sole found found' (of_decide_eq_true mine) (of_decide_eq_true yours)

/-- What one task and its sinks have answered. -/
theorem Orderly.part (orderly : Orderly w conn) (run : Run (step service) .new ts w) (t : TaskId) :
    (((w.hub.outgoing conn).filter (w.owns conn t)).filterMap fun message => answerTo message.2.value).Perm
        (w.due conn t) ∨
      (∃ task, w.tasks.lookup t = some task ∧ task.conn = conn ∧ task.state ≠ .done false) ∧
        ((w.hub.outgoing conn).filter (w.owns conn t)).filterMap (fun message => answerTo message.2.value) = [] := by
  by_cases mine : ∃ task, w.tasks.lookup t = some task ∧ task.conn = conn
  · obtain ⟨task, found, rfl⟩ := mine
    have part : ((w.hub.outgoing task.conn).filter (w.owns task.conn t)).filterMap
        (fun message => answerTo message.2.value) = asksOf (w.hub.said task.conn (task.sends t)) := by
      rw [asksOf, Hub.said, List.filterMap_map]
      congr 2
      funext message
      simp [owns, found]
    have due : w.due task.conn t = task.message.ask.toList := by
      rw [Serving.due, found, Option.bind_some, if_pos rfl]
    have parts := Task.asksOf_sends (t := t) orderly.quiet
    rw [part, due]
    rcases orderly.messages found rfl with wellFormed | ⟨n, extensions, message⟩
    · have accounts := (balanced run).accounts found wellFormed orderly.up
      rcases accounts.asks wellFormed (orderly.unharmed found rfl) (orderly.small found rfl) (orderly.unheard found rfl) with
        all | ⟨unfinished, none⟩
      · rw [all] at parts
        exact .inl parts
      · rw [none] at parts
        exact .inr ⟨⟨task, found, rfl, unfinished false⟩, List.perm_nil.mp parts⟩
    · obtain ⟨sinks, silent, -⟩ := muted run found message
      rw [silent, Task.said_answers_of_no_sinks sinks] at parts
      rw [message]
      exact .inl parts
  · left
    have others : ∀ {task}, w.tasks.lookup t = some task → task.conn ≠ conn :=
      fun found here => mine ⟨_, found, here⟩
    have part : (w.hub.outgoing conn).filter (w.owns conn t) = [] := by
      refine List.filter_eq_nil_iff.mpr fun message _ own => ?_
      obtain ⟨task, found, own⟩ := (Option.any_eq_true _ _).mp own
      exact others found (of_decide_eq_true (Bool.and_eq_true_iff.mp own).1)
    have none : w.due conn t = [] := by
      rw [Serving.due]
      cases found : w.tasks.lookup t with
      | none => rfl
      | some task => rw [Option.bind_some, if_neg (others found), Option.toList_none]
    rw [part, none]
    exact .nil

/-- What answers an ask is said by a task that was asked for it. -/
theorem Orderly.answerer (orderly : Orderly w conn) (run : Run (step service) .new ts w) {message : Origin × RawText}
    (member : message ∈ w.hub.outgoing conn) {ask : Ask} (answers : answerTo message.2.value = some ask) :
    ∃ t task, w.tasks.lookup t = some task ∧ task.conn = conn ∧ task.sends t message.1 = true ∧
      task.message.ask = some ask := by
  obtain ⟨t, task, found, here, own⟩ := (staffed run).messages member
  have given : ask ∈ ((w.hub.outgoing conn).filter (w.owns conn t)).filterMap fun message => answerTo message.2.value := by
    refine List.mem_filterMap.mpr ⟨message, List.mem_filter.mpr ⟨member, ?_⟩, answers⟩
    simp [owns, found, here, own]
  refine ⟨t, task, found, here, own, ?_⟩
  rcases orderly.part run t with all | ⟨-, none⟩
  · have owed := all.mem_iff.mp given
    rw [due, found, Option.bind_some, if_pos here] at owed
    exact Option.mem_toList.mp owed
  · rw [none] at given
    cases given

theorem Orderly.within (orderly : Orderly w conn) (run : Run (step service) .new ts w) :
    (w.answered conn).Subperm (w.asked conn) := by
  refine ((staffed run).sharedOut conn).bounded fun t _ => ?_
  rcases orderly.part run t with all | ⟨-, none⟩
  · exact all.subperm
  · rw [none]
    exact List.nil_subperm

theorem Orderly.exactly (orderly : Orderly w conn) (run : Run (step service) .new ts w)
    (through : ∀ {t task}, w.tasks.lookup t = some task → task.conn = conn → task.state = .done false) :
    (w.answered conn).Perm (w.asked conn) := by
  refine ((staffed run).sharedOut conn).exact fun t _ => ?_
  rcases orderly.part run t with all | ⟨⟨task, found, here, unfinished⟩, -⟩
  · exact all
  · exact absurd (through found here) unfinished

/-- On an orderly connection nothing is answered that was not asked for, and
    nothing twice; and once the tasks are through, everything has been answered. -/
theorem answers_within_asks (run : Run (step service) .new ts w) (orderly : Orderly w conn) :
    (w.answered conn).Subperm (w.asked conn) ∧
      ((∀ {t task}, w.tasks.lookup t = some task → task.conn = conn → task.state = .done false) →
        (w.answered conn).Perm (w.asked conn)) :=
  ⟨orderly.within run, fun through => orderly.exactly run through⟩

/-- The test of an orderly connection whose only message is that of the task `0`,
    which is through, and where only tasks have said something. -/
def isOrderly (w : Serving) (conn : ConnectionId) : Bool :=
  w.next = 1 ∧ w.hub.isOpen conn ∧ ((w.hub.outgoing conn).all fun message => message.1 matches .task _) ∧
    (w.tasks.lookup 0).any fun task => task.message.WellFormed ∧ task.failed = [] ∧ isDone task.state

theorem orderly_of_isOrderly (run : Run (step service) .new ts w) (holds : w.isOrderly conn = true) :
    Orderly w conn ∧ ∀ {t task}, w.tasks.lookup t = some task → task.conn = conn → task.state = .done false := by
  obtain ⟨one, up, messages, only⟩ := of_decide_eq_true holds
  obtain ⟨task, found, only⟩ := (Option.any_eq_true _ _).mp only
  obtain ⟨wellFormed, calm, through⟩ := of_decide_eq_true only
  have sole : ∀ {t task'}, w.tasks.lookup t = some task' → task' = task := by
    intro t task' found'
    have first : t < 1 := one ▸ (staffed run).next found'
    obtain rfl := Nat.lt_one_iff.mp first
    exact Option.some.inj (found'.symm.trans found)
  have done := of_isDone through
  refine ⟨⟨⟨up, ?_, ?_, ?_⟩, ?_, ?_⟩, ?_⟩
  · intro t task' found' _
    rw [sole found', calm]
  · intro t task' found' _
    rw [sole found', done]
    rfl
  · intro t task' found' _ _ n _
    refine List.eq_nil_iff_forall_not_mem.mpr fun json said => ?_
    obtain ⟨origin, answers, member⟩ := Task.mem_said.mp said
    have own := List.all_eq_true.mp messages _ member
    cases origin with
    | task u => cases answers
    | accept | reject | sink => cases own
  · intro t task' found' _
    rw [sole found']
    exact .inl wellFormed
  · intro n json member
    cases List.all_eq_true.mp messages _ member
  · intro t task' found' _
    rw [sole found', done]

/-- A batch of two calls is answered with one array. -/
theorem answers_within_asks_batch :
    ∃ ts w, Run (step hello) .new ts w ∧ ts.map Transition.action = batchRun [.dropPending 0] ∧
      w.asked 0 = [.batch ↑[Id.number 1, Id.number 2]] ∧ (w.answered 0).Perm (w.asked 0) := by
  obtain ⟨ts, w, run, labels, state⟩ := Run.reaches (step hello) .new (batchRun [.dropPending 0])
    (fun w => w.isOrderly 0 ∧ w.asked 0 = [.batch ↑[Id.number 1, Id.number 2]]) (by decide +kernel)
  obtain ⟨orderly, asks⟩ := of_decide_eq_true state
  obtain ⟨orderly, through⟩ := orderly_of_isOrderly run orderly
  exact ⟨ts, w, run, labels, asks, (answers_within_asks run orderly).2 through⟩

end Serving

end Server

end Jsonrpsee
