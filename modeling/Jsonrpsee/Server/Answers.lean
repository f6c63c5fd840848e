import Jsonrpsee.Server.Closing

/-! # How a sink answers its subscribe call

`accept` and `reject` answer a subscribe call twice: with a message of their own
on the channel of the connection, and with the response that the call returns. A
sink that is dropped does neither. While the connection is open, the two go
together.
-/

namespace Jsonrpsee

namespace Server

/-- The id of a response object. -/
def responseId : Json → Option Id
  | .obj members =>
      if (members.lookup "result").isSome || (members.lookup "error").isSome then
        (members.lookup "id").bind Id.fromJson
      else none
  | _ => none

/-- The ids of the responses of a message, counting the elements of an array. -/
def responseIds : Json → List Id
  | .arr elems => elems.filterMap responseId
  | value => (responseId value).toList

theorem responseId_toJson (payload : ResponsePayload) (id : Id) :
    responseId (Response.new payload id).toJson = some id := by
  cases payload <;> exact Id.fromJson_toJson id

theorem responseIds_of_responseId {value : Json} {id : Id} (reply : responseId value = some id) :
    responseIds value = [id] := by
  cases value with
  | obj members => simp only [responseIds, reply, Option.toList_some]
  | _ => cases reply

/-- The response object has this id. -/
def MethodResponse.Replies (rp : MethodResponse) (id : Id) : Prop := responseId rp.json.value = some id

theorem MethodResponse.replies_error (id : Id) (err : ErrorObject) : (MethodResponse.error id err).Replies id :=
  responseId_toJson ..

theorem MethodResponse.replies_response (id : Id) (result : Result) (limit : Nat) :
    (MethodResponse.response id result limit).Replies id := by
  cases result with
  | payload inner onExit =>
      simp only [response]
      split <;> exact responseId_toJson ..
  | unserializable written onExit =>
      simp only [response]
      split <;> exact responseId_toJson ..

theorem MethodResponse.kind_response (id : Id) (result : Result) (limit : Nat) :
    (MethodResponse.response id result limit).kind = .methodCall := by
  cases result with
  | payload inner onExit =>
      simp only [response]
      split <;> rfl
  | unserializable written onExit =>
      simp only [response]
      split <;> rfl

/-- The message of `accept` or `reject` for the sink `n`. -/
def Origin.isAnswer (n : SinkId) : Origin → Bool
  | .accept m | .reject m => m = n
  | .sink _ | .task _ => false

/-- The handler accepts or rejects. -/
def HubAction.Speaks (n : SinkId) (a : HubAction) : Prop := a = .acceptSend n ∨ ∃ err, a = .rejectSend n err

namespace Hub

variable {cfg : ServerConfig} {h h' : Hub} {n : SinkId} {s : Subscription} {conn : ConnectionId} {a : HubAction}

/-- The messages on a channel with certain origins. -/
def said (h : Hub) (conn : ConnectionId) (by_ : Origin → Bool) : List RawText :=
  ((h.outgoing conn).filter fun message => by_ message.1).map Prod.snd

theorem said_push {conn' : ConnectionId} {origin : Origin} {json : RawText} {by_ : Origin → Bool} :
    (h.push conn' origin json).said conn by_ =
      h.said conn by_ ++ if conn = conn' ∧ h.isOpen conn' = true ∧ by_ origin = true then [json] else [] := by
  rw [said, said, outgoing_push, List.filter_append, List.map_append]
  by_cases here : conn = conn' ∧ h.isOpen conn' = true
  · by_cases own : by_ origin = true
    · simp [here, own]
    · simp [here, own]
  · rw [if_neg here, if_neg fun all => here ⟨all.1, all.2.1⟩]
    rfl

theorem said_of_outgoing (same : h'.outgoing conn = h.outgoing conn) (by_ : Origin → Bool) :
    h'.said conn by_ = h.said conn by_ := by
  rw [said, said, same]

/-- What a step says is about its sink. -/
theorem Move.said (move : Move cfg h a h') (conn : ConnectionId) {by_ : Origin → Bool}
    (silent : ∀ m, a.sink = some m → by_ (.accept m) = false ∧ by_ (.reject m) = false ∧ by_ (.sink m) = false) :
    h'.said conn by_ = h.said conn by_ := by
  rcases move.outgoing conn with same | ⟨m, s, origin, json, acts, -, -, same, cases⟩
  · exact said_of_outgoing same by_
  · have out : by_ origin = false := by
      obtain ⟨accepts, rejects, sends⟩ := silent m acts
      rcases cases with ⟨rfl, -⟩ | rfl | ⟨rfl, -⟩
      · exact accepts
      · exact rejects
      · exact sends
    rw [Hub.said, Hub.said, same, List.filter_append, List.filter_singleton, out]
    simp

/-- Steps that are not about a sink leave it alone. -/
theorem Move.subs_of_ne (move : Move cfg h a h') (old : n < h.next) (other : a.sink ≠ some n) :
    h'.subs.lookup n = h.subs.lookup n := by
  have ne : ∀ {m}, a.sink = some m → n ≠ m := fun acts same => other (same ▸ acts)
  cases move with
  | connect | refuse | unsent => rfl
  | close => rw [onConn_subs]
  | send => rw [push_subs]
  | unsubscribe =>
      unfold Hub.unsubscribe
      split <;> rfl
  | subscribe =>
      simp only [enlist, onConn_subs, onConn_next]
      rw [Table.lookup_insert_ite, if_neg (Nat.ne_of_lt old)]
  | release | dropLast =>
      simp only [Hub.free, onConn_subs]
      rw [Table.lookup_erase_ite, if_neg (ne rfl)]
  | respond | reject => rw [advance_push_subs, Table.lookup_insert_ite, if_neg (ne rfl)]
  | _ =>
      simp only [advance, answer]
      rw [Table.lookup_insert_ite, if_neg (ne rfl)]

theorem Move.answers_of_ne (move : Move cfg h a h') (other : a.sink ≠ some n) :
    h'.answers.lookup n = h.answers.lookup n := by
  have ne : ∀ {m}, a.sink = some m → n ≠ m := fun acts same => other (same ▸ acts)
  cases move with
  | close | subscribe | release | dropLast => simp only [enlist, Hub.free, onConn_answers]
  | unsubscribe =>
      unfold Hub.unsubscribe
      split <;> rfl
  | respond | reject | send => simp only [advance, push_answers]
  | complete | fail | rejected | disconnected | drop =>
      simp only [advance, answer]
      rw [Table.lookup_insert_ite, if_neg (ne rfl)]
  | _ => rfl

/-! ## The channel and the answer -/

/-- The sink `n` has answered the call `id`, on the channel as well unless it was
    dropped. -/
def Answered (h : Hub) (conn : ConnectionId) (n : SinkId) (id : Id) (spoke : Prop) : Prop :=
  h.answers.lookup n = some .dropped ∧ h.said conn (Origin.isAnswer n) = [] ∧ ¬ spoke ∨
  ∃ rp, h.answers.lookup n = some (.sent rp) ∧ h.said conn (Origin.isAnswer n) = [rp.json] ∧ rp.Replies id ∧
    rp.kind = .subscription ∧ spoke

/-- How far the sink has answered, by its stage. -/
def Voice (h : Hub) (conn : ConnectionId) (n : SinkId) (id : Id) (spoke : Prop) : Option Stage → Prop
  | some .pending => h.answers.lookup n = none ∧ h.said conn (Origin.isAnswer n) = [] ∧ ¬ spoke
  | some (.responded rp) | some (.rejected rp) =>
      h.answers.lookup n = none ∧ h.said conn (Origin.isAnswer n) = [rp.json] ∧ rp.Replies id ∧
        rp.kind = .subscription ∧ spoke
  | none | some (.completed _) | some .released | some (.accepted _ _ _) => h.Answered conn n id spoke

/-- The sink `n` of a call `id` on a connection, and whether its handler has
    accepted or rejected. -/
structure Tracks (h : Hub) (conn : ConnectionId) (n : SinkId) (id : Id) (spoke : Prop) : Prop where
  old : n < h.next
  own : ∀ {s}, h.subs.lookup n = some s → s.uniqSub.connId = conn ∧ s.id = id
  voice : h.Voice conn n id spoke ((h.subs.lookup n).map Subscription.stage)

variable {id : Id} {spoke : Prop}

/-- Steps of others leave what a sink has said. -/
theorem Tracks.of_ne (tracks : h.Tracks conn n id spoke) (move : Move cfg h a h') (other : a.sink ≠ some n) :
    h'.Tracks conn n id spoke := by
  have subs := move.subs_of_ne tracks.old other
  have answers := move.answers_of_ne other
  have said : h'.said conn (Origin.isAnswer n) = h.said conn (Origin.isAnswer n) := by
    refine move.said conn fun m acts => ?_
    have ne : m ≠ n := fun same => other (same ▸ acts)
    simp [Origin.isAnswer, ne]
  refine ⟨Nat.lt_of_lt_of_le tracks.old move.next_le, ?_, ?_⟩
  · rw [subs]
    exact tracks.own
  · have voice := tracks.voice
    rw [subs]
    unfold Voice Answered at voice ⊢
    rw [answers, said]
    exact voice

/-- A step moves the sink on. -/
theorem Tracks.later (tracks : h.Tracks conn n id spoke) (move : Move cfg h a h') {spoke' : Prop}
    (voice : h'.Voice conn n id spoke' ((h'.subs.lookup n).map Subscription.stage)) : h'.Tracks conn n id spoke' := by
  refine ⟨Nat.lt_of_lt_of_le tracks.old move.next_le, ?_, voice⟩
  intro s' found'
  obtain ⟨s, stage, found, rfl, -⟩ := move.follows tracks.old found'
  have own := tracks.own found
  exact own

/-- The voice of a sink whose stage is known. -/
theorem Tracks.voice_eq (tracks : h.Tracks conn n id spoke) (found : h.subs.lookup n = some s) {stage : Stage}
    (at_ : s.stage = stage) : h.Voice conn n id spoke (some stage) := by
  have voice := tracks.voice
  rwa [found, Option.map_some, at_] at voice

/-- Other messages on the channels. -/
theorem Tracks.push (tracks : h.Tracks conn n id spoke) {conn' : ConnectionId} {origin : Origin} {json : RawText}
    (other : origin.isAnswer n = false) : (h.push conn' origin json).Tracks conn n id spoke := by
  have said : (h.push conn' origin json).said conn (Origin.isAnswer n) = h.said conn (Origin.isAnswer n) := by
    rw [said_push, other]
    simp
  refine ⟨?_, ?_, ?_⟩
  · rw [push_next]
    exact tracks.old
  · rw [push_subs]
    exact tracks.own
  · have voice := tracks.voice
    unfold Voice Answered at voice ⊢
    rw [push_subs, push_answers, said]
    exact voice

/-- `accept` or `reject` puts its response on the open channel. -/
theorem Tracks.speak (tracks : h.Tracks conn n id spoke) (up : h.isOpen conn = true) (found : h.subs.lookup n = some s)
    (stage : s.stage = .pending) {origin : Origin} {rp : MethodResponse} {stage' : Stage}
    (move : Move cfg h a ((h.push s.uniqSub.connId origin rp.json).advance n s stage'))
    (answer : origin.isAnswer n = true) (replies : rp.Replies s.id) (kind : rp.kind = .subscription)
    (speaks : stage' = .responded rp ∨ stage' = .rejected rp) {spoke' : Prop} (spoken : spoke') :
    ((h.push s.uniqSub.connId origin rp.json).advance n s stage').Tracks conn n id spoke' := by
  obtain ⟨own, ownId⟩ := tracks.own found
  obtain ⟨unanswered, silent, -⟩ := tracks.voice_eq found stage
  have unanswered' : ((h.push s.uniqSub.connId origin rp.json).advance n s stage').answers.lookup n = none := by
    simp only [advance, push_answers, unanswered]
  have said' : ((h.push s.uniqSub.connId origin rp.json).advance n s stage').said conn (Origin.isAnswer n) =
      [rp.json] := by
    show (h.push s.uniqSub.connId origin rp.json).said conn _ = _
    rw [said_push, silent, own, up, answer]
    simp
  refine tracks.later move ?_
  rw [advance_push_subs, Table.lookup_insert_ite, if_pos rfl, ← ownId]
  rcases speaks with rfl | rfl <;> exact ⟨unanswered', said', replies, kind, spoken⟩

/-- `accept` or `reject` hands the same response to the call. -/
theorem Tracks.hand (tracks : h.Tracks conn n id spoke) (found : h.subs.lookup n = some s) {rp : MethodResponse}
    (stage : s.stage = .responded rp ∨ s.stage = .rejected rp) {stage' : Stage}
    (move : Move cfg h a ((h.answer n (.sent rp)).advance n s stage'))
    (hands : stage' = .completed rp ∨ stage' = .released) :
    ((h.answer n (.sent rp)).advance n s stage').Tracks conn n id spoke := by
  have voice : h.Voice conn n id spoke (some (.responded rp)) := by
    rcases stage with responded | rejected
    · exact tracks.voice_eq found responded
    · have voice := tracks.voice_eq found rejected
      exact voice
  obtain ⟨-, said, replies, kind, spoken⟩ := voice
  have answered : ((h.answer n (.sent rp)).advance n s stage').Answered conn n id spoke := by
    refine .inr ⟨rp, ?_, said, replies, kind, spoken⟩
    simp only [advance, answer, Table.lookup_insert_ite, if_true]
  refine tracks.later move ?_
  simp only [advance, answer, Table.lookup_insert_ite, if_true, Option.map_some] at answered ⊢
  rcases hands with rfl | rfl <;> exact answered

/-- A pending sink is dropped. -/
theorem Tracks.drop (tracks : h.Tracks conn n id spoke) (found : h.subs.lookup n = some s) (stage : s.stage = .pending)
    (move : Move cfg h a ((h.answer n .dropped).advance n s .released)) :
    ((h.answer n .dropped).advance n s .released).Tracks conn n id spoke := by
  obtain ⟨-, silent, unspoken⟩ := tracks.voice_eq found stage
  refine tracks.later move ?_
  simp only [advance, answer, Table.lookup_insert_ite, if_true, Option.map_some]
  refine .inl ⟨?_, silent, unspoken⟩
  simp only [Table.lookup_insert_ite, if_true]

/-- A sink that has answered moves on. -/
theorem Tracks.move_on (tracks : h.Tracks conn n id spoke) (found : h.subs.lookup n = some s)
    (last : (∃ rp, s.stage = .completed rp) ∨ s.stage = .released ∨
      ∃ handles leaving left, s.stage = .accepted handles leaving left) {stage' : Stage}
    (last' : stage' = .released ∨ ∃ handles leaving left, stage' = .accepted handles leaving left)
    (move : Move cfg h a h') (subs : h'.subs = h.subs.insert n { s with stage := stage' })
    (answers : h'.answers = h.answers) (conns : h'.conns = h.conns) : h'.Tracks conn n id spoke := by
  have answered : h.Answered conn n id spoke := by
    rcases last with ⟨rp, stage⟩ | stage | ⟨handles, leaving, left, stage⟩ <;> exact tracks.voice_eq found stage
  have answered' : h'.Answered conn n id spoke := by
    unfold Answered Hub.said outgoing at answered ⊢
    rw [answers, conns]
    exact answered
  refine tracks.later move ?_
  rw [subs, Table.lookup_insert_ite, if_pos rfl, Option.map_some]
  rcases last' with rfl | ⟨handles, leaving, left, rfl⟩ <;> exact answered'

/-- A sink that has answered ends. -/
theorem Tracks.finish (tracks : h.Tracks conn n id spoke) (found : h.subs.lookup n = some s)
    (last : s.stage = .released ∨ ∃ handles leaving left, s.stage = .accepted handles leaving left)
    (move : Move cfg h a (h.free n s)) : (h.free n s).Tracks conn n id spoke := by
  have answered : h.Answered conn n id spoke := by
    rcases last with stage | ⟨handles, leaving, left, stage⟩ <;> exact tracks.voice_eq found stage
  have said' : (h.free n s).said conn (Origin.isAnswer n) = h.said conn (Origin.isAnswer n) :=
    said_of_outgoing (outgoing_onConn _ _ (by intros; rfl) _) _
  have answered' : (h.free n s).Answered conn n id spoke := by
    unfold Answered at answered ⊢
    rw [said', Hub.free, onConn_answers]
    exact answered
  refine tracks.later move ?_
  have gone : (h.free n s).subs.lookup n = none := by
    simp only [Hub.free, onConn_subs]
    rw [Table.lookup_erase_ite, if_pos rfl]
  rw [gone]
  exact answered'

/-- A step keeps track of a sink as long as its connection is open and its call
    waits. -/
theorem Tracks.of_move (tracks : h.Tracks conn n id spoke) (move : Move cfg h a h') (up : h.isOpen conn = true)
    (waits : a ≠ .acceptFail n) : h'.Tracks conn n id (spoke ∨ a.Speaks n) := by
  by_cases acts : a.sink = some n
  case neg =>
    have quiet : ¬ a.Speaks n := by
      rintro (rfl | ⟨err, rfl⟩) <;> exact acts rfl
    rw [propext (or_iff_left quiet)]
    exact tracks.of_ne move acts
  case pos =>
    have quiet : ((∀ err, a ≠ .rejectSend n err) ∧ a ≠ .acceptSend n) → (spoke ∨ a.Speaks n) = spoke := by
      rintro ⟨rejects, accepts⟩
      refine propext (or_iff_left ?_)
      rintro (same | ⟨err, same⟩)
      · exact accepts same
      · exact rejects err same
    have whole := move
    cases move with
    | connect | close | subscribe | unsubscribe | refuse => cases acts
    | respond found stage =>
        cases acts
        exact tracks.speak up found stage whole (by simp [Origin.isAnswer]) (MethodResponse.replies_response ..) rfl
          (.inl rfl) (.inr (.inl rfl))
    | reject found stage =>
        cases acts
        exact tracks.speak up found stage whole (by simp [Origin.isAnswer]) (MethodResponse.replies_error ..) rfl
          (.inr rfl) (.inr (.inr ⟨_, rfl⟩))
    | disconnected found stage down =>
        cases acts
        rw [(tracks.own found).1, up] at down
        cases down
    | complete found stage =>
        cases acts
        rw [quiet (by simp)]
        exact tracks.hand found (.inl stage) whole (.inl rfl)
    | rejected found stage =>
        cases acts
        rw [quiet (by simp)]
        exact tracks.hand found (.inr stage) whole (.inr rfl)
    | fail => cases acts; exact absurd rfl waits
    | drop found stage =>
        cases acts
        rw [quiet (by simp)]
        exact tracks.drop found stage whole
    | insert found stage =>
        cases acts
        rw [quiet (by simp)]
        exact tracks.move_on found (.inl ⟨_, stage⟩) (.inr ⟨_, _, _, rfl⟩) whole rfl rfl rfl
    | panics found stage =>
        cases acts
        rw [quiet (by simp)]
        exact tracks.move_on found (.inl ⟨_, stage⟩) (.inl rfl) whole rfl rfl rfl
    | clone found stage | checkActive found stage | checkClosed found stage | remove found stage
    | dropShare found stage =>
        cases acts
        rw [quiet (by simp)]
        exact tracks.move_on found (.inr (.inr ⟨_, _, _, stage⟩)) (.inr ⟨_, _, _, rfl⟩) whole rfl rfl rfl
    | release found stage =>
        cases acts
        rw [quiet (by simp)]
        exact tracks.finish found (.inl stage) whole
    | dropLast found stage =>
        cases acts
        rw [quiet (by simp)]
        exact tracks.finish found (.inr ⟨_, _, _, stage⟩) whole
    | unsent =>
        cases acts
        rw [quiet (by simp)]
        exact tracks
    | send =>
        cases acts
        rw [quiet (by simp)]
        exact tracks.push rfl

/-- What has been said on the channel, at any stage. -/
theorem Tracks.heard (tracks : h.Tracks conn n id spoke) :
    h.said conn (Origin.isAnswer n) = [] ∧ ¬ spoke ∨
    ∃ json, h.said conn (Origin.isAnswer n) = [json] ∧ responseId json.value = some id ∧ spoke := by
  have voice := tracks.voice
  unfold Voice at voice
  split at voice
  · exact .inl voice.2
  · exact .inr ⟨_, voice.2.1, voice.2.2.1, voice.2.2.2.2⟩
  · exact .inr ⟨_, voice.2.1, voice.2.2.1, voice.2.2.2.2⟩
  all_goals
    rcases voice with ⟨-, silent, unspoken⟩ | ⟨rp, -, said, replies, -, spoken⟩
    · exact .inl ⟨silent, unspoken⟩
    · exact .inr ⟨rp.json, said, replies, spoken⟩

/-- A sink without an answer is at one of these stages. -/
theorem Tracks.answered (tracks : h.Tracks conn n id spoke) {answer : Answer}
    (given : h.answers.lookup n = some answer) : h.Answered conn n id spoke := by
  have voice := tracks.voice
  unfold Voice at voice
  split at voice
  · cases given.symm.trans voice.1
  · cases given.symm.trans voice.1
  · cases given.symm.trans voice.1
  all_goals exact voice

/-- An answer is given once. -/
theorem Tracks.answers_kept (tracks : h.Tracks conn n id spoke) (move : Move cfg h a h') {answer : Answer}
    (given : h.answers.lookup n = some answer) : h'.answers.lookup n = some answer := by
  have waits : ∀ {s stage}, h.subs.lookup n = some s → s.stage = stage →
      (stage = .pending ∨ ∃ rp, stage = .responded rp ∨ stage = .rejected rp) → False := by
    intro s stage found at_ early
    have voice := tracks.voice_eq found at_
    rcases early with rfl | ⟨rp, rfl | rfl⟩ <;> cases given.symm.trans voice.1
  by_cases acts : a.sink = some n
  · cases move with
    | connect | close | subscribe | unsubscribe | refuse => cases acts
    | respond found stage | reject found stage | disconnected found stage | drop found stage =>
        cases acts
        exact (waits found stage (.inl rfl)).elim
    | complete found stage | fail found stage =>
        cases acts
        exact (waits found stage (.inr ⟨_, .inl rfl⟩)).elim
    | rejected found stage =>
        cases acts
        exact (waits found stage (.inr ⟨_, .inr rfl⟩)).elim
    | release | dropLast =>
        simp only [Hub.free, onConn_answers]
        exact given
    | send =>
        rw [push_answers]
        exact given
    | _ => exact given
  · rw [move.answers_of_ne acts]
    exact given

/-! ## Sinks that are still to come -/

/-- Nothing has been said for a sink that does not exist yet. -/
def Unheard (h : Hub) : Prop :=
  ∀ n, h.next ≤ n → h.answers.lookup n = none ∧ ∀ conn, h.said conn (Origin.isAnswer n) = []

theorem unheard_new : Hub.new.Unheard := fun _ _ => ⟨rfl, fun _ => rfl⟩

/-- An action about a sink finds it. -/
theorem Move.found (move : Move cfg h a h') (acts : a.sink = some n) : ∃ s, h.subs.lookup n = some s := by
  cases move with
  | connect | close | subscribe | unsubscribe | refuse => cases acts
  | respond found | reject found | disconnected found | drop found | complete found | fail found | rejected found
  | release found | dropLast found | send found | unsent found | insert found | panics found | clone found
  | checkActive found | checkClosed found | remove found | dropShare found =>
      cases acts
      exact ⟨_, found⟩

theorem Move.sink_lt (move : Move cfg h a h') (sound : Sound cfg h) (acts : a.sink = some n) : n < h.next := by
  obtain ⟨s, found⟩ := move.found acts
  by_contra late
  cases found.symm.trans (sound.fresh (Nat.le_of_not_lt late))

theorem Unheard.of_move (unheard : h.Unheard) (sound : Sound cfg h) (move : Move cfg h a h') : h'.Unheard := by
  intro n late
  have before : h.next ≤ n := Nat.le_trans move.next_le late
  have other : a.sink ≠ some n := fun acts => Nat.not_lt_of_le before (move.sink_lt sound acts)
  obtain ⟨unanswered, silent⟩ := unheard n before
  refine ⟨(move.answers_of_ne other).trans unanswered, fun conn => ?_⟩
  rw [← silent conn]
  refine move.said conn fun m acts => ?_
  have ne : m ≠ n := fun same => other (same ▸ acts)
  simp [Origin.isAnswer, ne]

theorem Unheard.push (unheard : h.Unheard) {origin : Origin} {json : RawText}
    (other : ∀ n, origin.isAnswer n = false) : (h.push conn origin json).Unheard := by
  intro n late
  rw [push_next] at late
  obtain ⟨unanswered, silent⟩ := unheard n late
  refine ⟨by rw [push_answers, unanswered], fun conn' => ?_⟩
  rw [said_push, other n, silent conn']
  simp

/-- A subscribe call has made its sink. -/
theorem Unheard.tracks (unheard : h.Unheard) (call : SubscribeCall) :
    (h.enlist call).Tracks call.connId h.next call.id False := by
  obtain ⟨unanswered, silent⟩ := unheard h.next (Nat.le_refl _)
  have found : (h.enlist call).subs.lookup h.next = some
      { method := call.method, notif := call.notif, uniqSub := ⟨call.connId, call.subId⟩, id := call.id,
        stage := .pending } := by
    simp only [enlist, onConn_subs, onConn_next, Table.lookup_insert_ite, if_true]
  refine ⟨?_, ?_, ?_⟩
  · simp only [enlist, onConn_next]
    exact Nat.lt_succ_self _
  · intro s found'
    obtain rfl := Option.some.inj (found.symm.trans found')
    exact ⟨rfl, rfl⟩
  · rw [found]
    refine ⟨?_, ?_, not_false⟩
    · simp only [enlist, onConn_answers]
      exact unanswered
    · rw [← silent call.connId]
      exact said_of_outgoing (outgoing_onConn _ _ (by intros; rfl) _) _

/-! ## Connections stay known, and do not open again -/

/-- What was open at the end was open before. -/
def Closes (h h' : Hub) : Prop :=
  ∀ conn c, h.conns.lookup conn = some c → ∃ c', h'.conns.lookup conn = some c' ∧ (c'.isOpen = true → c.isOpen = true)

theorem closes_onConn {change : Conn → Conn} (keeps : ∀ c, (change c).isOpen = true → c.isOpen = true) :
    h.Closes (h.onConn conn change) := by
  intro conn' c found
  rw [lookup_onConn]
  split
  · rename_i same
    subst same
    rw [found, Option.map_some]
    exact ⟨_, rfl, keeps c⟩
  · exact ⟨c, found, fun up => up⟩

theorem closes_push {origin : Origin} {json : RawText} : h.Closes (h.push conn origin json) := by
  refine closes_onConn fun c up => ?_
  unfold Conn.push at up
  split at up <;> exact up

theorem Move.closes (move : Move cfg h a h') : h.Closes h' := by
  cases move with
  | @connect conn' free =>
      intro conn c found
      refine ⟨c, ?_, fun up => up⟩
      rw [Table.lookup_insert_ite, if_neg, found]
      rintro rfl
      cases found.symm.trans free
  | close => exact closes_onConn (by simp)
  | @subscribe call =>
      exact @closes_onConn h call.connId (fun c => { c with permits := c.permits - 1 }) fun _ up => up
  | @release n s | @dropLast n s =>
      exact @closes_onConn { h with subs := h.subs.erase n } s.uniqSub.connId
        (fun c => { c with permits := c.permits + 1 }) fun _ up => up
  | unsubscribe =>
      intro conn c found
      unfold Hub.unsubscribe
      split <;> exact ⟨c, found, fun up => up⟩
  | respond | reject | send => exact closes_push
  | _ => exact fun _ c found => ⟨c, found, fun up => up⟩

theorem Closes.was_open (closes : h.Closes h') {c : Conn} (found : h.conns.lookup conn = some c)
    (up : h'.isOpen conn = true) : h.isOpen conn = true := by
  obtain ⟨c', found', kept⟩ := closes conn c found
  rw [Hub.isOpen, found', Option.any_some] at up
  rw [Hub.isOpen, found, Option.any_some]
  exact kept up

end Hub

end Server

end Jsonrpsee
