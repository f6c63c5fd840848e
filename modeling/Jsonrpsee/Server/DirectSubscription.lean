import Jsonrpsee.Server.DirectCall
import Jsonrpsee.Server.Items
import Jsonrpsee.Types.Equality

/-! # Direct subscriptions

`Methods::subscribe` reads the id of the subscription off the response of the direct call
and keeps the receiver of its channel. `Subscription::next` takes one message after the
other off that channel, and what it gives is what has been sent for the subscription.
-/

namespace Jsonrpsee

namespace Server

/-- The errors of direct subscriptions. Of a serde error only the kind is kept. -/
inductive MethodsError where
  | parse
  | jsonRpc (err : ErrorObject)
  deriving Repr

namespace DirectCall

variable {R : Type}

/-- The end of `Methods::subscribe`: the id that the response of the call brings. -/
def subscribe (resp : Json) : Except MethodsError SubscriptionId :=
  match (Response.fromJson resp).map Response.trySuccess with
  | none => .error .parse
  | some (.error err) => .error (.jsonRpc err)
  | some (.ok result) =>
      match SubscriptionId.fromJson result with
      | some subId => .ok subId
      | none => .error .parse

/-- `Subscription::next`, when the message `raw` has been received. -/
def next (decode : RawValue → Option R) (raw : Json) : Option (Except MethodsError (R × SubscriptionId)) :=
  let read := (SubscriptionResponse.fromJson raw).bind fun response =>
    (decode response.params.result).map fun result => (result, response.params.subscription)
  match read with
  | some got => some (.ok got)
  | none =>
      match SubscriptionError.fromJson raw with
      | some _ => none
      | none => some (.error .parse)

end DirectCall

/-! ## What is sent -/

/-- A notification, without the name and the id of its subscription. -/
inductive Note where
  | item (value : RawValue)
  /-- The subscription has failed. -/
  | failure
  deriving Repr, DecidableEq

/-- What the consumer should get of it. -/
def Note.given {R : Type} (decode : RawValue → Option R) (subId : SubscriptionId) :
    Note → Option (Except MethodsError (R × SubscriptionId))
  | .item value =>
      match decode value with
      | some result => some (.ok (result, subId))
      | none => some (.error .parse)
  | .failure => none

/-- What a complete message says. -/
def Note.ofJson (raw : Json) : Note :=
  match SubscriptionResponse.fromJson raw with
  | some response => .item response.params.result
  | none => .failure

def SubscriptionMessage.note : SubscriptionMessage → Note
  | .needsData result => .item result
  | .complete msg => .ofJson msg.value

def SubscriptionCloseResponse.note : SubscriptionCloseResponse → Option Note
  | .none => Option.none
  | .notif msg => some msg.note
  | .notifErr _ => some .failure

/-- The last message is about the subscription of the task. -/
def SubscriptionCloseResponse.Own (subId : SubscriptionId) : SubscriptionCloseResponse → Prop
  | .notif msg => msg.Own subId
  | .none | .notifErr _ => True

namespace DirectCall

variable {R : Type} (decode : RawValue → Option R)

theorem next_result (method : String) (subId : SubscriptionId) (value : Json) :
    next decode (noticeJson method subId "result" value) = (Note.item value).given decode subId := by
  have inner : (Json.obj [("subscription", subId.toJson), ("result", value)]).fields ["subscription", "error"] =
      some [some subId.toJson, none] := by
    simp [Json.fields, List.lookup_cons]
  have unread : SubscriptionError.fromJson (noticeJson method subId "result" value) = none := by
    simp only [SubscriptionError.fromJson, Notification.fromJson, fields_noticeJson, SubscriptionPayloadError.fromJson,
      inner, TwoPointZero.fromJson, Json.asStr, Option.bind_eq_bind, Option.bind_some, Option.bind_none]
  cases decoded : decode value with
  | some result => simp only [next, notice_result, Option.bind_some, decoded, Option.map_some, Note.given]
  | none => simp only [next, notice_result, Option.bind_some, decoded, Option.map_none, unread, Note.given]

theorem next_error (method : String) (subId : SubscriptionId) (value : Json) :
    next decode (noticeJson method subId "error" value) = none := by
  simp only [next, response_of_error, Option.bind_none, notice_error]

/-- A message of the sink is given as it was sent. -/
theorem next_message {msg : SubscriptionMessage} {subId : SubscriptionId} (own : msg.Own subId) (method : String) :
    next decode (subMessageToJson msg subId method).value = msg.note.given decode subId := by
  cases msg with
  | needsData result => exact next_result decode method subId result
  | complete msg =>
      obtain ⟨method, member, value, either, rfl⟩ := own
      show next decode (noticeJson method subId member value) =
        (Note.ofJson (noticeJson method subId member value)).given decode subId
      rcases either with rfl | rfl
      · rw [Note.ofJson, notice_result]
        exact next_result decode method subId value
      · rw [Note.ofJson, response_of_error]
        exact next_error decode method subId value

/-- And so is the last one, if there is one. -/
theorem next_close {response : SubscriptionCloseResponse} {subId : SubscriptionId} (own : response.Own subId)
    {method : String} {json : RawText} (composed : response.json subId method = some json) {note : Note}
    (told : response.note = some note) : next decode json.value = note.given decode subId := by
  cases response with
  | none => cases composed
  | notif msg =>
      cases composed
      cases told
      exact next_message decode own method
  | notifErr err =>
      cases composed
      cases told
      exact next_error decode method subId err

/-- A response has a note exactly if it has a text. -/
theorem note_eq_none_iff {response : SubscriptionCloseResponse} {subId : SubscriptionId} {method : String} :
    response.note = none ↔ response.json subId method = none := by
  cases response with
  | none => exact iff_of_true rfl rfl
  | notif | notifErr => exact iff_of_false (Option.some_ne_none _) (Option.some_ne_none _)

/-! ## What is received -/

/-- What a step sends for the subscription. -/
def sent (t : Transition DirectCall DirectAction) : Option Note :=
  match t.action with
  | .talk (.hub (.send n msg)) =>
      (t.before.talk.hub.subs.lookup n).bind fun s =>
        if t.before.talk.hub.isClosed n s then none else some msg.note
  | .talk (.close n) =>
      (t.before.talk.tasks.lookup n).bind fun task => task.response.bind SubscriptionCloseResponse.note
  | .talk _ | .resolve | .recv => none

/-- Complete messages are about the subscription. -/
structure Honest (subId : SubscriptionId) (t : Transition DirectCall DirectAction) : Prop where
  send : ∀ n msg, t.action = .talk (.hub (.send n msg)) → msg.Own subId
  returns : ∀ n response, t.action = .talk (.returns n response) → response.Own subId

/-- The task of the call is that of the subscription, and returns what is about it. -/
def Keyed (subId : SubscriptionId) (s : DirectCall) : Prop :=
  ∃ task, s.talk.tasks.lookup 0 = some task ∧ task.sub.uniqSub = { connId := 0, subId } ∧
    ∀ response, task.response = some response → response.Own subId

/-- What a step puts on the channel. -/
inductive Adds (subId : SubscriptionId) (t : Transition DirectCall DirectAction) : List (Origin × RawText) → Prop where
  | nothing (silent : sent t = none) : Adds subId t []
  | answer {origin : Origin} {json : RawText} (answers : origin.isAnswer 0 = true) (silent : sent t = none) :
      Adds subId t [(origin, json)]
  | sent {note : Note} {json : RawText} (is : sent t = some note)
      (carries : ∀ {R : Type} (decode : RawValue → Option R), next decode json.value = note.given decode subId) :
      Adds subId t [(.sink 0, json)]

section Steps

variable {registration : Registration} {bufSize : Nat} {id : Id} {s s' : DirectCall} {dropped : Prop}
  {subId : SubscriptionId} {a : DirectAction}

theorem sent_of_silent (other : ∀ n msg, a ≠ .talk (.hub (.send n msg))) (unclosed : ∀ n, a ≠ .talk (.close n)) :
    sent ⟨s, a, s'⟩ = none := by
  unfold sent
  dsimp only
  split
  · exact absurd rfl (other _ _)
  · exact absurd rfl (unclosed _)
  all_goals rfl

/-- The sink of the call is that of its task. -/
theorem Keyed.sub (keyed : Keyed subId s) (gated : Talk.Gated directConfig s.talk) {sub : Subscription}
    (found : s.talk.hub.subs.lookup 0 = some sub) : sub.uniqSub = { connId := 0, subId } := by
  obtain ⟨task, there, key, -⟩ := keyed
  obtain ⟨task', there', same⟩ := gated.spawned found
  obtain rfl := Option.some.inj (there.symm.trans there')
  rw [same]
  exact key

theorem adds_of_hub (inv : Inv bufSize id s dropped) (keyed : Keyed subId s) {b : HubAction}
    (honest : Honest subId ⟨s, .talk (.hub b), s'⟩) (allowed : registration.allows (.hub b) = true) {hub : Hub}
    (moved : Hub.Move directConfig s.talk.hub b hub) :
    ∃ more, hub.outgoing 0 = s.messages ++ more ∧ Adds subId ⟨s, .talk (.hub b), s'⟩ more := by
  have own : ∀ {n}, b.sink = some n → n = 0 := by
    intro n acts
    rcases allows_hub allowed with own | ⟨_, _, _, rfl⟩
    · exact Option.some.inj (acts.symm.trans own)
    · cases acts
  by_cases sends : ∃ n msg, b = .send n msg
  · obtain ⟨n, msg, rfl⟩ := sends
    obtain rfl := own rfl
    cases moved with
    | unsent found closed =>
        refine ⟨[], (List.append_nil _).symm, .nothing ?_⟩
        simp only [sent, found, Option.bind_some, closed, if_true]
    | @send _ sub _ found up =>
        have key := keyed.sub inv.gated found
        refine ⟨_, Hub.outgoing_push .., ?_⟩
        rw [if_pos ⟨(congrArg SubscriptionKey.connId key).symm, by rw [key]; exact inv.up⟩, key]
        refine @Adds.sent _ _ msg.note _ ?_ fun decode => next_message decode (honest.send _ _ rfl) _
        simp only [sent, found, Option.bind_some, up, Bool.false_eq_true, if_false]
  · have silent : sent ⟨s, .talk (.hub b), s'⟩ = none :=
      sent_of_silent (by rintro n msg ⟨⟩; exact sends ⟨_, _, rfl⟩) (by simp)
    rcases moved.outgoing 0 with same | ⟨n, sub, origin, json, acts, -, -, grown, cases⟩
    · exact ⟨[], by rw [same, List.append_nil]; rfl, .nothing silent⟩
    · obtain rfl := own acts
      refine ⟨_, grown, ?_⟩
      rcases cases with ⟨rfl, -⟩ | rfl | ⟨-, -, msg, sent, -⟩
      · exact .answer rfl silent
      · exact .answer rfl silent
      · exact absurd ⟨_, _, sent⟩ sends

theorem adds_of_close (inv : Inv bufSize id s dropped) (keyed : Keyed subId s) {talk : Talk}
    (moved : s.talk.step directConfig (.close 0) = some talk) :
    ∃ more, talk.hub.outgoing 0 = s.messages ++ more ∧ Adds subId ⟨s, .talk (.close 0), s'⟩ more := by
  obtain ⟨task, found, key, own⟩ := keyed
  simp only [Talk.step, found, Option.bind_some, Talk.stepTask] at moved
  split at moved
  · rename_i response returned _ _
    have told : sent ⟨s, .talk (.close 0), s'⟩ = response.note := by
      simp only [sent, found, Option.bind_some, returned]
    split at moved
    · rename_i json composed
      obtain rfl := Option.some.inj moved
      rw [key] at composed
      refine ⟨_, Hub.outgoing_push .., ?_⟩
      rw [if_pos ⟨(congrArg SubscriptionKey.connId key).symm, by rw [key]; exact inv.up⟩]
      have loud : response.note ≠ none := by
        intro silent
        exact Option.some_ne_none _ (composed.symm.trans (note_eq_none_iff.mp silent))
      obtain ⟨note, noted⟩ := Option.ne_none_iff_exists'.mp loud
      exact .sent (told.trans noted) fun decode => next_close decode (own response returned) composed noted
    · rename_i silent
      obtain rfl := Option.some.inj moved
      exact ⟨[], (List.append_nil _).symm, .nothing (told.trans (note_eq_none_iff.mpr silent))⟩
  · cases moved

theorem adds_of_step (inv : Inv bufSize id s dropped) (keyed : Keyed subId s) (honest : Honest subId ⟨s, a, s'⟩)
    (taken : step registration bufSize id s a = some s') :
    ∃ more, s'.messages = s.messages ++ more ∧ Adds subId ⟨s, a, s'⟩ more := by
  cases move_of_step taken with
  | @talk a talk allowed moved fits =>
      cases a with
      | hub b =>
          obtain ⟨-, moved⟩ := Option.ite_none_right_eq_some.mp moved
          obtain ⟨hub, stepped, rfl⟩ := Option.map_eq_some_iff.mp moved
          obtain ⟨more, grown, adds⟩ := adds_of_hub inv keyed honest allowed (Hub.move_of_step stepped)
          exact ⟨more, by rw [messages, Talk.spawn_hub, grown], adds⟩
      | returns n response =>
          cases Talk.move_of_step moved with
          | returns => exact ⟨[], (List.append_nil _).symm, .nothing rfl⟩
      | close n =>
          obtain rfl := own_task allowed
          exact adds_of_close inv keyed moved
      | respond | resume | abandon => cases allowed
  | resolve phase given moved =>
      cases Talk.move_of_step moved with
      | resume => exact ⟨[], (List.append_nil _).symm, .nothing rfl⟩
  | recv => exact ⟨[], (List.append_nil _).symm, .nothing rfl⟩

theorem Keyed.of_task {talk : Talk} (keyed : Keyed subId s) {n : SinkId} {task task' : SubscriptionTask}
    (found : s.talk.tasks.lookup n = some task) (tasks : talk.tasks = s.talk.tasks.insert n task')
    (same : task'.sub = task.sub)
    (own : (∀ response, task.response = some response → response.Own subId) →
      ∀ response, task'.response = some response → response.Own subId) : Keyed subId { s with talk } := by
  obtain ⟨task₀, found₀, key, own₀⟩ := keyed
  by_cases here : n = 0
  · subst here
    obtain rfl := Option.some.inj (found.symm.trans found₀)
    exact ⟨task', by rw [tasks, Finmap.lookup_insert], same ▸ key, own own₀⟩
  · exact ⟨task₀, by rw [tasks, Finmap.lookup_insert_of_ne _ (Ne.symm here), found₀], key, own₀⟩

theorem Keyed.of_step (inv : Inv bufSize id s dropped) (keyed : Keyed subId s) (honest : Honest subId ⟨s, a, s'⟩)
    (taken : step registration bufSize id s a = some s') : Keyed subId s' := by
  cases move_of_step taken with
  | @talk a talk allowed moved fits =>
      cases Talk.move_of_step moved with
      | hub =>
          obtain ⟨task, found, rest⟩ := keyed
          exact ⟨task, inv.gated.lookup_spawn found, rest⟩
      | respond => exact keyed
      | resume found | abandon found | finish found | close found => exact keyed.of_task found rfl rfl fun own => own
      | returns found =>
          refine keyed.of_task found rfl rfl fun _ response returned => ?_
          cases returned
          exact honest.returns _ _ rfl
  | resolve phase given moved =>
      cases Talk.move_of_step moved with
      | resume found => exact keyed.of_task found rfl rfl fun own => own
  | recv => exact keyed

end Steps

section Runs

variable {registration : Registration} {bufSize : Nat} {call : SubscribeCall}
  {ts : List (Transition DirectCall DirectAction)} {s : DirectCall}
  (run : Run (step registration bufSize call.id) (start call) ts s) (honest : ∀ t ∈ ts, Honest call.subId t)

include run honest

end Runs

end DirectCall

end Server

end Jsonrpsee
