import Jsonrpsee.Server.Senders
import Jsonrpsee.Types.Codec

/-! # The form of what a server spoken

Whatever the tasks and handlers do, every text on the channel of a connection is
a response object that a client can read back, an array of such objects that is
not empty, or the notification of a subscription.
-/

namespace Jsonrpsee

namespace Server

/-- The text is a response object, and its error code is an `i32`. -/
def MethodResponse.Formed (rp : MethodResponse) : Prop := ∃ r : Response, r.Built ∧ rp.json = .ofJson r.toJson

/-- The text of `sub_message_to_json`, of `sub_err_to_json` or of `SubscriptionMessage::new`. -/
def Notice (json : RawText) : Prop :=
  ∃ (method : String) (subId : SubscriptionId) (member : String) (value : Json), (member = "result" ∨ member = "error") ∧
    json = .ofJson (.obj [("jsonrpc", .str "2.0"), ("method", .str method),
      ("params", .obj [("subscription", subId.toJson), (member, value)])])

/-- What a server answers calls with. -/
inductive Spoken : RawText → Prop where
  | response {rp : MethodResponse} (formed : rp.Formed) : Spoken rp.json
  | batch {rps : List MethodResponse} (nonempty : rps ≠ []) (formed : ∀ rp ∈ rps, rp.Formed) : Spoken (arrayOf rps)

/-- Sinks notify, and all others answer. -/
def Origin.Says : Origin → RawText → Prop
  | .sink _, json => Notice json
  | .accept _, json | .reject _, json | .task _, json => Spoken json

theorem Origin.Says.forms {origin : Origin} {json : RawText} (spoken : origin.Says json) :
    (∃ rp : MethodResponse, rp.Formed ∧ json = rp.json) ∨
      (∃ rps, rps ≠ [] ∧ (∀ rp ∈ rps, rp.Formed) ∧ json = arrayOf rps) ∨ Notice json := by
  have answer : Spoken json → (∃ rp : MethodResponse, rp.Formed ∧ json = rp.json) ∨
      (∃ rps, rps ≠ [] ∧ (∀ rp ∈ rps, rp.Formed) ∧ json = arrayOf rps) ∨ Notice json := by
    rintro (⟨formed⟩ | ⟨nonempty, formed⟩)
    · exact .inl ⟨_, formed, rfl⟩
    · exact .inr (.inl ⟨_, nonempty, formed, rfl⟩)
  cases origin with
  | sink n => exact .inr (.inr spoken)
  | accept n | reject n | task t => exact answer spoken

/-- The error that a callback gives back comes from a public constructor. -/
def Result.Built : Result → Prop
  | .payload inner _ => ∀ e, inner = .error e → e.Built
  | .unserializable _ _ => True

/-- A complete message comes from `SubscriptionMessage::new` or from a close response. -/
def SubscriptionMessage.Built : SubscriptionMessage → Prop
  | .complete msg => Notice msg
  | .needsData _ => True

def HubAction.Built : HubAction → Prop
  | .rejectSend _ err => err.Built
  | .send _ msg => msg.Built
  | .connect _ | .close _ | .subscribe _ | .acceptSend _ | .acceptComplete _ | .acceptFail _ | .acceptInsert _
  | .rejectComplete _ | .dropPending _ | .release _ | .clone _ | .dropCheck _ | .dropRemove _ | .dropPermit _
  | .unsubscribe _ _ _ => True

/-- What handlers give is built by the public constructors. -/
def ServingAction.Built : ServingAction → Prop
  | .hub a => a.Built
  | .task _ (.call result _) | .task _ (.resolve result) => result.Built
  | .task _ .joinError | .task _ .resume | .task _ .collect | .task _ .loop | .task _ .send | .task _ .panic
  | .receive _ _ _ => True

/-! ## Responses -/

theorem built_exceeded (message : String) (limit : Nat) {code : Int} (inRange : -2 ^ 31 ≤ code ∧ code < 2 ^ 31) :
    (exceeded code message limit).Built :=
  .borrowed code message _ inRange

namespace MethodResponse

theorem formed_error (id : Id) {err : ErrorObject} (built : err.Built) : (MethodResponse.error id err).Formed := by
  refine ⟨.new (.error err) id, ?_, rfl⟩
  rintro e ⟨⟩
  exact built

theorem formed_ofCode (id : Id) {code : ErrorCode} (inRange : code.InRange) :
    (MethodResponse.error id (.ofCode code)).Formed :=
  formed_error id (.ofCode code inRange)

theorem formed_oversized (id : Id) (limit : Nat) : (oversized id limit).Formed :=
  formed_error id (built_exceeded _ limit (by decide))

theorem formed_response (id : Id) {result : Result} (built : result.Built) (limit : Nat) :
    (MethodResponse.response id result limit).Formed := by
  cases result with
  | payload inner onExit =>
      simp only [response]
      split
      · exact ⟨.new inner id, built, rfl⟩
      · exact formed_oversized id limit
  | unserializable written onExit =>
      simp only [response]
      split
      · exact formed_ofCode id ⟨by decide, by decide⟩
      · exact formed_oversized id limit

end MethodResponse

theorem Subscription.formed_acceptResponse (cfg : ServerConfig) (s : Subscription) : (s.acceptResponse cfg).Formed := by
  refine MethodResponse.formed_response s.id ?_ cfg.maxSinkResponseSize
  rintro e ⟨⟩

theorem subMessageToJson_notice {msg : SubscriptionMessage} (built : msg.Built) (subId : SubscriptionId)
    (method : String) : Notice (subMessageToJson msg subId method) := by
  cases msg with
  | complete msg => exact built
  | needsData result => exact ⟨method, subId, "result", result, .inl rfl, rfl⟩

/-! ## The hub -/

/-- The response that `accept` and `reject` go on with. -/
def Stage.Formed : Stage → Prop
  | .responded rp | .completed rp | .rejected rp => rp.Formed
  | .pending | .released | .accepted _ _ _ => True

structure Hub.Formed (h : Hub) : Prop where
  stages : ∀ {n s}, h.subs.lookup n = some s → s.stage.Formed
  answers : ∀ {n rp}, h.answers.lookup n = some (.sent rp) → rp.Formed
  channels : ∀ {conn message}, message ∈ h.outgoing conn → message.1.Says message.2

namespace Hub.Formed

variable {cfg : ServerConfig} {h h' : Hub}

theorem new : Hub.Formed .new where
  stages found := by cases found
  answers found := by cases found
  channels member := by cases member

/-- Nothing is said and no stage is changed. -/
theorem frame (formed : h.Formed) (subs : h'.subs = h.subs) (answers : h'.answers = h.answers)
    (outgoing : ∀ conn, h'.outgoing conn = h.outgoing conn) : h'.Formed where
  stages found := formed.stages (subs ▸ found)
  answers found := formed.answers (answers ▸ found)
  channels member := formed.channels (outgoing _ ▸ member)

theorem push (formed : h.Formed) {conn : ConnectionId} {origin : Origin} {json : RawText}
    (own : origin.Says json) : (h.push conn origin json).Formed where
  stages found := formed.stages (push_subs h conn origin json ▸ found)
  answers found := formed.answers (push_answers h conn origin json ▸ found)
  channels member := by
    rw [outgoing_push] at member
    rcases List.mem_append.mp member with earlier | last
    · exact formed.channels earlier
    · split at last
      · obtain rfl := List.mem_singleton.mp last
        exact own
      · cases last

theorem advance (formed : h.Formed) (n : SinkId) (s : Subscription) {stage : Stage} (own : stage.Formed) :
    (h.advance n s stage).Formed where
  stages found := by
    simp only [Hub.advance, Table.lookup_insert_ite] at found
    split at found
    · obtain rfl := Option.some.inj found
      exact own
    · exact formed.stages found
  answers := formed.answers
  channels := formed.channels

theorem answer (formed : h.Formed) (n : SinkId) {a : Answer} (own : ∀ rp, a = .sent rp → rp.Formed) :
    (h.answer n a).Formed where
  stages := formed.stages
  answers found := by
    simp only [Hub.answer, Table.lookup_insert_ite] at found
    split at found
    · exact own _ (Option.some.inj found)
    · exact formed.answers found
  channels := formed.channels

theorem free (formed : h.Formed) (n : SinkId) (s : Subscription) : (h.free n s).Formed where
  stages found := by
    simp only [Hub.free, onConn_subs, Table.lookup_erase_ite] at found
    split at found
    · cases found
    · exact formed.stages found
  answers found := formed.answers (by simpa only [Hub.free, onConn_answers] using found)
  channels {conn message} member := by
    have same : (h.free n s).outgoing conn = h.outgoing conn := outgoing_onConn _ _ (by intros; rfl) _
    exact formed.channels (same ▸ member)

theorem enlist (formed : h.Formed) (call : SubscribeCall) : (h.enlist call).Formed where
  stages found := by
    simp only [Hub.enlist, onConn_subs, onConn_next, Table.lookup_insert_ite] at found
    split at found
    · obtain rfl := Option.some.inj found
      trivial
    · exact formed.stages found
  answers found := formed.answers (by simpa only [Hub.enlist, onConn_answers] using found)
  channels member := formed.channels (Task.outgoing_enlist h call _ ▸ member)

theorem of_move (formed : h.Formed) {a : HubAction} (built : a.Built) (move : Move cfg h a h') : h'.Formed := by
  have at_ : ∀ {n s stage}, h.subs.lookup n = some s → s.stage = stage → stage.Formed :=
    fun found stage => stage ▸ formed.stages found
  cases move with
  | @connect conn free =>
      refine formed.frame rfl rfl fun conn' => ?_
      simp only [Hub.outgoing, Table.lookup_insert_ite]
      split
      · rename_i same
        rw [same, free]
        rfl
      · rfl
  | @close conn =>
      exact formed.frame (onConn_subs ..) (onConn_answers ..) (outgoing_onConn _ _ (by intros; rfl))
  | refuse | unsent => exact formed
  | subscribe => exact formed.enlist _
  | @unsubscribe conn method params =>
      refine formed.frame ?_ ?_ (Task.unsubscribe_outgoing h conn method params)
      · unfold Hub.unsubscribe
        split <;> rfl
      · unfold Hub.unsubscribe
        split <;> rfl
  | @respond n s =>
      have own := s.formed_acceptResponse cfg
      have spoken : (Origin.accept n).Says (s.acceptResponse cfg).json := Spoken.response own
      exact (formed.push spoken).advance n s own
  | @reject n s err =>
      have own : (MethodResponse.subscriptionError s.id err).Formed := MethodResponse.formed_error s.id built
      have spoken : (Origin.reject n).Says (MethodResponse.subscriptionError s.id err).json := Spoken.response own
      exact (formed.push spoken).advance n s own
  | @disconnected n s | @fail n s | @drop n s =>
      exact (formed.answer n (by simp)).advance n s trivial
  | @complete n s rp found stage =>
      have own : rp.Formed := at_ found stage
      refine (formed.answer n ?_).advance n s own
      rintro _ ⟨⟩
      exact own
  | @rejected n s rp found stage =>
      have own : rp.Formed := at_ found stage
      refine (formed.answer n ?_).advance n s trivial
      rintro _ ⟨⟩
      exact own
  | @insert n s | @remove n s =>
      refine Hub.Formed.advance (formed.frame ?_ ?_ ?_) n s trivial <;> intros <;> rfl
  | @panics n s | @clone n s | @checkActive n s | @checkClosed n s | @dropShare n s =>
      exact formed.advance n s trivial
  | @release n s | @dropLast n s => exact formed.free n s
  | @send n s msg =>
      have own : Notice (subMessageToJson msg s.uniqSub.subId s.notif) := subMessageToJson_notice built _ _
      exact formed.push own

end Hub.Formed

/-! ## The tasks -/

/-- The errors among some entries come from public constructors. -/
def EntriesBuilt (entries : List Entry) : Prop := ∀ e, .error e ∈ entries → e.err.Built

/-- What a loop has collected. -/
structure Loop.Formed (loop : Loop) : Prop where
  entries : EntriesBuilt loop.entries
  collected : ∃ rps, loop.batchRp.Holds rps ∧ ∀ rp ∈ rps, rp.Formed

def TaskState.Formed : TaskState → Prop
  | .calling _ _ rest | .running _ _ _ rest | .subscribing _ _ _ rest => ∀ loop ∈ rest, loop.Formed
  | .returned rp rest => rp.Formed ∧ ∀ loop ∈ rest, loop.Formed
  | .looping loop => loop.Formed
  | .sending rp _ => (rp.isMethodCall || rp.isBatch) = true → Spoken rp.json
  | .done _ | .panicked => True

theorem Loop.Formed.append {loop : Loop} (formed : loop.Formed) {rp : MethodResponse} (own : rp.Formed) :
    (loop.append rp).Formed := by
  obtain ⟨entries, rps, holds, all⟩ := formed
  simp only [Loop.append]
  split
  · rename_i err batchRp refused
    -- The response that is too big is replaced by an error.
    intro _
    have same : err = .error .null (rejectTooBigBatchResponse loop.batchRp.maxResponseSize) := by
      unfold BatchResponseBuilder.append at refused
      dsimp only at refused
      split at refused <;> cases refused
      rfl
    rw [same]
    exact .response (MethodResponse.formed_error .null (built_exceeded _ _ (by decide)))
  · rename_i batchRp appended
    refine ⟨entries, rps ++ [rp], holds.of_append appended, ?_⟩
    intro other member
    rcases List.mem_append.mp member with earlier | last
    · exact all other earlier
    · obtain rfl := List.mem_singleton.mp last
      exact own

theorem Loop.Formed.turn {loop : Loop} (formed : loop.Formed) : loop.turn.Formed := by
  obtain ⟨entries, rps, holds, all⟩ := formed
  unfold Loop.turn
  split
  · split
    · exact fun loud => by cases loud
    · intro _
      show Spoken loop.batchRp.finish.json
      rw [holds.finish_eq]
      split
      · exact .response (MethodResponse.formed_ofCode .null ⟨by decide, by decide⟩)
      · exact .batch ‹_› all
  · rename_i req extensions rest next
    rintro _ ⟨⟩
    exact ⟨fun e member => entries e (next ▸ List.mem_cons_of_mem _ member), rps, holds, all⟩
  · rename_i n extensions rest next
    exact ⟨fun e member => entries e (next ▸ List.mem_cons_of_mem _ member), rps, holds, all⟩
  · rename_i e rest next
    have later : Loop.Formed { loop with entries := rest } :=
      ⟨fun e member => entries e (next ▸ List.mem_cons_of_mem _ member), rps, holds, all⟩
    exact later.append (MethodResponse.formed_error e.id (entries e (next ▸ List.mem_cons_self)))

namespace Service

variable {service : Service} {h h' : Hub} {t : TaskId} {task task' : Task}

theorem formed_call (hub : h.Formed) {req : Request} {extensions : Extensions} {rest : Option Loop} {result : Result}
    {subId : SubscriptionId} (formed : ∀ loop ∈ rest, loop.Formed) (built : result.Built)
    (called : service.call h task req extensions rest result subId = (h', task')) : h'.Formed ∧ task'.state.Formed := by
  unfold Service.call at called
  dsimp only at called
  split at called
  · cases called
    exact ⟨hub, MethodResponse.formed_ofCode req.id ⟨by decide, by decide⟩, formed⟩
  · cases called
    exact ⟨hub, MethodResponse.formed_response req.id built _, formed⟩
  · cases called
    exact ⟨hub, formed⟩
  · cases called
    exact ⟨hub, formed⟩
  · split at called
    · rename_i admitted
      cases called
      obtain ⟨-, -, rfl⟩ := Task.move_of_subscribe admitted
      exact ⟨hub.enlist _, formed⟩
    · rename_i err refused
      cases called
      have same : err = rejectTooManySubscriptions service.cfg.maxSubscriptionsPerConnection := by
        unfold Hub.subscribe at refused
        split at refused <;> cases refused
        rfl
      rw [same]
      exact ⟨hub, MethodResponse.formed_error req.id (built_exceeded _ _ (by decide)), formed⟩
  · rename_i method _
    cases called
    have own : ∀ value limit, (MethodResponse.response req.id (.payload (.success value) none) limit).Formed := by
      intro value limit
      refine MethodResponse.formed_response req.id ?_ limit
      rintro e ⟨⟩
    have move : Hub.Move service.cfg h (.unsubscribe task.conn method req.params) _ := .unsubscribe
    have plain : HubAction.Built (.unsubscribe task.conn method req.params) := trivial
    refine ⟨hub.of_move plain move, ?_, formed⟩
    split <;> exact own _ _

theorem formed_stepTask (hub : h.Formed) (formed : task.state.Formed) {a : TaskAction}
    (built : (ServingAction.task t a).Built) (taken : service.stepTask h t task a = some (h', task')) :
    h'.Formed ∧ task'.state.Formed := by
  unfold Service.stepTask at taken
  split at taken
  · rename_i state
    rw [state] at formed
    exact formed_call hub formed built (Option.some.inj taken)
  · rename_i state
    cases taken
    rw [state] at formed
    exact ⟨hub, MethodResponse.formed_response _ built _, formed⟩
  · rename_i state
    cases taken
    rw [state] at formed
    exact ⟨hub, MethodResponse.formed_ofCode .null ⟨by decide, by decide⟩, formed⟩
  · rename_i req extensions n rest state
    obtain ⟨answer, given, same⟩ := Option.map_eq_some_iff.mp taken
    cases same
    rw [state] at formed
    refine ⟨hub, ?_, formed⟩
    cases answer with
    | sent rp =>
        have own : rp.Formed := hub.answers given
        exact own
    | dropped => exact MethodResponse.formed_ofCode req.id ⟨by decide, by decide⟩
  · rename_i rp rest state
    rw [state] at formed
    obtain ⟨own, formed⟩ := formed
    split at taken <;> cases taken
    · exact ⟨hub, fun _ => .response own⟩
    · exact ⟨hub, (formed _ rfl).append own⟩
  · rename_i state
    cases taken
    rw [state] at formed
    exact ⟨hub, formed.turn⟩
  · rename_i state
    rw [state] at formed
    split at taken <;> rename_i loud <;> cases taken
    · exact ⟨hub.push (formed loud), trivial⟩
    · exact ⟨hub, trivial⟩
  · split at taken <;> cases taken
    exact ⟨hub, trivial⟩
  · cases taken
    exact ⟨hub, trivial⟩
  · cases taken

/-- What is refused at once, or in a batch, is refused with an error code of the protocol. -/
def FormedMessage : Incoming → Prop
  | .refused rp => rp.Formed
  | .batch entries => EntriesBuilt entries
  | .call _ _ | .notification _ _ => True

theorem inRange_prepareError (serde : SerdeJson) (body : List UInt8) : (prepareError serde body).2.InRange := by
  have parse : ErrorCode.InRange .parseError := ⟨by decide, by decide⟩
  have request : ErrorCode.InRange .invalidRequest := ⟨by decide, by decide⟩
  unfold prepareError
  split
  · split
    · exact request
    · exact parse
  · exact parse

theorem formed_readSingle (serde : SerdeJson) (body : List UInt8) (extensions : Extensions) :
    FormedMessage (readSingle serde body extensions) := by
  have inRange := inRange_prepareError serde body
  cases prepared : prepareError serde body with
  | mk id code =>
      rw [prepared] at inRange
      have refused : FormedMessage (.refused (.error id (.ofCode code))) := MethodResponse.formed_ofCode id inRange
      simp only [readSingle, prepared]
      split
      · split
        · trivial
        · split
          · trivial
          · exact refused
      · exact refused

theorem entriesBuilt_map (extensions : Extensions) (calls : List Json) :
    EntriesBuilt (calls.map (readEntry extensions)) := by
  intro e member
  obtain ⟨call, -, same⟩ := List.mem_map.mp member
  unfold readEntry at same
  split at same
  · cases same
  · split at same <;> cases same
    exact .ofCode _ ⟨by decide, by decide⟩

theorem formed_readBatch (serde : SerdeJson) (body : List UInt8) (maxLen : Option Nat) (extensions : Extensions) :
    FormedMessage (readBatch serde body maxLen extensions) := by
  unfold readBatch
  split
  · split
    · exact MethodResponse.formed_error .null (built_exceeded _ _ (by decide))
    · exact entriesBuilt_map extensions _
  · exact MethodResponse.formed_ofCode .null ⟨by decide, by decide⟩

theorem formed_read (service : Service) (data : List UInt8) (extensions : Extensions) :
    FormedMessage (service.read data extensions) := by
  unfold Service.read
  split
  · unfold readMessage
    split
    · exact formed_readSingle _ _ extensions
    · split
      · exact MethodResponse.formed_error .null (.borrowed _ _ none (by decide))
      · exact formed_readBatch ..
      · exact formed_readBatch ..
  · exact MethodResponse.formed_ofCode .null ⟨by decide, by decide⟩

theorem formed_start (service : Service) {message : Incoming} (formed : FormedMessage message) :
    (service.start message).Formed := by
  cases message with
  | call req extensions => exact fun _ nothing => by cases nothing
  | notification n extensions => exact fun loud => by cases loud
  | batch entries => exact ⟨formed, [], BatchResponseBuilder.holds_newWithLimit _, by simp⟩
  | refused rp => exact fun _ => .response formed

end Service

namespace Serving

variable {service : Service} {w w' : Serving} {ts : List (Transition Serving ServingAction)}

/-- What is on the channels and what the tasks are about to put there. -/
structure Formed (w : Serving) : Prop where
  hub : w.hub.Formed
  tasks : ∀ {t task}, w.tasks.lookup t = some task → task.state.Formed

theorem Formed.of_step (formed : Formed w) {a : ServingAction} (built : a.Built) (taken : w.step service a = some w') :
    Formed w' := by
  cases a with
  | hub a =>
      simp only [step] at taken
      obtain ⟨-, taken⟩ := Option.ite_none_right_eq_some.mp taken
      obtain ⟨hub, moved, rfl⟩ := Option.map_eq_some_iff.mp taken
      exact ⟨formed.hub.of_move built (Hub.move_of_step moved), formed.tasks⟩
  | receive conn data extensions =>
      simp only [step] at taken
      obtain ⟨-, taken⟩ := Option.ite_none_right_eq_some.mp taken
      obtain rfl := Option.some.inj taken
      refine ⟨formed.hub, ?_⟩
      intro t task found
      rw [Table.lookup_insert_ite] at found
      split at found
      · obtain rfl := Option.some.inj found
        exact service.formed_start (service.formed_read data extensions)
      · exact formed.tasks found
  | task t a =>
      obtain ⟨task, found, taken⟩ := Option.bind_eq_some_iff.mp taken
      obtain ⟨⟨hub, task'⟩, moved, rfl⟩ := Option.map_eq_some_iff.mp taken
      obtain ⟨hub, own⟩ := Service.formed_stepTask formed.hub (formed.tasks found) built moved
      refine ⟨hub, ?_⟩
      intro u task₁ found₁
      rw [Table.lookup_insert_ite] at found₁
      split at found₁
      · obtain rfl := Option.some.inj found₁
        exact own
      · exact formed.tasks found₁

theorem formed (run : Run (step service) .new ts w) (built : ∀ t ∈ ts, t.action.Built) : Formed w := by
  refine run.invariant Formed (fun t => t.action.Built) built ⟨.new, fun found => by cases found⟩ ?_
  intro t own before taken
  exact before.of_step own taken

/-- Behind every run whose handlers give what the public constructors build, what a
    sink has put on a channel is a notification, and all else there is a response
    object or an array of them. -/
theorem channels_formed (run : Run (step service) .new ts w) (built : ∀ t ∈ ts, t.action.Built) {conn : ConnectionId}
    {message : Origin × RawText} (member : message ∈ w.hub.outgoing conn) : message.1.Says message.2 :=
  (formed run built).hub.channels member

/-- A batch whose second call is answered, while the handler of the first one goes away. -/
theorem channels_formed_batch :
    ∃ ts w, Run (step hello) .new ts w ∧ ts.map Transition.action = batchRun [.dropPending 0] ∧
      ∃ message ∈ w.hub.outgoing 0, message.1 = .task 0 ∧ message.1.Says message.2 := by
  obtain ⟨ts, w, run, labels, state⟩ := Run.reaches (step hello) .new (batchRun [.dropPending 0])
    (fun w => (w.hub.outgoing 0).any fun message => message.1 = .task 0) (by decide +kernel)
  obtain ⟨message, member, origin⟩ := List.any_eq_true.mp state
  have built : ∀ t ∈ ts, t.action.Built := by
    intro t here
    have listed : t.action ∈ batchRun [.dropPending 0] := labels ▸ List.mem_map_of_mem here
    simp only [batchRun, List.map_cons, List.map_nil, List.cons_append, List.nil_append, List.mem_cons,
      List.not_mem_nil, or_false] at listed
    rcases listed with same | same | same | same | same | same | same | same | same | same | same | same <;> rw [same]
    all_goals first | trivial | (rintro e ⟨⟩)
  exact ⟨ts, w, run, labels, message, member, of_decide_eq_true origin, channels_formed run built member⟩

end Serving

end Server

end Jsonrpsee
