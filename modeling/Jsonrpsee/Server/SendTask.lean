import Jsonrpsee.Lib.Run
import Jsonrpsee.Server.WebSocket

/-! # The send task of an encrypted connection

The task takes one message after the other off its channel, encrypts it and hands it
to the socket. `encrypt` may keep a state of its own, so that each call of it is a
function of its own here. When it fails, the policy decides what is sent.
-/

namespace Jsonrpsee

namespace Server

/-- What `encrypt` and `decrypt` do when they are called for the n-th time. -/
abbrev Encryptions := Nat → MessageEncryption

/-- `send_task`, as far as text frames are concerned. -/
structure SendTask where
  /-- The messages that were taken off the channel, with their texts on the socket. -/
  taken : List (RawText × Option String)
  running : Bool

inductive SendAction where
  /-- The next message; does the socket take its frame? -/
  | message (response : RawText) (written : Bool)
  | ping (written : Bool)
  /-- The channel is closed and empty. -/
  | nothingElse
  | stop

namespace SendTask

def new : SendTask := { taken := [], running := true }

/-- The text frames that were handed to `ws_sender`. -/
def frames (s : SendTask) : List String := s.taken.filterMap Prod.snd

def step (encryptions : Encryptions) (policy : MessageCryptoErrorPolicy) (s : SendTask) : SendAction → Option SendTask
  | .message response written =>
      if s.running then
        let text := sendMessage (some (encryptions s.taken.length)) policy response
        some { taken := s.taken ++ [(response, text)], running := text.isSome && written }
      else none
  | .ping written => if s.running then some { s with running := written } else none
  | .nothingElse | .stop => if s.running then some { s with running := false } else none

end SendTask

/-- What is sent in clear instead of a message that cannot be encrypted. -/
def encryptionFailed : RawText := errorText (.borrowed (-32012) "Message encryption failed" none)

/-- A frame is the result of `encrypt`; otherwise `encrypt` has failed, and the policy is
    to send an error. -/
theorem sendMessage_eq_some_iff {encryption : MessageEncryption} {policy : MessageCryptoErrorPolicy}
    {response : RawText} {frame : String} :
    sendMessage (some encryption) policy response = some frame ↔
      encryption.encrypt response.text = some frame ∨
        encryption.encrypt response.text = none ∧ policy = .sendError ∧ frame = encryptionFailed.text := by
  cases encrypted : encryption.encrypt response.text with
  | some text => simp [sendMessage, encrypted]
  | none => cases policy <;> simp [sendMessage, encrypted, encryptionFailed, eq_comm]

/-- Without that policy nothing is sent. -/
theorem sendMessage_eq_none_iff {encryption : MessageEncryption} {policy : MessageCryptoErrorPolicy}
    {response : RawText} :
    sendMessage (some encryption) policy response = none ↔
      encryption.encrypt response.text = none ∧ policy ≠ .sendError := by
  cases encrypted : encryption.encrypt response.text with
  | some text => simp [sendMessage, encrypted]
  | none => cases policy <;> simp [sendMessage, encrypted]

namespace SendTask

variable {encryptions : Encryptions} {policy : MessageCryptoErrorPolicy}

/-- The n-th message was sent with the n-th call; behind one that could not be sent there
    is no other. -/
structure Sent (encryptions : Encryptions) (policy : MessageCryptoErrorPolicy) (s : SendTask) : Prop where
  message : ∀ {n response text}, s.taken[n]? = some (response, text) →
    text = sendMessage (some (encryptions n)) policy response
  last : ∀ {n response}, s.taken[n]? = some (response, none) → s.running = false ∧ n + 1 = s.taken.length

/-- An entry is an old one, or the one that was just appended. -/
theorem getElem?_concat_cases {α : Type} {xs : List α} {x y : α} {n : Nat} (found : (xs ++ [x])[n]? = some y) :
    xs[n]? = some y ∨ n = xs.length ∧ y = x := by
  rcases Nat.lt_or_ge n xs.length with old | new
  · rw [List.getElem?_append_left old] at found
    exact .inl found
  · rw [List.getElem?_append_right new, List.getElem?_singleton] at found
    obtain ⟨first, same⟩ := Option.ite_none_right_eq_some.mp found
    exact .inr ⟨by omega, (Option.some.inj same).symm⟩

theorem sent_step {s s' : SendTask} {a : SendAction} (sent : s.Sent encryptions policy)
    (taken : s.step encryptions policy a = some s') : s'.Sent encryptions policy := by
  have unsent_ends : ∀ {n : Nat} {response : RawText}, s.running = true → s.taken[n]? ≠ some (response, none) := by
    intro n response running found
    rw [(sent.last found).1] at running
    cases running
  cases a with
  | message response written =>
      obtain ⟨running, same⟩ := Option.ite_none_right_eq_some.mp taken
      cases same
      refine ⟨?_, ?_⟩
      · intro n response' text found
        rcases getElem?_concat_cases found with old | ⟨rfl, same⟩
        · exact sent.message old
        · cases same
          rfl
      · intro n response' found
        rcases getElem?_concat_cases found with old | ⟨rfl, same⟩
        · exact absurd old (unsent_ends running)
        · obtain ⟨-, unsent⟩ := Prod.mk.inj same
          exact ⟨by simp only [← unsent, Option.isSome_none, Bool.false_and], by simp⟩
  | ping written =>
      obtain ⟨running, same⟩ := Option.ite_none_right_eq_some.mp taken
      cases same
      exact ⟨sent.message, fun found => absurd found (unsent_ends running)⟩
  | nothingElse | stop =>
      obtain ⟨running, same⟩ := Option.ite_none_right_eq_some.mp taken
      cases same
      exact ⟨sent.message, fun found => absurd found (unsent_ends running)⟩

theorem sent_run {ts : List (Transition SendTask SendAction)} {s : SendTask}
    (run : Run (step encryptions policy) new ts s) : s.Sent encryptions policy := by
  refine run.invariant (Sent encryptions policy) (fun _ => True) (fun _ _ => trivial) ?_ ?_
  · exact ⟨fun found => by simp [new] at found, fun found => by simp [new] at found⟩
  · intro t _ sent taken
    exact sent_step sent taken

end SendTask

/-! ## The send task of a connection -/

namespace WsConn

variable {p : BackgroundTaskParams} {s s' : WsConn}

/-- The task runs as that of the connection does, and hands over the same texts. -/
structure Sends (s : WsConn) (t : SendTask) : Prop where
  handed : (t.taken.filterMap fun entry => entry.2.map fun text => (entry.1, text)) = s.handed
  running : t.running = true ↔ s.sender = .running

/-- A step of the connection is a step of its send task, or none. -/
theorem sends_step {encryption : MessageEncryption} (encrypted : p.messageEncryption = some encryption) {t : SendTask}
    (sends : s.Sends t) {a : WsAction} (taken : step p s a = some s') :
    ∃ us t', Run (SendTask.step (fun _ => encryption) p.serverCfg.messageCryptoErrorPolicy) t us t' ∧ s'.Sends t' := by
  have idle {s' : WsConn} (handed : s'.handed = s.handed) (sender : s'.sender = s.sender) :
      ∃ us t', Run (SendTask.step (fun _ => encryption) p.serverCfg.messageCryptoErrorPolicy) t us t' ∧ s'.Sends t' :=
    ⟨[], t, .nil, by rw [handed, sends.handed], by rw [sender, sends.running]⟩
  cases a with
  | deliver =>
      obtain ⟨running, response, rest, -, ⟨text, sent, rfl⟩ | ⟨unsent, rfl⟩⟩ := deliver_cases taken
      · have runs := sends.running.mpr running
        rw [encrypted] at sent
        refine ⟨_, _, .snoc .nil (show SendTask.step _ _ t (.message response true) = _ from if_pos runs), ?_, ?_⟩
        · simp [sent, sends.handed]
        · simp [sent, running]
      · have runs := sends.running.mpr running
        rw [encrypted] at unsent
        refine ⟨_, _, .snoc .nil (show SendTask.step _ _ t (.message response true) = _ from if_pos runs), ?_, ?_⟩
        · simp [unsent, sends.handed]
        · simp [unsent]
  | sendError =>
      cases move_of_step taken with
      | sendError running =>
          have runs := sends.running.mpr running
          exact ⟨_, _, .snoc .nil (show SendTask.step _ _ t (.ping false) = _ from if_pos runs), sends.handed, by simp⟩
  | stopSending =>
      cases move_of_step taken with
      | stopSending running =>
          have runs := sends.running.mpr running
          exact ⟨_, _, .snoc .nil (show SendTask.step _ _ t .stop = _ from if_pos runs), sends.handed, by simp⟩
  | closeChannel =>
      cases move_of_step taken with
      | closeChannel closing =>
          refine ⟨[], t, .nil, sends.handed, ?_⟩
          rw [sends.running, closing]
          simp
  | serving | incoming | stopped | connectionClosed | pendingCallsDone | disconnect | senderGone =>
      cases move_of_step taken <;> exact idle rfl rfl

/-- Every run of a connection contains a run of its send task. -/
theorem sends_run {encryption : MessageEncryption} (encrypted : p.messageEncryption = some encryption)
    {serving : Serving} {ts : List (Transition WsConn WsAction)} (run : Run (step p) (.new serving) ts s) :
    ∃ us t, Run (SendTask.step (fun _ => encryption) p.serverCfg.messageCryptoErrorPolicy) .new us t ∧ s.Sends t := by
  induction run with
  | nil => exact ⟨[], .new, .nil, rfl, by simp [SendTask.new, new]⟩
  | snoc earlier taken ih =>
      obtain ⟨us, t, before, sends⟩ := ih
      obtain ⟨vs, t', after, sends'⟩ := sends_step encrypted sends taken
      exact ⟨us ++ vs, t', before.trans after, sends'⟩

end WsConn

end Server

end Jsonrpsee
