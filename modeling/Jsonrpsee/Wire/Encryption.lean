import Jsonrpsee.Client.Handlers
import Jsonrpsee.Server.Decryption

/-! # Encrypted connections, end to end

Both ends of a connection may be given the same encryption. What the server hands to
its socket is the result of `encrypt`, unless its policy is to send an error instead.
What the client takes off the socket is decrypted when it comes in a text frame; a
binary frame is passed on as it is.
-/

namespace Jsonrpsee

open Server (MessageEncryption MessageCryptoErrorPolicy Encryptions Authentic SendAction CryptoConn CryptoAction
  BackgroundTaskParams Serving encryptionFailed)

/-! ## The receiver of the client -/

/-- What `soketto` gives to the client. -/
inductive WsFrame where
  | text (data : List UInt8)
  | binary (data : List UInt8)
  | pong
  | closed
  | failed
  deriving Repr, DecidableEq

def WsFrame.data : WsFrame → List UInt8
  | .text data | .binary data => data
  | .pong | .closed | .failed => []

inductive ReceivedMessage where
  | text (text : String)
  | bytes (raw : List UInt8)
  | pong
  deriving Repr, DecidableEq

/-- What `handle_recv_message` gets of it. -/
def ReceivedMessage.payload : ReceivedMessage → Option (List UInt8)
  | .text s => some s.toByteArray.data.toList
  | .bytes raw => some raw
  | .pong => none

/-- Error that can happen in the receiver. -/
inductive WsError where
  | utf8
  | decryptionFailed
  | connection
  | closed
  deriving Repr, DecidableEq

/-- `Receiver::receive`. -/
def receive (encryption : Option MessageEncryption) : WsFrame → Except WsError ReceivedMessage
  | .text data =>
      match String.fromUTF8? (ByteArray.mk data.toArray) with
      | none => .error .utf8
      | some text =>
          match encryption with
          | none => .ok (.text text)
          | some enc =>
              match enc.decrypt text with
              | some plain => .ok (.text plain)
              | none => .error .decryptionFailed
  | .binary data => .ok (.bytes data)
  | .pong => .ok .pong
  | .closed => .error .closed
  | .failed => .error .connection

/-- The payload of a frame, if it gets that far. -/
def payloadOf (encryption : MessageEncryption) (frame : WsFrame) : Option (List UInt8) :=
  (receive (some encryption) frame).toOption.bind ReceivedMessage.payload

/-- Handle backend messages. `display` is the text of an error of `soketto`. -/
def Backend.handleBackendMessages (serde : SerdeJson) (cfg : Config) (display : WsError → String) (b : Backend) :
    Except WsError ReceivedMessage → Outcome (List FrontToBack) × Backend
  | .ok .pong => (.ok [], b)
  | .ok (.bytes raw) => b.handleRecvMessage serde cfg raw
  | .ok (.text s) => b.handleRecvMessage serde cfg s.toByteArray.data.toList
  | .error e => (.err (.transport (display e)), b)

def Outcome.isOk {τ : Type} : Outcome τ → Bool
  | .ok _ => true
  | .err _ | .panic _ => false

/-- A payload that has reached `handle_recv_message`, and the frame it came in. -/
structure Processed where
  number : Nat
  frame : WsFrame
  payload : List UInt8

/-- `read_task`. -/
structure FrameReader where
  backend : Backend
  running : Bool
  /-- The number of frames so far. -/
  received : Nat
  /-- No step reads it. -/
  processed : List Processed

inductive FrameAction where
  | frame (frame : WsFrame)
  /-- What the rest of the client does with the request manager and the channels. -/
  | environment (backend : Backend)
  /-- The client is closed, or the server was inactive for too long. -/
  | leave

namespace FrameReader

def new (backend : Backend) : FrameReader := { backend, running := true, received := 0, processed := [] }

def step (serde : SerdeJson) (cfg : Config) (display : WsError → String) (encryptions : Encryptions) (s : FrameReader) :
    FrameAction → Option FrameReader
  | .frame frame =>
      if s.running then
        let message := receive (some (encryptions s.received)) frame
        let (outcome, backend) := s.backend.handleBackendMessages serde cfg display message
        let payload := payloadOf (encryptions s.received) frame
        some
          { backend
            running := outcome.isOk
            received := s.received + 1
            processed := s.processed ++
              (payload.map fun payload => { number := s.received, frame, payload : Processed }).toList }
      else none
  | .environment backend => some { s with backend }
  | .leave => some { s with running := false }

end FrameReader

/-! ## What the client processes -/

/-- The frame is a text that `decrypt` gives back as it is. -/
def Unchanged (encryption : MessageEncryption) (raw : List UInt8) : Prop :=
  ∃ text, String.fromUTF8? (ByteArray.mk raw.toArray) = some text ∧ encryption.decrypt text = some text

theorem authentic_self_iff (encryption : MessageEncryption) (raw : List UInt8) :
    Authentic encryption raw raw ↔ Unchanged encryption raw := by
  constructor
  · rintro ⟨text, plain, utf8, decrypted, rfl⟩
    rw [fromUTF8?_toByteArray, Option.some.injEq] at utf8
    subst utf8
    exact ⟨plain, fromUTF8?_toByteArray plain, decrypted⟩
  · rintro ⟨text, utf8, decrypted⟩
    exact ⟨text, text, utf8, decrypted, fromUTF8?_eq_some_iff.mp utf8⟩

/-- A text frame is decrypted. -/
theorem authentic_text {encryption : MessageEncryption} {data payload : List UInt8}
    (given : payloadOf encryption (.text data) = some payload) : Authentic encryption data payload := by
  unfold payloadOf receive at given
  cases utf8 : String.fromUTF8? (ByteArray.mk data.toArray) with
  | none => simp [utf8, Except.toOption] at given
  | some text =>
      cases decrypted : encryption.decrypt text with
      | none => simp [utf8, decrypted, Except.toOption] at given
      | some plain =>
          simp only [utf8, decrypted, Except.toOption, Option.bind_some, ReceivedMessage.payload,
            Option.some.injEq] at given
          exact ⟨text, plain, utf8, decrypted, given.symm⟩

theorem payloadOf_silent {encryption : MessageEncryption} {frame : WsFrame} {payload : List UInt8}
    (given : payloadOf encryption frame = some payload) :
    (∃ data, frame = .text data) ∨ ∃ data, frame = .binary data := by
  cases frame with
  | text data => exact .inl ⟨data, rfl⟩
  | binary data => exact .inr ⟨data, rfl⟩
  | pong => cases given
  | closed => cases given
  | failed => cases given

namespace FrameReader

variable {serde : SerdeJson} {cfg : Config} {display : WsError → String} {encryptions : Encryptions} {s s' : FrameReader}

/-- All payloads that have been processed are authentic. -/
def AllAuthentic (encryptions : Encryptions) (s : FrameReader) : Prop :=
  ∀ m ∈ s.processed, Authentic (encryptions m.number) m.frame.data m.payload

/-- A binary frame is harmless only if it is its own decryption. -/
def Harmless (encryptions : Encryptions) (t : Transition FrameReader FrameAction) : Prop :=
  ∀ raw, t.action = .frame (.binary raw) → Unchanged (encryptions t.before.received) raw

theorem step_processed {a : FrameAction} (taken : step serde cfg display encryptions s a = some s') :
    (s'.processed = s.processed ∧ ∀ frame, a = .frame frame → payloadOf (encryptions s.received) frame = none) ∨
    ∃ frame payload, a = .frame frame ∧ payloadOf (encryptions s.received) frame = some payload ∧
      s'.processed = s.processed ++ [{ number := s.received, frame, payload }] := by
  cases a with
  | environment backend =>
      cases taken
      exact .inl ⟨rfl, fun frame isFrame => nomatch isFrame⟩
  | leave =>
      cases taken
      exact .inl ⟨rfl, fun frame isFrame => nomatch isFrame⟩
  | frame frame =>
      obtain ⟨-, same⟩ := Option.ite_none_right_eq_some.mp taken
      cases same
      cases given : payloadOf (encryptions s.received) frame with
      | none =>
          refine .inl ⟨?_, ?_⟩
          · simp only [Option.map_none, Option.toList_none, List.append_nil]
          · rintro _ ⟨⟩
            exact given
      | some payload =>
          refine .inr ⟨frame, payload, rfl, given, ?_⟩
          simp only [Option.map_some, Option.toList_some]

/-- A frame adds an authentic payload exactly when it is harmless. -/
theorem allAuthentic_step {t : Transition FrameReader FrameAction}
    (taken : step serde cfg display encryptions t.before t.action = some t.after) :
    t.after.AllAuthentic encryptions ↔ t.before.AllAuthentic encryptions ∧ Harmless encryptions t := by
  obtain ⟨before, action, after⟩ := t
  rcases step_processed taken with ⟨same, silent⟩ | ⟨frame, payload, rfl, given, grown⟩
  · have same : after.processed = before.processed := same
    rw [AllAuthentic, same]
    refine (and_iff_left ?_).symm
    intro raw isFrame
    cases silent _ isFrame
  · have grown : after.processed = before.processed ++ [{ number := before.received, frame, payload }] := grown
    have new : after.AllAuthentic encryptions ↔ before.AllAuthentic encryptions ∧
        Authentic (encryptions before.received) frame.data payload := by
      rw [AllAuthentic, grown]
      simp only [List.forall_mem_append, List.forall_mem_singleton]
      rfl
    rw [new]
    refine and_congr_right fun _ => ?_
    rcases payloadOf_silent given with ⟨data, rfl⟩ | ⟨data, rfl⟩
    · exact iff_of_true (authentic_text given) fun raw isFrame => nomatch isFrame
    · cases given
      rw [WsFrame.data, authentic_self_iff]
      constructor
      · rintro unchanged raw ⟨⟩
        exact unchanged
      · intro harmless
        exact harmless _ rfl

theorem allAuthentic_run {backend : Backend} {ts : List (Transition FrameReader FrameAction)}
    (run : Run (step serde cfg display encryptions) (new backend) ts s) :
    s.AllAuthentic encryptions ↔ ∀ t ∈ ts, Harmless encryptions t := by
  induction run with
  | nil => exact iff_of_true (fun m member => nomatch member) (fun t member => nomatch member)
  | @snoc ts s a s' earlier taken ih =>
      have grown := @allAuthentic_step serde cfg display encryptions ⟨s, a, s'⟩ taken
      rw [List.forall_mem_append, List.forall_mem_singleton, ← ih]
      exact grown

end FrameReader

/-- The server processes decrypted payloads only, whatever frames they come in. The client
    does so exactly as long as every binary frame is its own decryption. -/
theorem payloads_authentic_iff (encryptions : Encryptions) :
    (∀ (p : BackgroundTaskParams) (serving : Serving) (ts : List (Transition CryptoConn CryptoAction)) (s : CryptoConn),
      Run (CryptoConn.step p encryptions) (.new serving) ts s →
        ∀ d ∈ s.dispatched, Authentic (encryptions d.number) d.data d.payload) ∧
    (∀ (serde : SerdeJson) (cfg : Config) (display : WsError → String) (backend : Backend)
        (ts : List (Transition FrameReader FrameAction)) (s : FrameReader),
      Run (FrameReader.step serde cfg display encryptions) (.new backend) ts s →
        ((∀ m ∈ s.processed, Authentic (encryptions m.number) m.frame.data m.payload) ↔
          ∀ t ∈ ts, ∀ raw, t.action = .frame (.binary raw) → Unchanged (encryptions t.before.received) raw)) :=
  ⟨fun _ _ _ _ run => CryptoConn.authentic_run run, fun _ _ _ _ _ _ run => FrameReader.allAuthentic_run run⟩

/-- An encryption that can be told from a text in clear. -/
def hashEncryption : MessageEncryption :=
  { encrypt := fun text => some (String.ofList ('#' :: text.toList))
    decrypt := fun text => if text.toList.head? = some '#' then some (String.ofList text.toList.tail) else none }

/-- A notification of the server. -/
def clearMessage : Json := .obj [("jsonrpc", .str "2.0"), ("method", .str "m"), ("params", .null)]

def plainConfig : Config := { maxBufferCapacityPerSubscription := 1, overflowChecks := true }

/-- The notification, encrypted. -/
def hashedFrame : WsFrame := .text (35 :: clearMessage.bytes)

theorem payloads_authentic_text :
    ∃ ts s, Run (FrameReader.step (.only clearMessage) plainConfig (fun _ => "") fun _ => hashEncryption)
        (.new .new) ts s ∧
      ts.map Transition.action = [.frame hashedFrame] ∧ s.processed.length = 1 ∧ s.running = true ∧
      ∀ m ∈ s.processed, Authentic hashEncryption m.frame.data m.payload := by
  obtain ⟨ts, s, run, labels, facts⟩ := Run.reaches
    (FrameReader.step (.only clearMessage) plainConfig (fun _ => "") fun _ => hashEncryption) (.new .new)
    [.frame hashedFrame] (fun s => decide (s.processed.length = 1) && s.running) (by decide +kernel)
  obtain ⟨processed, running⟩ := Bool.and_eq_true_iff.mp facts
  refine ⟨ts, s, run, labels, of_decide_eq_true processed, running, ?_⟩
  refine ((payloads_authentic_iff fun _ => hashEncryption).2 _ _ _ _ ts s run).mpr ?_
  intro t member raw isBinary
  have label : t.action ∈ [FrameAction.frame hashedFrame] := labels ▸ List.mem_map_of_mem member
  rw [isBinary] at label
  cases List.mem_singleton.mp label

/-- A binary frame in clear is processed. -/
theorem clear_binary_frame_is_processed :
    ∃ ts s, Run (FrameReader.step (.only clearMessage) plainConfig (fun _ => "") fun _ => hashEncryption)
        (.new .new) ts s ∧
      ts.map Transition.action = [.frame (.binary clearMessage.bytes)] ∧ s.running = true ∧
      ∃ m ∈ s.processed, m.payload = clearMessage.bytes ∧ ¬ Authentic hashEncryption m.frame.data m.payload := by
  obtain ⟨ts, s, run, labels, facts⟩ := Run.reaches
    (FrameReader.step (.only clearMessage) plainConfig (fun _ => "") fun _ => hashEncryption) (.new .new)
    [.frame (.binary clearMessage.bytes)]
    (fun s => s.running && s.processed.any fun m =>
      decide (m.payload = clearMessage.bytes) && decide (m.frame = .binary clearMessage.bytes)) (by decide +kernel)
  obtain ⟨running, processed⟩ := Bool.and_eq_true_iff.mp facts
  obtain ⟨m, member, facts⟩ := List.any_eq_true.mp processed
  obtain ⟨payload, frame⟩ := Bool.and_eq_true_iff.mp facts
  refine ⟨ts, s, run, labels, running, m, member, of_decide_eq_true payload, ?_⟩
  rw [of_decide_eq_true payload, of_decide_eq_true frame]
  rintro ⟨text, plain, utf8, decrypted, -⟩
  obtain rfl : clearMessage.render = text := Option.some.inj ((fromUTF8?_toByteArray _).symm.trans utf8)
  have refused : hashEncryption.decrypt clearMessage.render = none := by decide +kernel
  cases refused.symm.trans decrypted

/-! ## What the server sends -/

/-- The client decrypts what the server encrypts. -/
def Matches (client : MessageEncryption) (encryptions : Encryptions) : Prop :=
  ∀ n text cipher, (encryptions n).encrypt text = some cipher → client.decrypt cipher = some text

theorem receive_of_matching {client : MessageEncryption} {encryptions : Encryptions} (matching : Matches client encryptions)
    {n : Nat} {text frame : String} (encrypted : (encryptions n).encrypt text = some frame) :
    receive (some client) (.text frame.toByteArray.data.toList) = .ok (.text text) := by
  simp only [receive, fromUTF8?_toByteArray, matching n text frame encrypted]

/-- A text frame of the send task is the result of `encrypt` on a message of the channel, and
    a client that matches reads that message. Only under `SendError`, for a message on which
    `encrypt` fails, an error in clear takes its place. Under the other policies such a
    message is not sent, and it is the last one. -/
theorem text_frames_encrypted {encryptions : Encryptions} {policy : MessageCryptoErrorPolicy}
    {ts : List (Transition Server.SendTask SendAction)} {s : Server.SendTask}
    (run : Run (Server.SendTask.step encryptions policy) .new ts s) :
    (∀ frame ∈ s.frames, ∃ n response, s.taken[n]? = some (response, some frame) ∧
      ((encryptions n).encrypt response.text = some frame ∧
          (∀ client, Matches client encryptions →
            receive (some client) (.text frame.toByteArray.data.toList) = .ok (.text response.text)) ∨
        (encryptions n).encrypt response.text = none ∧ policy = .sendError ∧ frame = encryptionFailed.text)) ∧
    ∀ n response, s.taken[n]? = some (response, none) →
      (encryptions n).encrypt response.text = none ∧ policy ≠ .sendError ∧ s.running = false ∧
        n + 1 = s.taken.length := by
  have sent := Server.SendTask.sent_run run
  constructor
  · intro frame member
    obtain ⟨⟨response, text⟩, taken, rfl⟩ := List.mem_filterMap.mp member
    obtain ⟨n, found⟩ := List.mem_iff_getElem?.mp taken
    refine ⟨n, response, found, ?_⟩
    rcases Server.sendMessage_eq_some_iff.mp (sent.message found).symm with encrypted | failed
    · exact .inl ⟨encrypted, fun client matching => receive_of_matching matching encrypted⟩
    · exact .inr failed
  · intro n response found
    obtain ⟨failed, other⟩ := Server.sendMessage_eq_none_iff.mp (sent.message found).symm
    exact ⟨failed, other, sent.last found⟩

theorem hashEncryption_matches : Matches hashEncryption fun _ => hashEncryption := by
  rintro n text _ ⟨⟩
  simp [hashEncryption]

theorem text_frames_encrypted_hash :
    ∃ ts s, Run (Server.SendTask.step (fun _ => hashEncryption) .sendError) .new ts s ∧
      s.frames = [String.ofList ('#' :: clearMessage.render.toList)] ∧
      ∀ frame ∈ s.frames, ∃ message : String,
        receive (some hashEncryption) (.text frame.toByteArray.data.toList) = .ok (.text message) := by
  obtain ⟨ts, s, run, -, frames⟩ := Run.reaches (Server.SendTask.step (fun _ => hashEncryption) .sendError) .new
    [.message (.ofJson clearMessage) true]
    (fun s => decide (s.frames = [String.ofList ('#' :: clearMessage.render.toList)])) (by decide +kernel)
  refine ⟨ts, s, run, of_decide_eq_true frames, ?_⟩
  intro frame member
  obtain ⟨n, response, -, ⟨-, reads⟩ | ⟨failed, -⟩⟩ := (text_frames_encrypted run).1 frame member
  · exact ⟨response.text, reads hashEncryption hashEncryption_matches⟩
  · cases failed

/-- An encryption whose `encrypt` fails. -/
def brokenEncryption : MessageEncryption := { encrypt := fun _ => none, decrypt := some }

/-- The error that is sent in place of a message is no result of `encrypt`. -/
theorem clear_error_is_sent :
    ∃ ts s, Run (Server.SendTask.step (fun _ => brokenEncryption) .sendError) .new ts s ∧
      s.frames = [encryptionFailed.text] ∧ ∀ text, brokenEncryption.encrypt text ≠ some encryptionFailed.text := by
  obtain ⟨ts, s, run, -, frames⟩ := Run.reaches (Server.SendTask.step (fun _ => brokenEncryption) .sendError) .new
    [.message (.ofJson clearMessage) true] (fun s => decide (s.frames = [encryptionFailed.text])) (by decide +kernel)
  refine ⟨ts, s, run, of_decide_eq_true frames, ?_⟩
  intro text encrypted
  cases encrypted

end Jsonrpsee
