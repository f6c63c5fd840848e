import Jsonrpsee.Duplex.Session
import Jsonrpsee.Lib.Refinement
import Jsonrpsee.Server.SendTask
import Jsonrpsee.Wire.Encryption

/-! # A client and this server, with an encryption between them

The sender of the client encrypts what it puts on the socket, and the task that the
server spawns for it decrypts it; the send task of the server encrypts the messages of
the channel, and the receiver of the client decrypts them. When both ends agree, nothing
of this is seen: the runs are those of a connection in clear. As there, the connection is
not closed, and every text on the socket is within the size that its receiver takes.
-/

namespace Jsonrpsee

open Server (Serving ServingAction MessageEncryption MessageCryptoErrorPolicy Encryptions Extensions Origin decryptData
  encryptionFailed)

/-- `Sender::send`: the text for the socket. Both of its own errors are `MessageTooLarge`. -/
def Sender.send (encryption : Option MessageEncryption) (maxRequestSize : Nat) (body : String) : Option String :=
  let body :=
    match encryption with
    | some enc => enc.encrypt body
    | none => some body
  body.bind fun body => if body.utf8ByteSize > maxRequestSize then none else some body

/-- Both ends of the connection, with the encryption of each. -/
structure SecuredLink where
  link : Link
  client : Encryptions
  /-- `max_request_size` of the client. -/
  maxRequestSize : Nat
  server : Encryptions
  policy : MessageCryptoErrorPolicy

structure SecuredDuplex where
  client : Client
  /-- `send_task` of the client runs. -/
  sending : Bool
  /-- `read_task` of the client runs. -/
  reading : Bool
  serving : Serving
  /-- `send_task` of the server. -/
  sender : Server.SendTask
  /-- What the client has put on the socket. -/
  wire : List String
  /-- How many of these texts have reached the server. -/
  arrived : Nat
  /-- How many texts of the server the client has decrypted. -/
  read : Nat
  /-- What was given to the sender of the client. No step reads it. -/
  frames : List Json

inductive SecuredAction where
  | client (a : ClientAction)
  | server (a : ServingAction)
  /-- The server receives the next text, and its task is the one that calls `decrypt`
      for the n-th time. -/
  | up (call : Nat) (extensions : Extensions)
  /-- The send task of the server takes the next message off the channel. -/
  | deliver
  /-- The client receives the next text. -/
  | down

namespace SecuredLink

variable (link : SecuredLink)

def new : SecuredDuplex :=
  { client := link.link.new.client
    sending := true
    reading := true
    serving := link.link.new.serving
    sender := .new
    wire := []
    arrived := 0
    read := 0
    frames := [] }

/-- The messages of the server for this client. -/
def messages (s : SecuredDuplex) : List (Origin × RawText) := s.serving.hub.outgoing link.link.conn

/-- The sender is called for one frame after the other, from the n-th call of `encrypt` on,
    until it fails. -/
def sendAll (n : Nat) : List Json → List String × Bool
  | [] => ([], true)
  | frame :: rest =>
      match Sender.send (some (link.client n)) link.maxRequestSize frame.render with
      | none => ([], false)
      | some text =>
          let (texts, sent) := sendAll (n + 1) rest
          (text :: texts, sent)

/-- Only the receiver receives, and only `send_task` sends. -/
def isBlocked (s : SecuredDuplex) : ClientAction → Bool
  | .receive _ => true
  | .send _ => !s.sending
  | _ => false

def step (s : SecuredDuplex) : SecuredAction → Option SecuredDuplex
  | .client a =>
      if isBlocked s a then none
      else
        (s.client.step link.link.serde link.link.cfg a).map fun client =>
          let frames := s.client.frames link.link.cfg a
          let (texts, sent) := link.sendAll s.wire.length frames
          { s with client, frames := s.frames ++ frames, wire := s.wire ++ texts, sending := s.sending && sent }
  | .server a =>
      if link.link.isForged a then none
      else (s.serving.step link.link.service a).map fun serving => { s with serving }
  | .up call extensions =>
      s.wire[s.arrived]?.bind fun text =>
        match decryptData (some (link.server call)) link.policy text.toByteArray.data.toList with
        | .data bytes =>
            (s.serving.step link.link.service (.receive link.link.conn bytes extensions)).map fun serving =>
              { s with serving, arrived := s.arrived + 1 }
        | .refused rp =>
            some { s with
              serving := s.serving.spawn link.link.service link.link.conn (.refused rp)
              arrived := s.arrived + 1 }
        | .skipped => some { s with arrived := s.arrived + 1 }
  | .deliver =>
      (link.messages s)[s.sender.taken.length]?.bind fun message =>
        (s.sender.step link.server link.policy (.message message.2 true)).map fun sender => { s with sender }
  | .down =>
      if s.reading then
        s.sender.frames[s.read]?.bind fun text =>
          match receive (some (link.client s.read)) (.text text.toByteArray.data.toList) with
          | .ok message =>
              message.payload.bind fun payload =>
                (s.client.step link.link.serde link.link.cfg (.receive payload)).map fun client =>
                  { s with client, read := s.read + 1 }
          | .error _ => some { s with reading := false }
      else none

/-- Each end decrypts what the other has encrypted. The texts of the server come in the order
    of its calls; the tasks of the server may decrypt in any order. The client takes the error
    in clear for no text of the server's. -/
structure Agrees (link : SecuredLink) : Prop where
  up : ∀ n m text cipher, (link.client n).encrypt text = some cipher → (link.server m).decrypt cipher = some text
  down : ∀ n text cipher, (link.server n).encrypt text = some cipher → (link.client n).decrypt cipher = some text
  refuses : link.policy = .sendError → ∀ n, (link.client n).decrypt encryptionFailed.text = none

/-- The frames behind a call of the sender. -/
theorem sendAll_spec (n : Nat) (frames : List Json) {texts : List String} {sent : Bool}
    (given : link.sendAll n frames = (texts, sent)) :
    (∀ {i text}, texts[i]? = some text → ∃ frame, frames[i]? = some frame ∧
      Sender.send (some (link.client (n + i))) link.maxRequestSize frame.render = some text) ∧
    (sent = true → texts.length = frames.length) ∧
    (sent = false → ∃ frame, frames[texts.length]? = some frame ∧
      Sender.send (some (link.client (n + texts.length))) link.maxRequestSize frame.render = none) := by
  induction frames generalizing n texts sent with
  | nil =>
      cases given
      simp
  | cons frame rest ih =>
      simp only [sendAll] at given
      split at given
      · rename_i failed
        cases given
        exact ⟨by simp, by simp, fun _ => ⟨frame, rfl, failed⟩⟩
      · rename_i text here
        generalize later : link.sendAll (n + 1) rest = result at given
        obtain ⟨more, sentMore⟩ := result
        cases given
        obtain ⟨each, whole, stopped⟩ := ih (n + 1) later
        have shift : ∀ i, n + (i + 1) = n + 1 + i := fun i => by omega
        refine ⟨?_, ?_, ?_⟩
        · intro i text' found
          cases i with
          | zero =>
              obtain rfl := Option.some.inj found
              exact ⟨frame, rfl, here⟩
          | succ i =>
              rw [List.getElem?_cons_succ] at found ⊢
              rw [shift]
              exact each found
        · intro all
          rw [List.length_cons, List.length_cons, whole all]
        · intro failed
          obtain ⟨frame', found, unsent⟩ := stopped failed
          rw [List.length_cons, List.getElem?_cons_succ, shift]
          exact ⟨frame', found, unsent⟩

end SecuredLink

theorem getElem?_grown {α : Type} {xs ys : List α} (grows : xs <+: ys) {n : Nat} {x : α} (found : xs[n]? = some x) :
    ys[n]? = some x := by
  obtain ⟨inside, rfl⟩ := List.getElem?_eq_some_iff.mp found
  exact List.prefix_iff_getElem?.mp grows n inside

/-- What stands in the n-th place when only the last one may be missing. -/
theorem getElem?_filterMap_snd {α β : Type} {xs : List (α × Option β)}
    (last : ∀ {n a}, xs[n]? = some (a, none) → n + 1 = xs.length) {n : Nat} {b : β}
    (found : (xs.filterMap Prod.snd)[n]? = some b) : ∃ a, xs[n]? = some (a, some b) := by
  induction xs generalizing n with
  | nil => cases found
  | cons x rest ih =>
      obtain ⟨a, o⟩ := x
      cases o with
      | none =>
          have alone := last (n := 0) rfl
          rw [List.length_cons, Nat.add_right_cancel_iff] at alone
          obtain rfl := List.eq_nil_of_length_eq_zero alone.symm
          cases found
      | some b' =>
          cases n with
          | zero =>
              obtain rfl := Option.some.inj found
              exact ⟨a, rfl⟩
          | succ n =>
              have later : ∀ {n a}, rest[n]? = some (a, none) → n + 1 = rest.length := by
                intro n a found
                have behind := last (n := n + 1) found
                rwa [List.length_cons, Nat.add_right_cancel_iff] at behind
              exact ih later found


/-! ## What is seen of it -/

theorem Sender.encrypt_of_send {encryption : MessageEncryption} {maxRequestSize : Nat} {body text : String}
    (sent : Sender.send (some encryption) maxRequestSize body = some text) : encryption.encrypt body = some text := by
  obtain ⟨text', encrypted, taken⟩ := Option.bind_eq_some_iff.mp sent
  split at taken
  · cases taken
  · obtain rfl := Option.some.inj taken
    exact encrypted

theorem decryptData_of_decrypt {encryption : MessageEncryption} {policy : MessageCryptoErrorPolicy}
    {cipher text : String} (decrypts : encryption.decrypt cipher = some text) :
    decryptData (some encryption) policy cipher.toByteArray.data.toList = .data text.toByteArray.data.toList := by
  simp only [decryptData, fromUTF8?_toByteArray, decrypts]

theorem receive_of_decrypt {encryption : MessageEncryption} {cipher text : String}
    (decrypts : encryption.decrypt cipher = some text) :
    receive (some encryption) (.text cipher.toByteArray.data.toList) = .ok (.text text) := by
  simp only [receive, fromUTF8?_toByteArray, decrypts]

theorem receive_of_refused {encryption : MessageEncryption} {cipher : String}
    (refused : encryption.decrypt cipher = none) :
    receive (some encryption) (.text cipher.toByteArray.data.toList) = .error .decryptionFailed := by
  simp only [receive, fromUTF8?_toByteArray, refused]

namespace SecuredLink

variable {link : SecuredLink} {s s' : SecuredDuplex}

/-- What stands on the wire, and why a task has ended. -/
structure Holds (link : SecuredLink) (s : SecuredDuplex) : Prop where
  wire : ∀ {n : Nat} {text : String}, s.wire[n]? = some text → ∃ frame, s.frames[n]? = some frame ∧
    Sender.send (some (link.client n)) link.maxRequestSize frame.render = some text
  whole : s.sending = true → s.wire.length = s.frames.length
  unsent : s.sending = false → ∃ frame, s.frames[s.wire.length]? = some frame ∧
    Sender.send (some (link.client s.wire.length)) link.maxRequestSize frame.render = none
  sent : s.sender.Sent link.server link.policy
  taken : ∀ {n : Nat} {response : RawText} {text : Option String}, s.sender.taken[n]? = some (response, text) →
    ∃ origin, (link.messages s)[n]? = some (origin, response)
  stopped : s.reading = false → link.policy = .sendError ∧ ∃ message, (link.messages s)[s.read]? = some message ∧
    (link.server s.read).encrypt message.2.text = none

/-- What a step can do when both ends agree. -/
inductive Move (link : SecuredLink) (s : SecuredDuplex) : SecuredAction → SecuredDuplex → Prop where
  | client {a : ClientAction} {client : Client} {texts : List String} {sent : Bool} (open_ : isBlocked s a = false)
      (moved : s.client.step link.link.serde link.link.cfg a = some client)
      (given : link.sendAll s.wire.length (s.client.frames link.link.cfg a) = (texts, sent)) :
      Move link s (.client a)
        { s with
          client
          frames := s.frames ++ s.client.frames link.link.cfg a
          wire := s.wire ++ texts
          sending := s.sending && sent }
  | server {a : ServingAction} {serving : Serving} (genuine : link.link.isForged a = false)
      (moved : s.serving.step link.link.service a = some serving) : Move link s (.server a) { s with serving }
  | up {call : Nat} {extensions : Extensions} {frame : Json} {serving : Serving}
      (next : s.frames[s.arrived]? = some frame)
      (moved : s.serving.step link.link.service (.receive link.link.conn frame.bytes extensions) = some serving) :
      Move link s (.up call extensions) { s with serving, arrived := s.arrived + 1 }
  | deliver {message : Origin × RawText} {sender : Server.SendTask}
      (next : (link.messages s)[s.sender.taken.length]? = some message)
      (moved : s.sender.step link.server link.policy (.message message.2 true) = some sender) :
      Move link s .deliver { s with sender }
  | down {message : Origin × RawText} {client : Client} (running : s.reading = true)
      (next : (link.messages s)[s.read]? = some message)
      (moved : s.client.step link.link.serde link.link.cfg (.receive message.2.bytes) = some client) :
      Move link s .down { s with client, read := s.read + 1 }
  | refuse {message : Origin × RawText} (next : (link.messages s)[s.read]? = some message)
      (failed : (link.server s.read).encrypt message.2.text = none) (policy : link.policy = .sendError) :
      Move link s .down { s with reading := false }

theorem move_of_step (agrees : link.Agrees) (holds : link.Holds s) {a : SecuredAction}
    (taken : link.step s a = some s') : link.Move s a s' := by
  cases a with
  | client a =>
      simp only [step] at taken
      split at taken
      · cases taken
      · rename_i open_
        obtain ⟨client, moved, rfl⟩ := Option.map_eq_some_iff.mp taken
        exact .client (Bool.eq_false_of_not_eq_true open_) moved rfl
  | server a =>
      simp only [step] at taken
      split at taken
      · cases taken
      · rename_i genuine
        obtain ⟨serving, moved, rfl⟩ := Option.map_eq_some_iff.mp taken
        exact .server (Bool.eq_false_of_not_eq_true genuine) moved
  | up call extensions =>
      obtain ⟨text, found, taken⟩ := Option.bind_eq_some_iff.mp taken
      obtain ⟨frame, next, sent⟩ := holds.wire found
      -- The text is a frame of the client's, and its task decrypts it.
      have decrypts := agrees.up _ call _ _ (Sender.encrypt_of_send sent)
      simp only [decryptData_of_decrypt decrypts] at taken
      obtain ⟨serving, moved, rfl⟩ := Option.map_eq_some_iff.mp taken
      exact .up next moved
  | deliver =>
      obtain ⟨message, next, taken⟩ := Option.bind_eq_some_iff.mp taken
      obtain ⟨sender, moved, rfl⟩ := Option.map_eq_some_iff.mp taken
      exact .deliver next moved
  | down =>
      obtain ⟨running, taken⟩ := Option.ite_none_right_eq_some.mp taken
      obtain ⟨text, found, taken⟩ := Option.bind_eq_some_iff.mp taken
      obtain ⟨response, entry⟩ := getElem?_filterMap_snd (fun unsent => (holds.sent.last unsent).2) found
      obtain ⟨origin, next⟩ := holds.taken entry
      rcases Server.sendMessage_eq_some_iff.mp (holds.sent.message entry).symm with encrypted | ⟨failed, policy, rfl⟩
      · simp only [receive_of_decrypt (agrees.down _ _ _ encrypted)] at taken
        obtain ⟨payload, ⟨⟩, taken⟩ := Option.bind_eq_some_iff.mp taken
        obtain ⟨client, moved, rfl⟩ := Option.map_eq_some_iff.mp taken
        exact .down running next moved
      · simp only [receive_of_refused (agrees.refuses policy _)] at taken
        obtain rfl := Option.some.inj taken
        exact .refuse next failed policy

theorem holds_new (link : SecuredLink) : link.Holds link.new where
  wire found := by cases found
  whole _ := rfl
  unsent sending := by cases sending
  sent :=
    { message := fun found => by cases found
      last := fun found => by cases found }
  taken found := by cases found
  stopped reading := by cases reading

/-- The client gives more to its sender. -/
theorem Holds.of_client (holds : link.Holds s) {a : ClientAction} (open_ : isBlocked s a = false) (client : Client)
    {texts : List String} {sent : Bool}
    (given : link.sendAll s.wire.length (s.client.frames link.link.cfg a) = (texts, sent)) :
    link.Holds { s with
      client
      frames := s.frames ++ s.client.frames link.link.cfg a
      wire := s.wire ++ texts
      sending := s.sending && sent } := by
  cases sending : s.sending with
  | false =>
      have silent : s.client.frames link.link.cfg a = [] := by
        refine Client.frames_of_silent ?_
        rintro position rfl
        simp [isBlocked, sending] at open_
      rw [silent] at given
      cases given
      rw [silent, List.append_nil, List.append_nil, Bool.false_and]
      exact ⟨holds.wire, by simp, fun _ => holds.unsent sending, holds.sent, holds.taken, holds.stopped⟩
  | true =>
      have whole := holds.whole sending
      obtain ⟨each, all, failed⟩ := link.sendAll_spec _ _ given
      refine ⟨?_, ?_, ?_, holds.sent, holds.taken, holds.stopped⟩
      · intro n text found
        rcases Nat.lt_or_ge n s.wire.length with old | new
        · rw [List.getElem?_append_left old] at found
          rw [List.getElem?_append_left (whole ▸ old)]
          exact holds.wire found
        · rw [List.getElem?_append_right new] at found
          rw [List.getElem?_append_right (whole ▸ new), ← whole]
          have here := each found
          rwa [Nat.add_sub_cancel' new] at here
      · intro still
        rw [List.length_append, List.length_append, whole, all still]
      · intro ended
        obtain ⟨frame, found, unsent⟩ := failed ended
        refine ⟨frame, ?_, ?_⟩
        · rw [List.length_append, whole, List.getElem?_append_right (Nat.le_add_right _ _), Nat.add_sub_cancel_left]
          exact found
        · rw [List.length_append]
          exact unsent

/-- Messages of the server stay where they are. -/
theorem Holds.of_serving (holds : link.Holds s) {serving : Serving} (arrived : Nat)
    (grows : s.serving.hub.outgoing link.link.conn <+: serving.hub.outgoing link.link.conn) :
    link.Holds { s with serving, arrived } := by
  refine ⟨holds.wire, holds.whole, holds.unsent, holds.sent, ?_, ?_⟩
  · intro n response text found
    obtain ⟨origin, there⟩ := holds.taken found
    exact ⟨origin, getElem?_grown grows there⟩
  · intro reading
    obtain ⟨policy, message, there, failed⟩ := holds.stopped reading
    exact ⟨policy, message, getElem?_grown grows there, failed⟩

/-- The next message of the channel is the next entry of the send task. -/
theorem Holds.of_deliver (holds : link.Holds s) {message : Origin × RawText} {sender : Server.SendTask}
    (next : (link.messages s)[s.sender.taken.length]? = some message)
    (moved : s.sender.step link.server link.policy (.message message.2 true) = some sender) :
    link.Holds { s with sender } := by
  have sent := Server.SendTask.sent_step holds.sent moved
  obtain ⟨-, moved⟩ := Option.ite_none_right_eq_some.mp moved
  obtain rfl := Option.some.inj moved
  refine ⟨holds.wire, holds.whole, holds.unsent, sent, ?_, holds.stopped⟩
  intro n response text found
  rcases Server.SendTask.getElem?_concat_cases found with old | ⟨rfl, same⟩
  · exact holds.taken old
  · cases same
    exact ⟨message.1, next⟩

theorem Holds.of_step (holds : link.Holds s) (agrees : link.Agrees) {a : SecuredAction}
    (taken : link.step s a = some s') : link.Holds s' := by
  cases move_of_step agrees holds taken with
  | client open_ moved given => exact holds.of_client open_ _ given
  | server genuine moved => exact holds.of_serving _ (Server.Serving.outgoing_prefix moved)
  | up next moved => exact holds.of_serving _ (Server.Serving.outgoing_prefix moved)
  | deliver next moved => exact holds.of_deliver next moved
  | @down message client running next moved =>
      refine ⟨holds.wire, holds.whole, holds.unsent, holds.sent, holds.taken, ?_⟩
      intro reading
      cases running.symm.trans reading
  | refuse next failed policy =>
      exact ⟨holds.wire, holds.whole, holds.unsent, holds.sent, holds.taken, fun _ => ⟨policy, _, next, failed⟩⟩

/-- What is seen of an action: all but the send task of the server, and the receiver when
    it fails. -/
def label (t : Transition SecuredDuplex SecuredAction) : Option DuplexAction :=
  match t.action with
  | .client a => some (.client a)
  | .server a => some (.server a)
  | .up _ extensions => some (.up extensions)
  | .deliver => none
  | .down => if t.after.reading then some .down else none

end SecuredLink

/-- The connection, as if it were in clear. -/
def SecuredDuplex.plain (s : SecuredDuplex) : Duplex :=
  { client := s.client, serving := s.serving, frames := s.frames, arrived := s.arrived, read := s.read }

namespace SecuredLink

variable {link : SecuredLink} {s s' : SecuredDuplex}

theorem seen_of_step (agrees : link.Agrees) (holds : link.Holds s) {a : SecuredAction}
    (taken : link.step s a = some s') : SeenAs link.link.step s.plain s'.plain (label ⟨s, a, s'⟩) := by
  cases move_of_step agrees holds taken with
  | @client a client texts sent open_ moved given =>
      have front : ∀ raw, a ≠ .receive raw := by
        rintro raw rfl
        cases open_
      exact link.link.step_of_move (.client front moved)
  | server genuine moved => exact link.link.step_of_move (.server genuine moved)
  | up next moved => exact link.link.step_of_move (.up next moved)
  | deliver next moved => exact .refl _
  | down running next moved =>
      simp only [label, running, if_true]
      exact link.link.step_of_move (.down next moved)
  | refuse next failed policy => exact .refl _

def refinement (agrees : link.Agrees) : Refinement link.step link.new link.link.step where
  view := SecuredDuplex.plain
  label := label
  inv := link.Holds
  initial := holds_new link
  keeps holds taken := holds.of_step agrees taken
  seen holds taken := seen_of_step agrees holds taken

/-- A frame that has been sent was fit for it. -/
theorem Holds.sending_iff (holds : link.Holds s) : s.sending = false ↔ ∃ n frame, s.frames[n]? = some frame ∧
    Sender.send (some (link.client n)) link.maxRequestSize frame.render = none := by
  constructor
  · intro sending
    obtain ⟨frame, found, unsent⟩ := holds.unsent sending
    exact ⟨_, frame, found, unsent⟩
  · rintro ⟨n, frame, found, unsent⟩
    by_contra sending
    have whole := holds.whole (Bool.eq_true_of_not_eq_false sending)
    have inside : n < s.wire.length := whole ▸ (List.getElem?_eq_some_iff.mp found).1
    obtain ⟨frame', found', sent⟩ := holds.wire (List.getElem?_eq_getElem inside)
    obtain rfl := Option.some.inj (found.symm.trans found')
    cases unsent.symm.trans sent

/-- A connection whose ends agree on an encryption is seen as one in clear. The client puts
    nothing in clear on the socket; it stops sending exactly when a frame cannot be encrypted
    or is too large then, and it stops reading only when the server has told it, in clear,
    that a message could not be encrypted. -/
theorem encryption_unseen {ts : List (Transition SecuredDuplex SecuredAction)} (run : Run link.step link.new ts s)
    (agrees : link.Agrees) :
    Run link.link.step link.link.new (ts.filterMap (refinement agrees).transition) s.plain ∧
    (∀ n text, s.wire[n]? = some text → ∃ frame, s.frames[n]? = some frame ∧
      (link.client n).encrypt frame.render = some text) ∧
    (s.sending = false ↔ ∃ n frame, s.frames[n]? = some frame ∧
      Sender.send (some (link.client n)) link.maxRequestSize frame.render = none) ∧
    (s.reading = false → link.policy = .sendError ∧ ∃ message, (link.messages s)[s.read]? = some message ∧
      (link.server s.read).encrypt message.2.text = none) := by
  have holds := (refinement agrees).inv_run run
  refine ⟨(refinement agrees).run run, ?_, holds.sending_iff, holds.stopped⟩
  intro n text found
  obtain ⟨frame, given, sent⟩ := holds.wire found
  exact ⟨frame, given, Sender.encrypt_of_send sent⟩

/-- The client and the server of `helloLink`, with an encryption between them. -/
def helloSecured : SecuredLink where
  link := Duplex.helloLink Duplex.helloRequest.toJson Duplex.helloAnswer.toJson
  client _ := hashEncryption
  maxRequestSize := 200
  server _ := hashEncryption
  policy := .sendError

theorem helloSecured_agrees : helloSecured.Agrees where
  up n _ text cipher encrypted := hashEncryption_matches n text cipher encrypted
  down n text cipher encrypted := hashEncryption_matches n text cipher encrypted
  refuses _ _ := by
    have refused : hashEncryption.decrypt encryptionFailed.text = none := by decide +kernel
    exact refused

theorem encryption_unseen_hello :
    ∃ ts s, Run helloSecured.step helloSecured.new ts s ∧
      ts.map Transition.action = [.client (.request "say_hello" none), .client (.send 0), .up 0 ∅,
        .server (.task 0 (.call (.payload (.success (.str "lo")) none) (.num 7))), .server (.task 0 .collect),
        .server (.task 0 .send), .deliver, .down] ∧
      s.client.backend.channels.answers.map Answer.oneshot = [0] ∧
      ∃ us, Run helloSecured.link.step helloSecured.link.new us s.plain := by
  obtain ⟨ts, s, run, labels, answered⟩ := Run.reaches helloSecured.step helloSecured.new
    [.client (.request "say_hello" none), .client (.send 0), .up 0 ∅,
      .server (.task 0 (.call (.payload (.success (.str "lo")) none) (.num 7))), .server (.task 0 .collect),
      .server (.task 0 .send), .deliver, .down]
    (fun s => decide (s.client.backend.channels.answers.map Answer.oneshot = [0])) (by decide +kernel)
  exact ⟨ts, s, run, labels, of_decide_eq_true answered, _, (encryption_unseen run helloSecured_agrees).1⟩

/-! ## Every run in clear is seen -/

/-- Both ends run, and the send task of the server has gone as far as the client. -/
structure Follows (s : SecuredDuplex) (d : Duplex) : Prop where
  plain : s.plain = d
  sending : s.sending = true
  reading : s.reading = true
  running : s.sender.running = true
  taken : s.sender.taken.length = s.read
  frames : s.sender.frames.length = s.read

/-- Every frame can be sent, and what the client has read can be encrypted. -/
structure Able (link : SecuredLink) (d : Duplex) : Prop where
  frames : ∀ {n frame}, d.frames[n]? = some frame → ∃ text,
    Sender.send (some (link.client n)) link.maxRequestSize frame.render = some text
  messages : ∀ {n message}, n < d.read → (link.link.messages d)[n]? = some message → ∃ text,
    (link.server n).encrypt message.2.text = some text

theorem Able.of_step {d d' : Duplex} (able : link.Able d') {a : DuplexAction} (taken : link.link.step d a = some d') :
    link.Able d := by
  obtain ⟨frames, messages, read⟩ : d.frames <+: d'.frames ∧ link.link.messages d <+: link.link.messages d' ∧
      d.read ≤ d'.read := by
    cases Link.move_of_step taken with
    | client => exact ⟨List.prefix_append _ _, List.prefix_rfl, Nat.le_refl _⟩
    | server genuine moved => exact ⟨List.prefix_rfl, Server.Serving.outgoing_prefix moved, Nat.le_refl _⟩
    | up next moved => exact ⟨List.prefix_rfl, Server.Serving.outgoing_prefix moved, Nat.le_refl _⟩
    | down => exact ⟨List.prefix_rfl, List.prefix_rfl, Nat.le_succ _⟩
  refine ⟨fun found => able.frames (getElem?_grown frames found), ?_⟩
  intro n message earlier found
  exact able.messages (Nat.lt_of_lt_of_le earlier read) (getElem?_grown messages found)

theorem sendAll_of_able {n : Nat} {frames : List Json} (able : ∀ {i frame}, frames[i]? = some frame → ∃ text,
    Sender.send (some (link.client (n + i))) link.maxRequestSize frame.render = some text) :
    ∃ texts, link.sendAll n frames = (texts, true) := by
  generalize given : link.sendAll n frames = result
  obtain ⟨texts, sent⟩ := result
  obtain ⟨-, -, failed⟩ := link.sendAll_spec n frames given
  cases sent with
  | true => exact ⟨texts, rfl⟩
  | false =>
      obtain ⟨frame, found, unsent⟩ := failed rfl
      obtain ⟨text, sent⟩ := able found
      cases unsent.symm.trans sent

/-- The send task takes the next message, and the client receives it. -/
theorem Follows.down {d : Duplex} (follows : Follows s d) (agrees : link.Agrees) {message : Origin × RawText}
    {text : String}
    (next : (link.messages s)[s.read]? = some message)
    (encrypted : (link.server s.read).encrypt message.2.text = some text)
    {client : Client} (moved : s.client.step link.link.serde link.link.cfg (.receive message.2.bytes) = some client) :
    ∃ s₁ s₂, link.step s .deliver = some s₁ ∧ link.step s₁ .down = some s₂ ∧ s₁.plain = s.plain ∧
      Follows s₂ { d with client, read := d.read + 1 } := by
  have sends : Server.sendMessage (some (link.server s.sender.taken.length)) link.policy message.2 = some text := by
    rw [follows.taken]
    exact Server.sendMessage_eq_some_iff.mpr (.inl encrypted)
  let sender : Server.SendTask := { taken := s.sender.taken ++ [(message.2, some text)], running := true }
  have grown : sender.frames = s.sender.frames ++ [text] := by
    simp [sender, Server.SendTask.frames]
  have delivered : link.step s .deliver = some { s with sender } := by
    simp only [step, follows.taken, next, Option.bind_some, Server.SendTask.step, follows.running, if_true]
    rw [follows.taken] at sends
    rw [sends]
    rfl
  have found : sender.frames[s.read]? = some text := by
    rw [grown, ← follows.frames, List.getElem?_concat_length]
  have received : link.step { s with sender } .down = some { s with sender, client, read := s.read + 1 } := by
    simp only [step, follows.reading, if_true, found, Option.bind_some,
      receive_of_decrypt (agrees.down _ _ _ encrypted), ReceivedMessage.payload]
    exact Option.map_eq_some_iff.mpr ⟨client, moved, rfl⟩
  refine ⟨_, _, delivered, received, rfl, ?_⟩
  obtain rfl := follows.plain
  refine ⟨rfl, follows.sending, follows.reading, rfl, ?_, ?_⟩
  · simp [sender, follows.taken]
  · simp [grown, follows.frames]

/-- A step in clear is seen of one step with encryption, or of two. -/
theorem Follows.of_step {d d' : Duplex} (follows : Follows s d) (holds : link.Holds s) (agrees : link.Agrees)
    (able : link.Able d') {a : DuplexAction} (taken : link.link.step d a = some d') :
    ∃ ts s', Run link.step s ts s' ∧ ts.filterMap (refinement agrees).transition = [⟨d, a, d'⟩] ∧ Follows s' d' := by
  have follows' := follows
  obtain rfl := follows.plain
  cases Link.move_of_step taken with
  | @client a client front moved =>
      have open_ : isBlocked s a = false := by
        cases a with
        | receive raw => exact absurd rfl (front raw)
        | send position => simp [isBlocked, follows.sending]
        | _ => rfl
      have sendable : ∀ {i frame}, (s.client.frames link.link.cfg a)[i]? = some frame → ∃ text,
          Sender.send (some (link.client (s.wire.length + i))) link.maxRequestSize frame.render = some text := by
        intro i frame found
        refine able.frames (n := s.wire.length + i) ?_
        rw [holds.whole follows.sending]
        exact (List.getElem?_append_right (Nat.le_add_right _ _)).trans (by rwa [Nat.add_sub_cancel_left])
      obtain ⟨texts, given⟩ := sendAll_of_able sendable
      have here : link.step s (.client a) = some { s with
          client
          frames := s.frames ++ s.client.frames link.link.cfg a
          wire := s.wire ++ texts } := by
        simp only [step, open_, Bool.false_eq_true, if_false, given, Bool.and_true]
        exact Option.map_eq_some_iff.mpr ⟨client, moved, rfl⟩
      exact ⟨_, _, .snoc .nil here, rfl, rfl, follows.sending, follows.reading, follows.running, follows.taken,
        follows.frames⟩
  | @server a serving genuine moved =>
      have here : link.step s (.server a) = some { s with serving } := by
        simp only [step, genuine, Bool.false_eq_true, if_false]
        exact Option.map_eq_some_iff.mpr ⟨serving, moved, rfl⟩
      exact ⟨_, _, .snoc .nil here, rfl, rfl, follows.sending, follows.reading, follows.running, follows.taken,
        follows.frames⟩
  | @up extensions frame serving next moved =>
      have inside : s.arrived < s.wire.length := by
        rw [holds.whole follows.sending]
        exact (List.getElem?_eq_some_iff.mp next).1
      have found := List.getElem?_eq_getElem inside
      obtain ⟨frame', given, sent⟩ := holds.wire found
      obtain rfl := Option.some.inj (next.symm.trans given)
      have decrypts := agrees.up _ 0 _ _ (Sender.encrypt_of_send sent)
      have here : link.step s (.up 0 extensions) = some { s with serving, arrived := s.arrived + 1 } := by
        simp only [step, found, Option.bind_some, decryptData_of_decrypt decrypts]
        exact Option.map_eq_some_iff.mpr ⟨serving, moved, rfl⟩
      exact ⟨_, _, .snoc .nil here, rfl, rfl, follows.sending, follows.reading, follows.running, follows.taken,
        follows.frames⟩
  | @down message client next moved =>
      obtain ⟨text, encrypted⟩ := able.messages (Nat.lt_succ_self s.read) next
      obtain ⟨s₁, s₂, delivered, received, same, after⟩ := follows'.down agrees next encrypted moved
      refine ⟨_, s₂, .snoc (.snoc .nil delivered) received, ?_, after⟩
      simp [Refinement.transition, refinement, label, after.reading, same, after.plain]

/-- An encryption keeps no run away: if every frame of a run in clear can be sent, and every
    message that the client reads can be encrypted, the run is what is seen of a run with the
    encryption, behind which both ends are up. -/
theorem seen_of_clear {us : List (Transition Duplex DuplexAction)} {d : Duplex}
    (run : Run link.link.step link.link.new us d) (agrees : link.Agrees) (able : link.Able d) :
    ∃ ts s, Run link.step link.new ts s ∧ ts.filterMap (refinement agrees).transition = us ∧ Follows s d := by
  induction run with
  | nil => exact ⟨[], link.new, .nil, rfl, rfl, rfl, rfl, rfl, rfl, rfl⟩
  | snoc earlier taken ih =>
      obtain ⟨ts, s, before, seen, follows⟩ := ih (able.of_step taken)
      obtain ⟨more, s', after, last, follows'⟩ :=
        follows.of_step ((refinement agrees).inv_run before) agrees able taken
      exact ⟨ts ++ more, s', before.trans after, by rw [List.filterMap_append, seen, last], follows'⟩

theorem seen_of_clear_hello :
    ∃ us d, Run helloSecured.link.step helloSecured.link.new us d ∧ us.map Transition.action = Duplex.helloRun ∧
      ∃ ts s, Run helloSecured.step helloSecured.new ts s ∧
        ts.filterMap (refinement helloSecured_agrees).transition = us ∧ Follows s d := by
  obtain ⟨us, d, run, labels, facts⟩ := Run.reaches helloSecured.link.step helloSecured.link.new Duplex.helloRun
    (fun d => d.frames.all fun frame => (Sender.send (some hashEncryption) 200 frame.render).isSome) (by decide +kernel)
  have able : helloSecured.Able d := by
    refine ⟨fun found => ?_, fun _ _ => ⟨_, rfl⟩⟩
    exact Option.isSome_iff_exists.mp (List.all_eq_true.mp facts _ (List.mem_of_getElem? found))
  exact ⟨us, d, run, labels, seen_of_clear run helloSecured_agrees able⟩

end SecuredLink

end Jsonrpsee
