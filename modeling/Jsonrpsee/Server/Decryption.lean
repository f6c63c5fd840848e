import Jsonrpsee.Server.SendTask

/-! # Messages that have to be decrypted

The receive loop takes a message off the socket and spawns a task for it. The task
decrypts the message before it is read, while the loop goes on. A failure ends the
task; whatever the policy, the loop does not hear of it.
-/

namespace Jsonrpsee

namespace Server

/-- The type of a data frame. The receive loop does not look at it. -/
inductive DataKind where
  | text
  | binary
  deriving Repr, DecidableEq

/-- A message that its task has not decrypted yet. -/
structure Fetched where
  data : List UInt8
  /-- It was taken after a decryption had failed. No step reads this. -/
  late : Bool

/-- What a task has decrypted and given to `handle_rpc_call`. -/
structure Dispatched where
  number : Nat
  data : List UInt8
  payload : List UInt8
  late : Bool

/-- A connection on which decrypting is a step of its own. -/
structure CryptoConn where
  conn : WsConn
  fetched : Table Nat Fetched
  next : Nat
  /-- A decryption has failed, or was given up. No step reads this or the next field. -/
  failed : Bool
  dispatched : List Dispatched

inductive CryptoAction where
  /-- The receive loop takes a message. -/
  | take (kind : DataKind) (data : List UInt8)
  /-- The task of the n-th message decrypts it. -/
  | decrypt (n : Nat)
  | other (a : WsAction)

def CryptoAction.isTake : CryptoAction → Bool
  | .take _ _ => true
  | .decrypt _ | .other _ => false

namespace CryptoConn

def new (serving : Serving) : CryptoConn :=
  { conn := .new serving, fetched := ∅, next := 0, failed := false, dispatched := [] }

/-- The steps of the connection that are left to it: it takes the messages above the
    limit, and waits for the tasks that decrypt. -/
def admits (p : BackgroundTaskParams) (s : CryptoConn) : WsAction → Bool
  | .incoming data => !decide (data.length ≤ p.maxMessageSize)
  | .pendingCallsDone => s.fetched.keys = ∅
  | .serving _ | .stopped | .connectionClosed | .disconnect | .senderGone | .deliver | .sendError | .stopSending
  | .closeChannel => true

/-- The task of a message goes on with what it has decrypted. -/
def decrypted (p : BackgroundTaskParams) (s : CryptoConn) (n : Nat) (message : Fetched) : Decrypted → CryptoConn
  | .data payload =>
      let serving := s.conn.serving.spawn p.service p.conn (p.service.read payload p.extensions)
      { s with
        conn := { s.conn with serving }
        fetched := s.fetched.erase n
        dispatched := s.dispatched ++ [{ number := n, data := message.data, payload, late := message.late }] }
  | .refused rp =>
      let serving := s.conn.serving.spawn p.service p.conn (.refused rp)
      { s with conn := { s.conn with serving }, fetched := s.fetched.erase n, failed := true }
  -- `CloseConnection` is said to be handled by the outer loop.
  | .skipped => { s with fetched := s.fetched.erase n, failed := true }

def step (p : BackgroundTaskParams) (encryptions : Encryptions) (s : CryptoConn) : CryptoAction → Option CryptoConn
  | .take _ data =>
      if s.conn.loop = .receiving ∧ data.length ≤ p.maxMessageSize then
        some { s with
          conn := { s.conn with received := s.conn.received ++ [(data, true)] }
          fetched := s.fetched.insert s.next { data, late := s.failed }
          next := s.next + 1 }
      else none
  | .decrypt n =>
      (s.fetched.lookup n).map fun message =>
        s.decrypted p n message
          (decryptData (some (encryptions n)) p.serverCfg.messageCryptoErrorPolicy message.data)
  | .other a => if s.admits p a then (s.conn.step p a).map fun conn => { s with conn } else none

/-- A task that decrypts at once is the task of a message that was received. -/
theorem take_decrypt {p : BackgroundTaskParams} {encryption : MessageEncryption}
    (encrypted : p.messageEncryption = some encryption) {s : CryptoConn} {data : List UInt8}
    (fits : data.length ≤ p.maxMessageSize) (kind : DataKind) :
    ((step p (fun _ => encryption) s (.take kind data)).bind fun taken =>
        (step p (fun _ => encryption) taken (.decrypt s.next)).map CryptoConn.conn) =
      s.conn.step p (.incoming data) := by
  by_cases receiving : s.conn.loop = .receiving
  · simp only [step, WsConn.step, receiving, fits, and_self, if_true, Option.bind_some, Finmap.lookup_insert,
      Option.map_some, WsConn.receive, encrypted]
    cases decryptData (some encryption) p.serverCfg.messageCryptoErrorPolicy data <;> rfl
  · simp only [step, WsConn.step, receiving, false_and, if_false, Option.bind_none]

/-! ## The steps, one by one -/

/-- The steps that are possible, and where they lead. -/
inductive Move (p : BackgroundTaskParams) (encryptions : Encryptions) (s : CryptoConn) :
    CryptoAction → CryptoConn → Prop
  | take {kind : DataKind} {data : List UInt8} (receiving : s.conn.loop = .receiving)
      (fits : data.length ≤ p.maxMessageSize) :
      Move p encryptions s (.take kind data)
        { s with
          conn := { s.conn with received := s.conn.received ++ [(data, true)] }
          fetched := s.fetched.insert s.next { data, late := s.failed }
          next := s.next + 1 }
  | decrypt {n : Nat} {message : Fetched} (found : s.fetched.lookup n = some message) :
      Move p encryptions s (.decrypt n)
        (s.decrypted p n message
          (decryptData (some (encryptions n)) p.serverCfg.messageCryptoErrorPolicy message.data))
  | other {a : WsAction} {conn : WsConn} (taken : s.conn.step p a = some conn) :
      Move p encryptions s (.other a) { s with conn }

section Moves

variable {p : BackgroundTaskParams} {encryptions : Encryptions} {s s' : CryptoConn}

theorem move_of_step {a : CryptoAction} (taken : step p encryptions s a = some s') : Move p encryptions s a s' := by
  cases a with
  | take kind data =>
      obtain ⟨⟨receiving, fits⟩, same⟩ := Option.ite_none_right_eq_some.mp taken
      cases same
      exact .take receiving fits
  | decrypt n =>
      obtain ⟨message, found, rfl⟩ := Option.map_eq_some_iff.mp taken
      exact .decrypt found
  | other a =>
      obtain ⟨-, taken⟩ := Option.ite_none_right_eq_some.mp taken
      obtain ⟨conn, moved, rfl⟩ := Option.map_eq_some_iff.mp taken
      exact .other moved

end Moves

end CryptoConn

/-- What is read on. -/
def Decrypted.payload : Decrypted → Option (List UInt8)
  | .data payload => some payload
  | .refused _ | .skipped => none

/-- The payload is a string returned by `decrypt`, for the text of the received frame. -/
def Authentic (encryption : MessageEncryption) (data payload : List UInt8) : Prop :=
  ∃ text plain, String.fromUTF8? (ByteArray.mk data.toArray) = some text ∧ encryption.decrypt text = some plain ∧
    payload = plain.toByteArray.data.toList

theorem authentic_of_decryptData {encryption : MessageEncryption} {policy : MessageCryptoErrorPolicy}
    {data payload : List UInt8} (given : (decryptData (some encryption) policy data).payload = some payload) :
    Authentic encryption data payload := by
  unfold decryptData at given
  cases utf8 : String.fromUTF8? (ByteArray.mk data.toArray) with
  | none => simp [utf8, Decrypted.payload] at given
  | some text =>
      cases plain : encryption.decrypt text with
      | none =>
          simp only [utf8, plain] at given
          cases policy <;> cases given
      | some plain' =>
          simp only [utf8, plain, Decrypted.payload, Option.some.injEq] at given
          exact ⟨text, plain', utf8, plain, given.symm⟩

namespace CryptoConn

section Decrypting

variable (p : BackgroundTaskParams) (s : CryptoConn) (n : Nat) (message : Fetched) (outcome : Decrypted)

@[simp]
theorem fetched_decrypted : (s.decrypted p n message outcome).fetched = s.fetched.erase n := by
  cases outcome <;> rfl

@[simp]
theorem next_decrypted : (s.decrypted p n message outcome).next = s.next := by
  cases outcome <;> rfl

@[simp]
theorem dispatched_decrypted :
    (s.decrypted p n message outcome).dispatched = s.dispatched ++
      (outcome.payload.map fun payload =>
        { number := n, data := message.data, payload, late := message.late }).toList := by
  cases outcome with
  | data payload => rfl
  | refused rp => exact (List.append_nil _).symm
  | skipped => exact (List.append_nil _).symm

end Decrypting

/-! ## Only what was decrypted is processed -/

section Runs

variable {p : BackgroundTaskParams} {encryptions : Encryptions} {serving : Serving} {s s' : CryptoConn}

theorem authentic_step {a : CryptoAction} (taken : step p encryptions s a = some s')
    (authentic : ∀ d ∈ s.dispatched, Authentic (encryptions d.number) d.data d.payload) :
    ∀ d ∈ s'.dispatched, Authentic (encryptions d.number) d.data d.payload := by
  cases move_of_step taken with
  | take | other => exact authentic
  | @decrypt n message found =>
      intro d member
      rw [dispatched_decrypted] at member
      rcases List.mem_append.mp member with old | new
      · exact authentic d old
      · obtain ⟨payload, given, rfl⟩ := Option.map_eq_some_iff.mp (Option.mem_toList.mp new)
        exact authentic_of_decryptData given

/-- Whatever arrives, and in whatever frames, the server processes decrypted payloads only. -/
theorem authentic_run {ts : List (Transition CryptoConn CryptoAction)}
    (run : Run (step p encryptions) (new serving) ts s) :
    ∀ d ∈ s.dispatched, Authentic (encryptions d.number) d.data d.payload := by
  refine run.invariant (fun s => ∀ d ∈ s.dispatched, Authentic (encryptions d.number) d.data d.payload)
    (fun _ => True) (fun _ _ => trivial) ?_ (fun t _ authentic taken => authentic_step taken authentic)
  intro d member
  cases member

end Runs

/-! ## Calls behind a failure -/

section Late

variable (p : BackgroundTaskParams) (encryptions : Encryptions)

/-- The calls that a message makes, when it is the n-th one. -/
def callsOf (n : Nat) (data : List UInt8) : List Request :=
  ((decryptData (some (encryptions n)) p.serverCfg.messageCryptoErrorPolicy data).payload.map fun payload =>
    (p.service.read payload p.extensions).requests).getD []

/-- No message that was taken after a failure has been decrypted and makes a call. -/
def NoLateCall (s : CryptoConn) : Prop :=
  ∀ d ∈ s.dispatched, d.late = true → (p.service.read d.payload p.extensions).requests = []

/-- After a failure the loop takes a message that makes a call. -/
def TakesLateCall (t : Transition CryptoConn CryptoAction) : Prop :=
  t.before.failed = true ∧
    ∃ kind data, t.action = .take kind data ∧ callsOf p encryptions t.before.next data ≠ []

/-- No late message makes a call, whether it waits for its task or not. -/
structure Silent (s : CryptoConn) : Prop where
  waiting : ∀ {n message}, s.fetched.lookup n = some message → message.late = true →
    callsOf p encryptions n message.data = []
  noLateCall : s.NoLateCall p

/-- A late message that makes a call waits for its task, or has been dispatched. -/
def HasLateCall (n : Nat) (s : CryptoConn) : Prop :=
  n < s.next ∧ ((∃ message, s.fetched.lookup n = some message ∧ message.late = true ∧
      callsOf p encryptions n message.data ≠ []) ∨
    ∃ d ∈ s.dispatched, d.late = true ∧ (p.service.read d.payload p.extensions).requests ≠ [])

end Late

section Runs

variable {p : BackgroundTaskParams} {encryptions : Encryptions} {serving : Serving} {s s' : CryptoConn}

/-- What the task of a message adds to the log. -/
theorem callsOf_dispatched {n : Nat} {data payload : List UInt8}
    (given : (decryptData (some (encryptions n)) p.serverCfg.messageCryptoErrorPolicy data).payload = some payload) :
    callsOf p encryptions n data = (p.service.read payload p.extensions).requests := by
  simp only [callsOf, given, Option.map_some, Option.getD_some]

theorem silent_move {a : CryptoAction} (silent : s.Silent p encryptions) (taken : Move p encryptions s a s')
    (good : ¬ TakesLateCall p encryptions ⟨s, a, s'⟩) : s'.Silent p encryptions := by
  cases taken with
  | other => exact ⟨silent.waiting, silent.noLateCall⟩
  | @take kind data receiving fits =>
      refine ⟨?_, silent.noLateCall⟩
      intro n message found late
      rw [Table.lookup_insert_ite] at found
      split at found
      · rename_i same
        cases found
        subst same
        by_contra calls
        exact good ⟨late, kind, data, rfl, calls⟩
      · exact silent.waiting found late
  | @decrypt n message found =>
      refine ⟨?_, ?_⟩
      · intro n' message' found' late
        rw [fetched_decrypted, Table.lookup_erase_ite] at found'
        exact silent.waiting (Option.ite_none_left_eq_some.mp found').2 late
      · intro d member late
        rw [dispatched_decrypted] at member
        rcases List.mem_append.mp member with old | new
        · exact silent.noLateCall d old late
        · obtain ⟨payload, given, rfl⟩ := Option.map_eq_some_iff.mp (Option.mem_toList.mp new)
          rw [← callsOf_dispatched given]
          exact silent.waiting found late

theorem silent_new : (new serving).Silent p encryptions := by
  refine ⟨?_, ?_⟩
  · intro n message found
    rw [new, Finmap.lookup_empty] at found
    cases found
  · intro d member
    cases member

/-- The task that decrypts a late call dispatches it. -/
theorem dispatches {n : Nat} {message : Fetched} (late : message.late = true)
    (calls : callsOf p encryptions n message.data ≠ []) :
    ∃ d ∈ (s.decrypted p n message (decryptData (some (encryptions n)) p.serverCfg.messageCryptoErrorPolicy
        message.data)).dispatched,
      d.late = true ∧ (p.service.read d.payload p.extensions).requests ≠ [] := by
  cases given : (decryptData (some (encryptions n)) p.serverCfg.messageCryptoErrorPolicy message.data).payload with
  | none => simp [callsOf, given] at calls
  | some payload =>
      rw [callsOf_dispatched given] at calls
      refine ⟨{ number := n, data := message.data, payload, late := message.late }, ?_, late, calls⟩
      rw [dispatched_decrypted, given]
      exact List.mem_append_right _ (List.mem_singleton.mpr rfl)

theorem hasLateCall_move {a : CryptoAction} {n : Nat} (has : s.HasLateCall p encryptions n)
    (taken : Move p encryptions s a s') : s'.HasLateCall p encryptions n := by
  obtain ⟨known, waits⟩ := has
  cases taken with
  | other => exact ⟨known, waits⟩
  | @take kind data receiving fits =>
      refine ⟨Nat.lt_succ_of_lt known, ?_⟩
      rcases waits with ⟨message, found, late, calls⟩ | dispatched
      · refine .inl ⟨message, ?_, late, calls⟩
        rw [Table.lookup_insert_ite, if_neg (Nat.ne_of_lt known), found]
      · exact .inr dispatched
  | @decrypt m message found =>
      refine ⟨by rwa [next_decrypted], ?_⟩
      rcases waits with ⟨message', found', late, calls⟩ | ⟨d, member, late, calls⟩
      · by_cases same : n = m
        · subst same
          cases found.symm.trans found'
          exact .inr (dispatches late calls)
        · refine .inl ⟨message', ?_, late, calls⟩
          rw [fetched_decrypted, Table.lookup_erase_ite, if_neg same, found']
      · refine .inr ⟨d, ?_, late, calls⟩
        rw [dispatched_decrypted]
        exact List.mem_append_left _ member

theorem hasLateCall_of_takes {t : Transition CryptoConn CryptoAction} (takes : TakesLateCall p encryptions t)
    (taken : step p encryptions t.before t.action = some t.after) :
    t.after.HasLateCall p encryptions t.before.next := by
  obtain ⟨before, action, after⟩ := t
  obtain ⟨failed, kind, data, rfl, calls⟩ := takes
  have move : Move p encryptions before (.take kind data) after := move_of_step taken
  cases move with
  | take receiving fits =>
      exact ⟨Nat.lt_succ_self _, .inl ⟨{ data, late := before.failed }, Finmap.lookup_insert _, failed, calls⟩⟩

/-- Among the continuations in which tasks decrypt, no late message makes a call exactly
    when none was taken after a failure. -/
theorem no_late_call_iff {ts : List (Transition CryptoConn CryptoAction)}
    (run : Run (step p encryptions) (new serving) ts s) :
    (∀ us s', Run (step p encryptions) s us s' → (∀ u ∈ us, ∃ n, u.action = .decrypt n) → s'.NoLateCall p) ↔
      ∀ t ∈ ts, ¬ TakesLateCall p encryptions t := by
  constructor
  · intro noLateCall t member takes
    obtain ⟨pre, post, -, -, taken, after⟩ := run.split member
    have has : s.HasLateCall p encryptions t.before.next :=
      after.invariant (HasLateCall p encryptions t.before.next) (fun _ => True) (fun _ _ => trivial)
        (hasLateCall_of_takes takes taken) (fun u _ has fired => hasLateCall_move has (move_of_step fired))
    obtain ⟨-, ⟨message, found, late, calls⟩ | ⟨d, dispatched, late, calls⟩⟩ := has
    · have fires : step p encryptions s (.decrypt t.before.next) = some _ := congrArg (Option.map _) found
      obtain ⟨d, dispatched, late, calls⟩ := @dispatches p encryptions s t.before.next message late calls
      refine calls (noLateCall _ _ (.snoc .nil fires) ?_ d dispatched late)
      intro u here
      cases List.mem_singleton.mp here
      exact ⟨_, rfl⟩
    · exact calls (noLateCall [] s .nil (by simp) d dispatched late)
  · intro good us s' later decrypting
    have silent : s.Silent p encryptions := run.invariant (Silent p encryptions) (fun t => ¬ TakesLateCall p encryptions t)
      good silent_new (fun t good silent taken => silent_move silent (move_of_step taken) good)
    refine (later.invariant (Silent p encryptions) (fun u => ∃ n, u.action = .decrypt n) decrypting silent ?_).noLateCall
    rintro u ⟨n, action⟩ silent taken
    refine silent_move silent (move_of_step taken) ?_
    rintro ⟨-, kind, data, takes, -⟩
    cases action.symm.trans takes

end Runs

/-- An encryption that refuses one text. -/
def pickyEncryption : MessageEncryption :=
  { encrypt := some
    decrypt := fun text => if text = "x" then none else some text }

def sumCall : Request := { id := .number 7, method := "sum", params := none }

def closingParams : BackgroundTaskParams :=
  upgrade (.only sumCall.toJson)
    { maxRequestBodySize := 1000
      maxResponseBodySize := 1000
      maxSubscriptionsPerConnection := 1
      batchRequestsConfig := .unlimited
      messageBufferCapacity := 1
      messageEncryption := some pickyEncryption
      messageCryptoErrorPolicy := .closeConnection }
    (Finmap.singleton "sum" .sync) 0 ∅ false

def closingServing : Serving :=
  { hub := { Hub.new with conns := Finmap.singleton 0 (Conn.new closingParams.service.cfg) }, tasks := ∅, next := 0 }

/-- The call comes before the message that cannot be decrypted. -/
def callThenFailure : List CryptoAction :=
  [.take .text sumCall.toJson.bytes, .take .text [120], .decrypt 1, .decrypt 0]

theorem no_late_call_before_failure :
    ∃ ts s, Run (step closingParams fun _ => pickyEncryption) (new closingServing) ts s ∧
      ts.map Transition.action = callThenFailure ∧ s.failed = true ∧ s.dispatched.length = 1 ∧
      s.NoLateCall closingParams := by
  obtain ⟨ts, s, run, labels, facts⟩ := Run.records (step closingParams fun _ => pickyEncryption) (new closingServing)
    callThenFailure
    (fun ts s => ts.all (fun t => !(t.before.failed && t.action.isTake)) && s.failed &&
      decide (s.dispatched.length = 1))
    (by decide +kernel)
  obtain ⟨facts, dispatched⟩ := Bool.and_eq_true_iff.mp facts
  obtain ⟨early, failed⟩ := Bool.and_eq_true_iff.mp facts
  refine ⟨ts, s, run, labels, failed, of_decide_eq_true dispatched, ?_⟩
  refine (no_late_call_iff run).mpr ?_ [] s .nil (by simp)
  rintro t member ⟨late, kind, data, takes, -⟩
  have isEarly := List.all_eq_true.mp early t member
  rw [late, takes] at isEarly
  cases isEarly

/-- A call that was taken after the failure, from the socket to the channel. -/
def failureThenCall : List CryptoAction :=
  [.take .text [120], .decrypt 0, .take .text sumCall.toJson.bytes, .decrypt 1,
    .other (.serving (.task 0 (.call (.payload (.success (.int 3)) none) (.num 0)))),
    .other (.serving (.task 0 .collect)), .other (.serving (.task 0 .send)), .other .deliver]

/-- The policy is to close the connection, and still the call is run and answered. -/
theorem late_call_is_answered :
    closingParams.serverCfg.messageCryptoErrorPolicy = .closeConnection ∧
    ∃ ts s, Run (step closingParams fun _ => pickyEncryption) (new closingServing) ts s ∧
      ts.map Transition.action = failureThenCall ∧ s.conn.handed.length = 1 ∧ ¬ s.NoLateCall closingParams := by
  refine ⟨rfl, ?_⟩
  obtain ⟨ts, s, run, labels, facts⟩ := Run.reaches (step closingParams fun _ => pickyEncryption) (new closingServing)
    failureThenCall
    (fun s => decide (s.conn.handed.length = 1) && s.dispatched.any fun d =>
      d.late && !(closingParams.service.read d.payload closingParams.extensions).requests.isEmpty)
    (by decide +kernel)
  obtain ⟨handed, late⟩ := Bool.and_eq_true_iff.mp facts
  obtain ⟨d, dispatched, late⟩ := List.any_eq_true.mp late
  obtain ⟨late, calls⟩ := Bool.and_eq_true_iff.mp late
  refine ⟨ts, s, run, labels, of_decide_eq_true handed, ?_⟩
  intro noLateCall
  rw [noLateCall d dispatched late] at calls
  cases calls

end CryptoConn

end Server

end Jsonrpsee
