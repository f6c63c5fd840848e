import Jsonrpsee.Server.WebSocket

/-! # The two ways to set up a WebSocket connection

`ws::connect` and the upgrade branch of the server wire the same values by hand.
They differ in one of them: the limit on the size of messages, for which
`connect` takes the limit on responses.
-/

namespace Jsonrpsee

namespace Server

/-- The message that a step receives. -/
def WsAction.message : WsAction → Option (List UInt8)
  | .incoming data => some data
  | .serving _ | .stopped | .connectionClosed | .pendingCallsDone | .disconnect | .senderGone | .deliver | .sendError
  | .stopSending | .closeChannel => none

/-- The messages that a list of actions receives. -/
def messages (actions : List WsAction) : List (List UInt8) := actions.filterMap WsAction.message

namespace WsConn

/-! ## The record of received messages -/

/-- What is recorded of a message. -/
def entry (limit : Nat) (data : List UInt8) : List UInt8 × Bool := (data, decide (data.length ≤ limit))

variable {p : BackgroundTaskParams} {s s' : WsConn}

theorem step_received {a : WsAction} (taken : step p s a = some s') :
    s'.received = s.received ++ (a.message.map (entry p.maxMessageSize)).toList := by
  have silent : s.received = s.received ++ [] := (List.append_nil _).symm
  cases move_of_step taken with
  | spawn message receiving fits | skip receiving fits =>
      simp only [WsAction.message, Option.map_some, Option.toList_some, entry, decide_eq_true fits]
  | refuse receiving large isOpen | unheard receiving large closed =>
      simp only [WsAction.message, Option.map_some, Option.toList_some, entry, decide_eq_false large]
  | serving | stopped | connectionClosed | pendingCallsDone | disconnect | senderGone | deliver | undeliverable
  | sendError | stopSending | closeChannel => exact silent

/-- A run records exactly its messages, each with the verdict of the receiver. -/
theorem exec_received {actions : List WsAction} (ran : exec (step p) s actions = some s') :
    s'.received = s.received ++ (messages actions).map (entry p.maxMessageSize) := by
  induction actions generalizing s with
  | nil =>
      cases ran
      exact (List.append_nil _).symm
  | cons a rest ih =>
      obtain ⟨next, taken, later⟩ := Option.bind_eq_some_iff.mp ran
      rw [ih later, step_received taken, List.append_assoc]
      congr 1
      cases given : a.message <;> simp [messages, given]

/-- A message above the limit is answered with an error that names the limit on
    requests. -/
theorem step_oversized {data : List UInt8} (taken : step p s (.incoming data) = some s')
    (large : ¬ data.length ≤ p.maxMessageSize) (isOpen : s.serving.hub.isOpen p.conn = true) :
    ∃ origin, s'.serving.hub.outgoing p.conn = s.serving.hub.outgoing p.conn ++
      [(origin, errorText (rejectTooBigRequest p.serverCfg.maxRequestBodySize))] := by
  cases move_of_step taken with
  | spawn message receiving fits | skip receiving fits => exact absurd fits large
  | unheard receiving large closed => exact absurd isOpen closed
  | refuse receiving large isOpen =>
      refine ⟨.task s.serving.next, ?_⟩
      show (s.serving.hub.push p.conn _ _).outgoing p.conn = _
      rw [Hub.outgoing_push, if_pos ⟨rfl, isOpen⟩]
      rfl

end WsConn

/-! ## The two set-ups -/

section EntryPoints

variable (serde : SerdeJson) (serverCfg : ServerSettings) (methods : Table String Method) (conn : ConnectionId)
  (extensions : Extensions) (onSessionClose : Bool)

/-- A message is on the same side of both limits. -/
def Undisputed (data : List UInt8) : Prop :=
  data.length ≤ serverCfg.maxRequestBodySize ↔ data.length ≤ serverCfg.maxResponseBodySize

theorem receive_entryPoints {s : WsConn} {data : List UInt8} (limits : Undisputed serverCfg data) :
    s.receive (connect serde serverCfg methods conn extensions) data =
      s.receive (upgrade serde serverCfg methods conn extensions onSessionClose) data := by
  unfold WsConn.receive
  by_cases fits : data.length ≤ serverCfg.maxRequestBodySize
  · rw [if_pos (show data.length ≤ (upgrade serde serverCfg methods conn extensions onSessionClose).maxMessageSize
        from fits),
      if_pos (show data.length ≤ (connect serde serverCfg methods conn extensions).maxMessageSize
        from limits.mp fits)]
    rfl
  · rw [if_neg (show ¬ data.length ≤ (upgrade serde serverCfg methods conn extensions onSessionClose).maxMessageSize
        from fits),
      if_neg (show ¬ data.length ≤ (connect serde serverCfg methods conn extensions).maxMessageSize
        from fun fits' => fits (limits.mpr fits'))]
    rfl

/-- The two connections take the same step, unless it is about a message between the
    two limits. -/
theorem step_entryPoints {s : WsConn} {a : WsAction} (agree : ∀ data ∈ a.message, Undisputed serverCfg data) :
    WsConn.step (connect serde serverCfg methods conn extensions) s a =
      WsConn.step (upgrade serde serverCfg methods conn extensions onSessionClose) s a := by
  cases a with
  | incoming data =>
      unfold WsConn.step
      simp only
      rw [receive_entryPoints serde serverCfg methods conn extensions onSessionClose (agree data rfl)]
  | serving | stopped | connectionClosed | pendingCallsDone | disconnect | senderGone | deliver | sendError
  | stopSending | closeChannel => rfl

theorem exec_entryPoints {s : WsConn} {actions : List WsAction}
    (agree : ∀ data ∈ messages actions, Undisputed serverCfg data) :
    exec (WsConn.step (connect serde serverCfg methods conn extensions)) s actions =
      exec (WsConn.step (upgrade serde serverCfg methods conn extensions onSessionClose)) s actions := by
  induction actions generalizing s with
  | nil => rfl
  | cons a rest ih =>
      have first : ∀ data ∈ a.message, Undisputed serverCfg data := by
        intro data given
        exact agree data (List.mem_filterMap.mpr ⟨a, List.mem_cons_self, given⟩)
      have later : ∀ data ∈ messages rest, Undisputed serverCfg data := by
        intro data member
        obtain ⟨b, inRest, given⟩ := List.mem_filterMap.mp member
        exact agree data (List.mem_filterMap.mpr ⟨b, List.mem_cons_of_mem _ inRest, given⟩)
      rw [exec, exec, step_entryPoints serde serverCfg methods conn extensions onSessionClose first]
      congr 1
      funext next
      exact ih later

/-- Along every run of a connection of the server, exactly the messages up to the limit
    on requests are accepted, and a longer one is answered with an error. A connection
    of `connect` goes along, through the same states, exactly when no message is
    between the two limits. -/
theorem entryPoints_agree_iff {start s : WsConn} {actions : List WsAction}
    (ran : exec (WsConn.step (upgrade serde serverCfg methods conn extensions onSessionClose)) start actions = some s) :
    s.received = start.received ++ (messages actions).map (WsConn.entry serverCfg.maxRequestBodySize) ∧
    (∀ before data rest t, actions = before ++ .incoming data :: rest →
      exec (WsConn.step (upgrade serde serverCfg methods conn extensions onSessionClose)) start before = some t →
      serverCfg.maxRequestBodySize < data.length → t.serving.hub.isOpen conn = true →
      ∃ t' origin, WsConn.step (upgrade serde serverCfg methods conn extensions onSessionClose) t (.incoming data) = some t' ∧
        t'.serving.hub.outgoing conn = t.serving.hub.outgoing conn ++
          [(origin, errorText (rejectTooBigRequest serverCfg.maxRequestBodySize))]) ∧
    (exec (WsConn.step (connect serde serverCfg methods conn extensions)) start actions = some s ↔
      ∀ data ∈ messages actions, Undisputed serverCfg data) := by
  have recorded := WsConn.exec_received ran
  refine ⟨recorded, ?_, ?_, ?_⟩
  · intro before data rest t shape reached large isOpen
    rw [shape, exec_append, reached, Option.bind_some] at ran
    obtain ⟨t', taken, -⟩ := Option.bind_eq_some_iff.mp ran
    obtain ⟨origin, answered⟩ := WsConn.step_oversized taken (Nat.not_le_of_lt large) isOpen
    exact ⟨t', origin, taken, answered⟩
  · intro same
    have verdicts := (WsConn.exec_received same).symm.trans recorded
    rw [List.append_right_inj] at verdicts
    intro data member
    have verdict : decide (data.length ≤ serverCfg.maxResponseBodySize) =
        decide (data.length ≤ serverCfg.maxRequestBodySize) :=
      congrArg Prod.snd (List.map_inj_left.mp verdicts data member)
    exact (decide_eq_decide.mp verdict).symm
  · intro agree
    rw [exec_entryPoints serde serverCfg methods conn extensions onSessionClose agree]
    exact ran

end EntryPoints

/-- A server that takes requests of 64 bytes and gives responses of 16. -/
def uneven : ServerSettings :=
  { maxRequestBodySize := 64
    maxResponseBodySize := 16
    maxSubscriptionsPerConnection := 1
    batchRequestsConfig := .unlimited
    messageBufferCapacity := 8
    messageEncryption := none
    messageCryptoErrorPolicy := .sendError }

/-- The server with one connection. -/
def oneConn : WsConn :=
  .new { hub := { Hub.new with conns := Finmap.singleton 0 (Conn.new (uneven.service (.only .null) ∅).cfg) }
         tasks := ∅
         next := 0 }

theorem entryPoints_agree_short :
    ∃ s, exec (WsConn.step (upgrade (.only .null) uneven ∅ 0 ∅ false)) oneConn [.incoming [91, 93]] = some s ∧
      exec (WsConn.step (connect (.only .null) uneven ∅ 0 ∅)) oneConn [.incoming [91, 93]] = some s := by
  have runs : (exec (WsConn.step (upgrade (.only .null) uneven ∅ 0 ∅ false)) oneConn
      [.incoming [91, 93]]).isSome = true := by decide +kernel
  obtain ⟨s, ran⟩ := Option.isSome_iff_exists.mp runs
  refine ⟨s, ran, (entryPoints_agree_iff (.only .null) uneven ∅ 0 ∅ false ran).2.2.mpr ?_⟩
  intro data member
  obtain rfl := List.mem_singleton.mp member
  exact iff_of_true (by decide) (by decide)

/-- A message of 44 bytes. -/
def between : List UInt8 := (Notification.toJson { method := "m", params := none }).bytes

/-- A message between the limits is accepted by the server and refused by
    `connect`. -/
theorem entryPoints_disagree :
    (exec (WsConn.step (upgrade (.only .null) uneven ∅ 0 ∅ false)) oneConn [.incoming between]).any
      (fun s => s.received = [(between, true)]) = true ∧
    (exec (WsConn.step (connect (.only .null) uneven ∅ 0 ∅)) oneConn [.incoming between]).any
      (fun s => s.received = [(between, false)]) = true := by
  decide +kernel

end Server

end Jsonrpsee
