import Jsonrpsee.Server.Subscription

/-! # Messages that are sent again

A sink gives back what it could not send, and the caller may try again with what was given
back. On the way a message may have been completed with the method and the subscription ID;
a complete message is sent as it is.
-/

namespace Jsonrpsee

namespace Server

/-! ## The channel of a connection -/

namespace Mpsc

/-- `mpsc::error::SendError`: the channel is closed. -/
structure SendError where
  value : RawText

inductive TrySendError where
  | full (value : RawText)
  | closed (value : RawText)

inductive SendTimeoutError where
  | timeout (value : RawText)
  | closed (value : RawText)

/-- What is behind an `mpsc::Sender`. -/
structure Sender where
  queue : List RawText
  maxCapacity : Nat
  isOpen : Bool

/-- `mpsc::channel`. -/
def channel (buffer : Nat) : Sender := { queue := [], maxCapacity := buffer, isOpen := true }

namespace Sender

def push (tx : Sender) (json : RawText) : Sender := { tx with queue := tx.queue ++ [json] }

def trySend (tx : Sender) (json : RawText) : Except TrySendError Sender :=
  if tx.isOpen then
    if tx.queue.length < tx.maxCapacity then .ok (tx.push json) else .error (.full json)
  else .error (.closed json)

/-- Waits, with no result yet, until there is room or the channel is closed. -/
def send (tx : Sender) (json : RawText) : Option (Except SendError Sender) :=
  if tx.isOpen then
    if tx.queue.length < tx.maxCapacity then some (.ok (tx.push json)) else none
  else some (.error { value := json })

/-- As `send`, but waits no longer when the time has elapsed. -/
def sendTimeout (tx : Sender) (json : RawText) (elapsed : Bool) : Option (Except SendTimeoutError Sender) :=
  match tx.send json with
  | some result => some (result.mapError fun e => .closed e.value)
  | none => if elapsed then some (.error (.timeout json)) else none

end Sender

end Mpsc

/-! ## Errors with the unsent message -/

structure DisconnectError where
  msg : SubscriptionMessage

inductive TrySendError where
  /-- The connection channel is closed. -/
  | closed (msg : SubscriptionMessage)
  /-- The connection channel is full. -/
  | full (msg : SubscriptionMessage)

inductive SendTimeoutError where
  | timeout (msg : SubscriptionMessage)
  /-- The connection channel is closed. -/
  | closed (msg : SubscriptionMessage)

def DisconnectError.ofMpsc (e : Mpsc.SendError) : DisconnectError := { msg := .complete e.value }

def TrySendError.ofMpsc : Mpsc.TrySendError → TrySendError
  | .closed value => .closed (.complete value)
  | .full value => .full (.complete value)

def SendTimeoutError.ofMpsc : Mpsc.SendTimeoutError → SendTimeoutError
  | .closed value => .closed (.complete value)
  | .timeout value => .timeout (.complete value)

def TrySendError.unsent : TrySendError → SubscriptionMessage
  | .closed msg | .full msg => msg

def SendTimeoutError.unsent : SendTimeoutError → SubscriptionMessage
  | .timeout msg | .closed msg => msg

/-! ## The sink -/

/-- Represents a single subscription: what its messages are completed with. -/
structure SubscriptionSink where
  method : String
  subId : SubscriptionId

namespace SubscriptionSink

/-- Returns whether the subscription is closed. -/
def isClosed (tx : Mpsc.Sender) (isActiveSubscription : Bool) : Bool := !tx.isOpen || !isActiveSubscription

/-- Send out a response on the subscription and wait until there is capacity. -/
def send (sink : SubscriptionSink) (closed : Bool) (tx : Mpsc.Sender) (msg : SubscriptionMessage) :
    Option (Except DisconnectError Mpsc.Sender) :=
  if closed then some (.error { msg })
  else (tx.send (subMessageToJson msg sink.subId sink.method)).map (·.mapError .ofMpsc)

/-- Similar to `send` but only waits for a limited time. -/
def sendTimeout (sink : SubscriptionSink) (closed : Bool) (tx : Mpsc.Sender) (msg : SubscriptionMessage)
    (elapsed : Bool) : Option (Except SendTimeoutError Mpsc.Sender) :=
  if closed then some (.error (.closed msg))
  else (tx.sendTimeout (subMessageToJson msg sink.subId sink.method) elapsed).map (·.mapError .ofMpsc)

/-- Attempts to immediately send out the message. -/
def trySend (sink : SubscriptionSink) (closed : Bool) (tx : Mpsc.Sender) (msg : SubscriptionMessage) :
    Except TrySendError Mpsc.Sender :=
  if closed then .error (.closed msg)
  else (tx.trySend (subMessageToJson msg sink.subId sink.method)).mapError .ofMpsc

end SubscriptionSink

/-! ## Attempts -/

inductive SendCall where
  | send
  | sendTimeout (elapsed : Bool)
  | trySend

/-- A call of the sink, and what it meets. Between the check of the sink and the answer of the
    channel, both ends of the channel may be used. -/
structure SendAttempt where
  call : SendCall
  /-- The channel as the check finds it. -/
  checked : Mpsc.Sender
  isActiveSubscription : Bool
  /-- The channel as it is when it answers. -/
  tx : Mpsc.Sender

namespace SendAttempt

def closed (a : SendAttempt) : Bool := SubscriptionSink.isClosed a.checked a.isActiveSubscription

/-- The channel with the message, or the message that is given back; nothing as long as the call waits. -/
def run (a : SendAttempt) (sink : SubscriptionSink) (msg : SubscriptionMessage) :
    Option (Except SubscriptionMessage Mpsc.Sender) :=
  match a.call with
  | .send => (sink.send a.closed a.tx msg).map (·.mapError DisconnectError.msg)
  | .sendTimeout elapsed => (sink.sendTimeout a.closed a.tx msg elapsed).map (·.mapError SendTimeoutError.unsent)
  | .trySend => some ((sink.trySend a.closed a.tx msg).mapError TrySendError.unsent)

end SendAttempt

/-- All attempts fail. Each sends the message that the one before has given back. -/
def SubscriptionSink.resend (sink : SubscriptionSink) :
    List SendAttempt → SubscriptionMessage → Option SubscriptionMessage
  | [], msg => some msg
  | attempt :: rest, msg =>
      match attempt.run sink msg with
      | some (.error unsent) => sink.resend rest unsent
      | _ => none

/-- A notification of the subscription with a result. -/
def subscriptionResponse (method : String) (subscription : SubscriptionId) (result : RawValue) : RawText :=
  .ofJson (.obj [("jsonrpc", .str "2.0"), ("method", .str method),
    ("params", .obj [("subscription", subscription.toJson), ("result", result)])])

/-! ## What each call can give -/

namespace Mpsc.Sender

variable {tx : Sender} {json : RawText}

theorem send_cases {result : Except SendError Sender} (answered : tx.send json = some result) :
    result = .ok (tx.push json) ∨ result = .error { value := json } := by
  unfold send at answered
  split at answered
  · split at answered
    · exact .inl (Option.some.inj answered).symm
    · cases answered
  · exact .inr (Option.some.inj answered).symm

theorem sendTimeout_cases {elapsed : Bool} {result : Except SendTimeoutError Sender}
    (answered : tx.sendTimeout json elapsed = some result) :
    result = .ok (tx.push json) ∨ result = .error (.closed json) ∨ result = .error (.timeout json) := by
  unfold sendTimeout at answered
  cases sent : tx.send json with
  | some first =>
      rw [sent] at answered
      obtain rfl := Option.some.inj answered
      rcases send_cases sent with rfl | rfl
      · exact .inl rfl
      · exact .inr (.inl rfl)
  | none =>
      rw [sent] at answered
      cases elapsed with
      | true => exact .inr (.inr (Option.some.inj answered).symm)
      | false => cases answered

theorem trySend_cases (tx : Sender) (json : RawText) :
    tx.trySend json = .ok (tx.push json) ∨ tx.trySend json = .error (.closed json) ∨
      tx.trySend json = .error (.full json) := by
  unfold trySend
  split
  · split
    · exact .inl rfl
    · exact .inr (.inr rfl)
  · exact .inr (.inl rfl)

end Mpsc.Sender

section Resend

variable {sink : SubscriptionSink} {msg : SubscriptionMessage}

/-- A call gives the message back as it was, gives it back complete, or puts its text on the channel. -/
theorem SendAttempt.run_cases {a : SendAttempt} {outcome : Except SubscriptionMessage Mpsc.Sender}
    (ran : a.run sink msg = some outcome) :
    outcome = .error msg ∨ outcome = .error (.complete (subMessageToJson msg sink.subId sink.method)) ∨
      outcome = .ok (a.tx.push (subMessageToJson msg sink.subId sink.method)) := by
  unfold SendAttempt.run SubscriptionSink.send SubscriptionSink.sendTimeout SubscriptionSink.trySend at ran
  -- A sink that finds itself closed does not look at the message.
  by_cases closed : a.closed = true
  · simp only [closed, if_true] at ran
    split at ran <;> exact .inl (Option.some.inj ran).symm
  simp only [closed, Bool.false_eq_true, if_false, Option.map_map] at ran
  split at ran
  · obtain ⟨result, answered, rfl⟩ := Option.map_eq_some_iff.mp ran
    rcases Mpsc.Sender.send_cases answered with rfl | rfl
    · exact .inr (.inr rfl)
    · exact .inr (.inl rfl)
  · obtain ⟨result, answered, rfl⟩ := Option.map_eq_some_iff.mp ran
    rcases Mpsc.Sender.sendTimeout_cases answered with rfl | rfl | rfl
    · exact .inr (.inr rfl)
    · exact .inr (.inl rfl)
    · exact .inr (.inl rfl)
  · obtain rfl := Option.some.inj ran
    rcases a.tx.trySend_cases (subMessageToJson msg sink.subId sink.method) with sent | refused | refused
    · rw [sent]
      exact .inr (.inr rfl)
    · rw [refused]
      exact .inr (.inl rfl)
    · rw [refused]
      exact .inr (.inl rfl)

/-- The text of a message is that of the message that was given back: nothing is wrapped twice. -/
theorem SendAttempt.unsent_json {a : SendAttempt} {unsent : SubscriptionMessage}
    (failed : a.run sink msg = some (.error unsent)) :
    subMessageToJson unsent sink.subId sink.method = subMessageToJson msg sink.subId sink.method := by
  rcases SendAttempt.run_cases failed with same | complete | sent
  · cases same
    rfl
  · cases complete
    rfl
  · cases sent

theorem SendAttempt.sent_json {a : SendAttempt} {tx : Mpsc.Sender} (sent : a.run sink msg = some (.ok tx)) :
    tx.queue = a.tx.queue ++ [subMessageToJson msg sink.subId sink.method] := by
  rcases SendAttempt.run_cases sent with same | complete | pushed
  · cases same
  · cases complete
  · cases pushed
    rfl

/-- Any number of failures leaves the text of the message as it is. -/
theorem SubscriptionSink.resend_json {attempts : List SendAttempt} {returned : SubscriptionMessage}
    (failed : sink.resend attempts msg = some returned) :
    subMessageToJson returned sink.subId sink.method = subMessageToJson msg sink.subId sink.method := by
  induction attempts generalizing msg with
  | nil =>
      cases failed
      rfl
  | cons attempt rest ih =>
      rw [SubscriptionSink.resend] at failed
      split at failed
      · rename_i unsent gave
        rw [ih failed, SendAttempt.unsent_json gave]
      · cases failed

/-- A message that is sent again until it is taken is on the channel as if it had been taken at first,
    wrapped once. -/
theorem resend_lossless {attempts : List SendAttempt} {returned : SubscriptionMessage} {last : SendAttempt}
    {tx : Mpsc.Sender} (failed : sink.resend attempts msg = some returned)
    (sent : last.run sink returned = some (.ok tx)) :
    ∃ json, tx.queue = last.tx.queue ++ [json] ∧
      (∀ (first : SendAttempt) (tx' : Mpsc.Sender), first.run sink msg = some (.ok tx') →
        tx'.queue = first.tx.queue ++ [json]) ∧
      ∀ result, msg = .needsData result ∨ msg = .new sink.method sink.subId result →
        json = subscriptionResponse sink.method sink.subId result := by
  refine ⟨subMessageToJson msg sink.subId sink.method, ?_, fun first tx' taken => SendAttempt.sent_json taken, ?_⟩
  · rw [SendAttempt.sent_json sent, SubscriptionSink.resend_json failed]
  · intro result given
    rcases given with rfl | rfl
    · rfl
    · rfl

/-- While the channel is full the message is refused, and when the time has elapsed again; then the channel takes it. -/
theorem resend_lossless_thrice :
    let full := (Mpsc.channel 1).push (subscriptionResponse "tick" (.num 3) (.int 4))
    ∃ returned tx,
      SubscriptionSink.resend { method := "tick", subId := .num 3 }
        [{ call := .trySend, checked := full, isActiveSubscription := true, tx := full },
          { call := .sendTimeout true, checked := full, isActiveSubscription := true, tx := full }]
        (.needsData (.int 5)) = some returned ∧
      SendAttempt.run { call := .send, checked := full, isActiveSubscription := true, tx := Mpsc.channel 1 }
        { method := "tick", subId := .num 3 } returned = some (.ok tx) ∧
      tx.queue = [subscriptionResponse "tick" (.num 3) (.int 5)] := by
  intro full
  refine ⟨_, _, rfl, rfl, ?_⟩
  obtain ⟨json, queued, -, wrapped⟩ :=
    @resend_lossless { method := "tick", subId := .num 3 } (.needsData (.int 5))
      [{ call := .trySend, checked := full, isActiveSubscription := true, tx := full },
        { call := .sendTimeout true, checked := full, isActiveSubscription := true, tx := full }]
      _ { call := .send, checked := full, isActiveSubscription := true, tx := Mpsc.channel 1 } _ rfl rfl
  rw [queued, wrapped _ (.inl rfl)]
  rfl

end Resend

end Server

end Jsonrpsee
