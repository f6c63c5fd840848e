import Jsonrpsee.Lib.Table
import Jsonrpsee.Client.Ids

/-! # Oneshots and subscription channels

The ends of a channel are named by a number. A oneshot is answered at most when
its sender is used: the answer is logged, with whether the receiver was still
there to get it. A subscription channel is bounded; its record also keeps the
items the consumer has already taken out.
-/

namespace Jsonrpsee

abbrev OneshotId := Nat
abbrev SinkId := Nat

/-- What a oneshot of the front-end is answered with. -/
inductive Reply where
  | call (r : Except InvalidRequestId Response)
  | batch (r : Except InvalidRequestId (List Response))
  | subscription (r : Except Error (SinkId × SubscriptionId))
  | notification (r : Except Error (SinkId × String))

/-- The receiving end of a subscription channel inside a reply. -/
def Reply.receiver : Reply → Option SinkId
  | .subscription (.ok (sink, _)) | .notification (.ok (sink, _)) => some sink
  | _ => none

/-- One use of a oneshot sender. -/
structure Answer where
  oneshot : OneshotId
  reply : Reply
  /-- The receiver had not been dropped. -/
  delivered : Bool

/-- A subscription channel: `SubscriptionSender` and `SubscriptionReceiver`. -/
structure Sink where
  capacity : Nat
  buffer : List RawValue
  /-- What the consumer has obtained so far. -/
  taken : List RawValue
  lagged : Bool
  receiverDropped : Bool

/-- The channels between the front-end and the background tasks. -/
structure Channels where
  /-- Oneshots whose receiver has been dropped. -/
  dropped : Finset OneshotId
  answers : List Answer
  sinks : Table SinkId Sink
  nextSink : SinkId

/-- Why an item was not put into a subscription channel. -/
inductive TrySubscriptionSendError where
  | closed
  | tooSlow (m : RawValue)

namespace Channels

def empty : Channels := { dropped := ∅, answers := [], sinks := ∅, nextSink := 0 }

def updateSink (ch : Channels) (sink : SinkId) (f : Sink → Sink) : Channels :=
  match ch.sinks.lookup sink with
  | none => ch
  | some record => { ch with sinks := ch.sinks.insert sink (f record) }

def dropReceiver (ch : Channels) (sink : SinkId) : Channels :=
  ch.updateSink sink fun record => { record with receiverDropped := true }

/-- Whether the receiver of a oneshot is still there. -/
def isOpen (ch : Channels) (oneshot : OneshotId) : Bool := oneshot ∉ ch.dropped

/-- Use a oneshot sender. A reply nobody waits for is dropped with whatever it
    holds. -/
def send (ch : Channels) (oneshot : OneshotId) (reply : Reply) : Channels :=
  let logged := { ch with answers := ch.answers ++ [{ oneshot, reply, delivered := ch.isOpen oneshot }] }
  if ch.isOpen oneshot then logged
  else match reply.receiver with
    | some sink => logged.dropReceiver sink
    | none => logged

/-- Create a bounded channel. -/
def subscriptionChannel (ch : Channels) (maxBufSize : Nat) : SinkId × Channels :=
  let record : Sink :=
    { capacity := maxBufSize, buffer := [], taken := [], lagged := false, receiverDropped := false }
  (ch.nextSink, { ch with sinks := ch.sinks.insert ch.nextSink record, nextSink := ch.nextSink + 1 })

/-- `SubscriptionSender::send`: never waits, and marks the channel as lagged
    when an item is lost. -/
def trySend (ch : Channels) (sink : SinkId) (msg : RawValue) :
    Except TrySubscriptionSendError Unit × Channels :=
  match ch.sinks.lookup sink with
  | none => (.error .closed, ch)
  | some record =>
      if record.receiverDropped then (.error .closed, ch)
      else if record.buffer.length < record.capacity then
        (.ok (), ch.updateSink sink fun record => { record with buffer := record.buffer ++ [msg] })
      else (.error (.tooSlow msg), ch.updateSink sink fun record => { record with lagged := true })

/-- The consumer takes the oldest item. -/
def read (ch : Channels) (sink : SinkId) : Option Channels :=
  match ch.sinks.lookup sink with
  | none => none
  | some record =>
      match record.buffer with
      | [] => none
      | item :: rest =>
          if record.receiverDropped then none
          else some (ch.updateSink sink fun record =>
            { record with buffer := rest, taken := record.taken ++ [item] })

/-! ## What the operations leave alone -/

section Frame

variable (ch : Channels) (sink : SinkId) (oneshot : OneshotId)

@[simp] theorem updateSink_answers (f : Sink → Sink) : (ch.updateSink sink f).answers = ch.answers := by
  unfold updateSink
  split <;> rfl

@[simp] theorem dropReceiver_answers : (ch.dropReceiver sink).answers = ch.answers :=
  updateSink_answers ch sink _

/-- A oneshot is logged by every use. -/
@[simp] theorem send_answers (reply : Reply) :
    (ch.send oneshot reply).answers =
      ch.answers ++ [{ oneshot, reply, delivered := ch.isOpen oneshot }] := by
  unfold send
  dsimp only
  split
  · rfl
  · split
    · rw [dropReceiver_answers]
    · rfl

@[simp] theorem subscriptionChannel_answers (maxBufSize : Nat) :
    (ch.subscriptionChannel maxBufSize).2.answers = ch.answers := rfl

@[simp] theorem trySend_answers (msg : RawValue) : (ch.trySend sink msg).2.answers = ch.answers := by
  unfold trySend
  split
  · rfl
  · split
    · rfl
    · split <;> simp only [updateSink_answers]

/-- A read takes the oldest item out of the record. -/
theorem read_cases {after : Channels} (read : ch.read sink = some after) :
    ∃ record item rest, ch.sinks.lookup sink = some record ∧ record.buffer = item :: rest ∧
      after = ch.updateSink sink fun record =>
        { record with buffer := rest, taken := record.taken ++ [item] } := by
  unfold Channels.read at read
  split at read
  · cases read
  · rename_i record found
    split at read
    · cases read
    · rename_i item rest next
      split at read
      · cases read
      · exact ⟨record, item, rest, found, next, (Option.some.inj read).symm⟩

theorem read_answers {after : Channels} (read : ch.read sink = some after) :
    after.answers = ch.answers := by
  obtain ⟨record, item, rest, -, -, rfl⟩ := read_cases ch sink read
  exact updateSink_answers ch sink _

@[simp] theorem updateSink_nextSink (f : Sink → Sink) :
    (ch.updateSink sink f).nextSink = ch.nextSink := by
  unfold updateSink
  split <;> rfl

@[simp, grind =] theorem send_nextSink (reply : Reply) : (ch.send oneshot reply).nextSink = ch.nextSink := by
  unfold send
  dsimp only
  split
  · rfl
  · split
    · exact updateSink_nextSink _ _ _
    · rfl

@[simp, grind =] theorem subscriptionChannel_nextSink (maxBufSize : Nat) :
    (ch.subscriptionChannel maxBufSize).2.nextSink = ch.nextSink + 1 := rfl

@[simp, grind =] theorem trySend_nextSink (msg : RawValue) :
    (ch.trySend sink msg).2.nextSink = ch.nextSink := by
  unfold trySend
  split
  · rfl
  · split
    · rfl
    · split <;> simp only [updateSink_nextSink]

theorem read_nextSink {after : Channels} (read : ch.read sink = some after) :
    after.nextSink = ch.nextSink := by
  obtain ⟨record, item, rest, -, -, rfl⟩ := read_cases ch sink read
  exact updateSink_nextSink ch sink _

end Frame

/-! ## The record of one channel -/

section Record

variable (ch : Channels) {sink other : SinkId}

theorem updateSink_lookup (f : Sink → Sink) :
    (ch.updateSink sink f).sinks.lookup sink = (ch.sinks.lookup sink).map f := by
  unfold updateSink
  split
  · rename_i missing
    simp only [missing, Option.map_none]
  · rename_i record found
    simp only [found, Finmap.lookup_insert, Option.map_some]

theorem updateSink_lookup_of_ne (f : Sink → Sink) (different : other ≠ sink) :
    (ch.updateSink sink f).sinks.lookup other = ch.sinks.lookup other := by
  unfold updateSink
  split
  · rfl
  · exact Finmap.lookup_insert_of_ne _ different

/-- A reply closes at most the channel it carries. -/
theorem send_lookup {oneshot : OneshotId} {reply : Reply} (uncarried : reply.receiver ≠ some other) :
    (ch.send oneshot reply).sinks.lookup other = ch.sinks.lookup other := by
  unfold send
  dsimp only
  split
  · rfl
  · split
    · rename_i sink carried
      exact updateSink_lookup_of_ne _ _ fun same => uncarried (same ▸ carried)
    · rfl

theorem send_sinks_of_open {oneshot : OneshotId} {reply : Reply} (waiting : ch.isOpen oneshot = true) :
    (ch.send oneshot reply).sinks = ch.sinks := by
  unfold send
  simp only [waiting, if_true]

theorem subscriptionChannel_lookup {maxBufSize : Nat} (old : other < ch.nextSink) :
    (ch.subscriptionChannel maxBufSize).2.sinks.lookup other = ch.sinks.lookup other :=
  Finmap.lookup_insert_of_ne _ (Nat.ne_of_lt old)

theorem trySend_lookup_of_ne (msg : RawValue) (different : other ≠ sink) :
    (ch.trySend sink msg).2.sinks.lookup other = ch.sinks.lookup other := by
  unfold trySend
  split
  · rfl
  · split
    · rfl
    · split <;> exact updateSink_lookup_of_ne _ _ different

end Record

end Channels

end Jsonrpsee
