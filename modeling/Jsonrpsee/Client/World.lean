import Jsonrpsee.Lib.Run
import Jsonrpsee.Client.Step

/-! # The background tasks in an arbitrary environment

One step is one message of the front-end, one received message, or something
the callers do with the channel ends they hold. Nothing is assumed about the
messages, except that a oneshot sender, which Rust moves into the message, is
handed over once.
-/

namespace Jsonrpsee

/-- What a oneshot sender was handed over for. -/
inductive Registration where
  | call (id : Id)
  | batch (ids : Range)
  | subscription (subscribeId : Id)
  | notification (method : String)
  deriving Repr, DecidableEq

namespace FrontToBack

/-- The oneshot sender in a message. -/
def registration : FrontToBack → Option (OneshotId × Registration)
  | .batch msg => some (msg.sendBack, .batch msg.ids)
  | .request msg => msg.sendBack.map fun oneshot => (oneshot, .call msg.id)
  | .subscribe msg => some (msg.sendBack, .subscription msg.subscribeId)
  | .registerNotification msg => some (msg.sendBack, .notification msg.method)
  | .notification _ | .unregisterNotification _ | .subscriptionClosed _ => none

/-- Record the sender of a message, which must not have been used before. -/
def handOver (msg : FrontToBack) (handed : Table OneshotId Registration) :
    Option (Table OneshotId Registration) :=
  match msg.registration with
  | none => some handed
  | some (oneshot, registration) =>
      match handed.lookup oneshot with
      | none => some (handed.insert oneshot registration)
      | some _ => none

end FrontToBack

structure World where
  backend : Backend
  /-- The oneshot senders handed over so far. -/
  handed : Table OneshotId Registration

inductive Action where
  | front (msg : FrontToBack)
  | recv (raw : List UInt8)
  /-- A caller gave up waiting. -/
  | dropOneshot (oneshot : OneshotId)
  | dropReceiver (sink : SinkId)
  /-- The consumer of a subscription takes an item. -/
  | read (sink : SinkId)

namespace World

def new : World := { backend := .new, handed := ∅ }

def dropOneshot (b : Backend) (oneshot : OneshotId) : Backend :=
  { b with channels := { b.channels with dropped := insert oneshot b.channels.dropped } }

def step (serde : SerdeJson) (cfg : Config) (w : World) : Action → Option World
  | .front msg =>
      (msg.handOver w.handed).map fun handed =>
        { backend := (w.backend.handleFrontendMessages cfg msg).2, handed }
  | .recv raw => some { w with backend := (w.backend.handleRecvMessage serde cfg raw).2 }
  | .dropOneshot oneshot => some { w with backend := dropOneshot w.backend oneshot }
  | .dropReceiver sink =>
      some { w with backend :=
        { w.backend with channels := w.backend.channels.dropReceiver sink } }
  | .read sink =>
      (w.backend.channels.read sink).map fun channels =>
        { w with backend := { w.backend with channels } }

end World

/-! ## A small exchange

The messages and texts that the concrete runs of this development are made of. -/

namespace Exchange

/-- The bytes of an ASCII text. -/
def bytes (text : String) : List UInt8 := text.toList.map fun c => c.toNat.toUInt8

/-- A reader that knows the texts of the exchange. -/
def reader (texts : List (String × Json)) : SerdeJson where
  fromSlice raw :=
    match texts.find? fun entry => bytes entry.1 = raw with
    | some entry => .ok entry.2
    | none => .error "expected value at line 1 column 1"
  toString _ := "null"

/-- The reader knows its first text. -/
theorem reader_head (text : String × Json) (texts : List (String × Json)) :
    (reader (text :: texts)).fromSlice (bytes text.1) = .ok text.2 := by
  simp only [reader, List.find?_cons, decide_true]

/-- Another text is looked for among the rest. -/
theorem reader_tail {text : String × Json} {raw : List UInt8} (other : bytes text.1 ≠ raw)
    (texts : List (String × Json)) :
    (reader (text :: texts)).fromSlice raw = (reader texts).fromSlice raw := by
  simp only [reader, List.find?_cons, other, decide_false]

/-- A subscribe call with its two request ids. -/
def subscribe (subscribeId unsubscribeId : UInt64) (sendBack : OneshotId) : FrontToBack :=
  .subscribe
    { raw := Request.toJson
        { id := .number subscribeId
          method := "subscribe_hello"
          params := some (.arr []) }
      subscribeId := .number subscribeId
      unsubscribeId := .number unsubscribeId
      unsubscribeMethod := "unsubscribe_hello"
      sendBack }

/-- A method call. -/
def call (id : UInt64) (sendBack : OneshotId) : FrontToBack :=
  .request
    { raw := Request.toJson { id := .number id, method := "say_hello", params := none }
      id := .number id
      sendBack := some sendBack }

/-- A successful response. -/
def success (id : UInt64) (result : Nat) : String × Json :=
  ("\x7b\"jsonrpc\":\"2.0\",\"result\":" ++ Nat.repr result ++ ",\"id\":" ++ Nat.repr id.toNat ++ "\x7d",
    .obj [("jsonrpc", .str "2.0"), ("result", .int result), ("id", .int id.toNat)])

/-- A notification of a subscription. -/
def item (subscription result : Nat) : String × Json :=
  ("\x7b\"jsonrpc\":\"2.0\",\"method\":\"hello\",\"params\":\x7b\"subscription\":" ++
      Nat.repr subscription ++ ",\"result\":" ++ Nat.repr result ++ "\x7d\x7d",
    .obj [("jsonrpc", .str "2.0"), ("method", .str "hello"),
      ("params", .obj [("subscription", .int subscription), ("result", .int result)])])

/-- An array of texts. -/
def array (texts : List (String × Json)) : String × Json :=
  ("[" ++ ",".intercalate (texts.map Prod.fst) ++ "]", .arr (texts.map Prod.snd))

/-- Receive a text of the exchange. -/
def received (text : String × Json) : Action := .recv (bytes text.1)

end Exchange

end Jsonrpsee
