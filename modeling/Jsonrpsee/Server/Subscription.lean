import Jsonrpsee.Lib.Run
import Jsonrpsee.Server.RpcService

/-! # Subscriptions of all connections

The state that subscription handlers, unsubscribe callbacks and connections
share: the outgoing channel and the semaphore of every connection, and one table
of subscribers for every subscription method. `accept`, `reject` and the
destructors take several steps; other tasks run in between.
-/

namespace Jsonrpsee

namespace Server

/-- Represent a unique subscription entry. -/
structure SubscriptionKey where
  connId : ConnectionId
  subId : SubscriptionId
  deriving Repr, DecidableEq

/-- A subscription method together with its unsubscribe method. -/
abbrev MethodId := Nat

/-- Names a `PendingSubscriptionSink` and, once accepted, the clones of its
    `SubscriptionSink`. -/
abbrev SinkId := Nat

inductive Stage where
  /-- The handler holds the `PendingSubscriptionSink`. -/
  | pending
  /-- `accept` has put the response on the channel. -/
  | responded (rp : MethodResponse)
  /-- `accept` has completed the subscribe call. -/
  | completed (rp : MethodResponse)
  /-- `reject` has put the error on the channel. -/
  | rejected (rp : MethodResponse)
  /-- All but the permit has been dropped. -/
  | released
  /-- Clones that are in use, that have been seen active by their `drop` and are
      about to be taken off the table, and whose permit is still to be dropped. -/
  | accepted (handles leaving left : Nat)

/-- A subscription from the moment its permit has been acquired. -/
structure Subscription where
  method : MethodId
  /-- The name of its notifications. -/
  notif : String
  uniqSub : SubscriptionKey
  /-- ID of the subscribe call. -/
  id : Id
  stage : Stage

/-- What the subscribe call gets from its `PendingSubscriptionSink`. -/
inductive Answer where
  | sent (rp : MethodResponse)
  /-- The sink was dropped. -/
  | dropped

/-- Who has put a message on a channel. -/
inductive Origin where
  | accept (n : SinkId)
  | reject (n : SinkId)
  | sink (n : SinkId)
  /-- The task of a received message. -/
  | task (t : Nat)
  deriving Repr, DecidableEq

/-- A complete subscription message or partial subscription message. -/
inductive SubscriptionMessage where
  | complete (msg : RawText)
  /-- Need subscription ID and method name. -/
  | needsData (result : RawValue)

structure Conn where
  /-- Free permits of its `BoundedSubscriptions`. -/
  permits : Nat
  isOpen : Bool
  outgoing : List (Origin × RawText)

structure ServerConfig where
  maxSubscriptionsPerConnection : Nat
  maxResponseBodySize : Nat
  /-- Of `MethodSink::new`, which makes the sinks of connections. -/
  maxSinkResponseSize : Nat := 2 ^ 32 - 1

structure Hub where
  conns : Table ConnectionId Conn
  /-- The tables of all methods. The entry holds the receiver whose drop closes the
      sinks of that subscription. -/
  subscribers : Table (MethodId × SubscriptionKey) SinkId
  subs : Table SinkId Subscription
  answers : Table SinkId Answer
  next : SinkId

/-- What a subscribe call brings. -/
structure SubscribeCall where
  connId : ConnectionId
  method : MethodId
  notif : String
  id : Id
  /-- From the id provider. -/
  subId : SubscriptionId

inductive HubAction where
  | connect (conn : ConnectionId)
  | close (conn : ConnectionId)
  | subscribe (call : SubscribeCall)
  | acceptSend (n : SinkId)
  | acceptComplete (n : SinkId)
  /-- The subscribe call is gone, and `accept` fails. -/
  | acceptFail (n : SinkId)
  | acceptInsert (n : SinkId)
  | rejectSend (n : SinkId) (err : ErrorObject)
  | rejectComplete (n : SinkId)
  | dropPending (n : SinkId)
  /-- The permit of a sink that was not accepted is dropped. -/
  | release (n : SinkId)
  | clone (n : SinkId)
  /-- `drop` of a clone checks whether the subscription is active. -/
  | dropCheck (n : SinkId)
  | dropRemove (n : SinkId)
  /-- The clone's share of the permit is dropped. -/
  | dropPermit (n : SinkId)
  | send (n : SinkId) (msg : SubscriptionMessage)
  | unsubscribe (conn : ConnectionId) (method : MethodId) (params : Option RawValue)

/-- The sink that an action is about. -/
def HubAction.sink : HubAction → Option SinkId
  | .connect _ | .close _ | .subscribe _ | .unsubscribe _ _ _ => none
  | .acceptSend n | .acceptComplete n | .acceptFail n | .acceptInsert n | .rejectSend n _ | .rejectComplete n
  | .dropPending n | .release n | .clone n | .dropCheck n | .dropRemove n | .dropPermit n | .send n _ => some n

/-- `params.one::<SubscriptionId>`. -/
def paramsOne : Option RawValue → Option SubscriptionId
  | some (.arr [value]) => SubscriptionId.fromJson value
  | _ => none

def subMessageToJson (msg : SubscriptionMessage) (subId : SubscriptionId) (method : String) : RawText :=
  match msg with
  | .complete msg => msg
  | .needsData result =>
      .ofJson (.obj [("jsonrpc", .str "2.0"), ("method", .str method),
        ("params", .obj [("subscription", subId.toJson), ("result", result)])])

/-- The close notification. The error is a text or a JSON value of the handler. -/
def subErrToJson (error : RawValue) (subId : SubscriptionId) (method : String) : RawText :=
  .ofJson (.obj [("jsonrpc", .str "2.0"), ("method", .str method),
    ("params", .obj [("subscription", subId.toJson), ("error", error)])])

/-- Create a subscription message that is complete already. -/
def SubscriptionMessage.new (method : String) (subscription : SubscriptionId) (result : RawValue) :
    SubscriptionMessage :=
  .complete (.ofJson (.obj [("jsonrpc", .str "2.0"), ("method", .str method),
    ("params", .obj [("subscription", subscription.toJson), ("result", result)])]))

/-- The response of `accept`. -/
def Subscription.acceptResponse (cfg : ServerConfig) (s : Subscription) : MethodResponse :=
  .subscriptionResponse s.id (.payload (.success s.uniqSub.subId.toJson) none) cfg.maxSinkResponseSize

def Conn.new (cfg : ServerConfig) : Conn :=
  { permits := cfg.maxSubscriptionsPerConnection, isOpen := true, outgoing := [] }

def Conn.push (c : Conn) (origin : Origin) (json : RawText) : Conn :=
  if c.isOpen then { c with outgoing := c.outgoing ++ [(origin, json)] } else c

namespace Hub

def new : Hub := { conns := ∅, subscribers := ∅, subs := ∅, answers := ∅, next := 0 }

def isOpen (h : Hub) (conn : ConnectionId) : Bool := (h.conns.lookup conn).any Conn.isOpen

/-- What has been put on the channel of a connection. -/
def outgoing (h : Hub) (conn : ConnectionId) : List (Origin × RawText) := (h.conns.lookup conn).elim [] Conn.outgoing

/-- Change one connection. -/
def onConn (h : Hub) (conn : ConnectionId) (change : Conn → Conn) : Hub :=
  match h.conns.lookup conn with
  | some c => { h with conns := h.conns.insert conn (change c) }
  | none => h

/-- Put a message on the channel of a connection. -/
def push (h : Hub) (conn : ConnectionId) (origin : Origin) (json : RawText) : Hub :=
  h.onConn conn fun c => c.push origin json

def advance (h : Hub) (n : SinkId) (s : Subscription) (stage : Stage) : Hub :=
  { h with subs := h.subs.insert n { s with stage } }

def answer (h : Hub) (n : SinkId) (a : Answer) : Hub := { h with answers := h.answers.insert n a }

/-- The last holder of the permit is gone. -/
def free (h : Hub) (n : SinkId) (s : Subscription) : Hub :=
  { h with subs := h.subs.erase n }.onConn s.uniqSub.connId fun c => { c with permits := c.permits + 1 }

/-- The subscription's entry is in the table. -/
def isActive (h : Hub) (n : SinkId) (s : Subscription) : Bool :=
  h.subscribers.lookup (s.method, s.uniqSub) = some n

/-- Returns whether the subscription is closed. -/
def isClosed (h : Hub) (n : SinkId) (s : Subscription) : Bool := !h.isOpen s.uniqSub.connId || !h.isActive n s

/-- The permit is taken and a `PendingSubscriptionSink` handed to the handler. -/
def enlist (h : Hub) (call : SubscribeCall) : Hub :=
  let h := h.onConn call.connId fun c => { c with permits := c.permits - 1 }
  let s : Subscription :=
    { method := call.method
      notif := call.notif
      uniqSub := { connId := call.connId, subId := call.subId }
      id := call.id
      stage := .pending }
  { h with subs := h.subs.insert h.next s, next := h.next + 1 }

/-- A subscribe call: `BoundedSubscriptions::acquire` decides. -/
def subscribe (cfg : ServerConfig) (h : Hub) (call : SubscribeCall) : Except ErrorObject (SinkId × Hub) :=
  if (h.conns.lookup call.connId).any fun c => 0 < c.permits then .ok (h.next, h.enlist call)
  else .error (rejectTooManySubscriptions cfg.maxSubscriptionsPerConnection)

/-- The callback of an unsubscribe method. -/
def unsubscribe (h : Hub) (conn : ConnectionId) (method : MethodId) (params : Option RawValue) : Bool × Hub :=
  match paramsOne params with
  | none => (false, h)
  | some subId =>
      let key : SubscriptionKey := { connId := conn, subId }
      ((h.subscribers.lookup (method, key)).isSome, { h with subscribers := h.subscribers.erase (method, key) })

/-- A step of the sink `n`, given its subscription. -/
def stepSink (cfg : ServerConfig) (h : Hub) (n : SinkId) (s : Subscription) : HubAction → Option Hub
  | .acceptSend _ =>
      match s.stage with
      | .pending =>
          let rp := s.acceptResponse cfg
          if h.isOpen s.uniqSub.connId then
            some ((h.push s.uniqSub.connId (.accept n) rp.json).advance n s (.responded rp))
          else some ((h.answer n .dropped).advance n s .released)
      | _ => none
  | .acceptComplete _ =>
      match s.stage with
      | .responded rp => some ((h.answer n (.sent rp)).advance n s (.completed rp))
      | _ => none
  | .acceptFail _ =>
      match s.stage with
      | .responded _ => some ((h.answer n .dropped).advance n s .released)
      | _ => none
  | .acceptInsert _ =>
      match s.stage with
      | .completed rp =>
          if rp.isSuccess then
            some ({ h with subscribers := h.subscribers.insert (s.method, s.uniqSub) n }.advance n s (.accepted 1 0 0))
          -- The response was too big: `accept` panics.
          else some (h.advance n s .released)
      | _ => none
  | .rejectSend _ err =>
      match s.stage with
      | .pending =>
          let rp := MethodResponse.subscriptionError s.id err
          some ((h.push s.uniqSub.connId (.reject n) rp.json).advance n s (.rejected rp))
      | _ => none
  | .rejectComplete _ =>
      match s.stage with
      | .rejected rp => some ((h.answer n (.sent rp)).advance n s .released)
      | _ => none
  | .dropPending _ =>
      match s.stage with
      | .pending => some ((h.answer n .dropped).advance n s .released)
      | _ => none
  | .release _ =>
      match s.stage with
      | .released => some (h.free n s)
      | _ => none
  | .clone _ =>
      match s.stage with
      | .accepted (handles + 1) leaving left => some (h.advance n s (.accepted (handles + 2) leaving left))
      | _ => none
  | .dropCheck _ =>
      match s.stage with
      | .accepted (handles + 1) leaving left =>
          if h.isActive n s then some (h.advance n s (.accepted handles (leaving + 1) left))
          else some (h.advance n s (.accepted handles leaving (left + 1)))
      | _ => none
  | .dropRemove _ =>
      match s.stage with
      | .accepted handles (leaving + 1) left =>
          some ({ h with subscribers := h.subscribers.erase (s.method, s.uniqSub) }.advance n s
            (.accepted handles leaving (left + 1)))
      | _ => none
  | .dropPermit _ =>
      match s.stage with
      | .accepted handles leaving (left + 1) =>
          if handles + leaving + left = 0 then some (h.free n s)
          else some (h.advance n s (.accepted handles leaving left))
      | _ => none
  | .send _ msg =>
      match s.stage with
      | .accepted (_ + 1) _ _ =>
          if h.isClosed n s then some h
          else some (h.push s.uniqSub.connId (.sink n) (subMessageToJson msg s.uniqSub.subId s.notif))
      | _ => none
  | .connect _ | .close _ | .subscribe _ | .unsubscribe _ _ _ => none

def step (cfg : ServerConfig) (h : Hub) (a : HubAction) : Option Hub :=
  match a with
  | .connect conn =>
      match h.conns.lookup conn with
      | none => some { h with conns := h.conns.insert conn (.new cfg) }
      | some _ => none
  | .close conn => some (h.onConn conn fun c => { c with isOpen := false })
  | .subscribe call =>
      match h.subscribe cfg call with
      | .ok (_, h) => some h
      | .error _ => some h
  | .unsubscribe conn method params => some (h.unsubscribe conn method params).2
  | .acceptSend n | .acceptComplete n | .acceptFail n | .acceptInsert n | .rejectSend n _ | .rejectComplete n
  | .dropPending n | .release n | .clone n | .dropCheck n | .dropRemove n | .dropPermit n | .send n _ =>
      (h.subs.lookup n).bind fun s => h.stepSink cfg n s a

/-! ## What the operations change -/

section Fields

variable (h : Hub) (conn : ConnectionId) (change : Conn → Conn) (n : SinkId) (s : Subscription)

@[simp, grind =] theorem onConn_subs : (h.onConn conn change).subs = h.subs := by unfold onConn; split <;> rfl

@[simp, grind =] theorem onConn_subscribers : (h.onConn conn change).subscribers = h.subscribers := by
  unfold onConn
  split <;> rfl

@[simp, grind =] theorem onConn_answers : (h.onConn conn change).answers = h.answers := by unfold onConn; split <;> rfl

@[simp, grind =] theorem onConn_next : (h.onConn conn change).next = h.next := by unfold onConn; split <;> rfl

@[simp, grind =] theorem lookup_onConn (conn' : ConnectionId) : (h.onConn conn change).conns.lookup conn' =
    if conn' = conn then (h.conns.lookup conn).map change else h.conns.lookup conn' := by
  unfold onConn
  split
  · rename_i c found
    rw [Table.lookup_insert_ite, found, Option.map_some]
  · rename_i missing
    split
    · rename_i same
      rw [same, missing, Option.map_none]
    · rfl

variable (origin : Origin) (json : RawText)

@[simp, grind =] theorem push_subs : (h.push conn origin json).subs = h.subs := onConn_subs ..

@[simp, grind =] theorem push_subscribers : (h.push conn origin json).subscribers = h.subscribers :=
  onConn_subscribers ..

@[simp, grind =] theorem push_answers : (h.push conn origin json).answers = h.answers := onConn_answers ..

@[simp, grind =] theorem push_next : (h.push conn origin json).next = h.next := onConn_next ..

theorem outgoing_onConn {change : Conn → Conn} (keeps : ∀ c, (change c).outgoing = c.outgoing) (conn' : ConnectionId) :
    (h.onConn conn change).outgoing conn' = h.outgoing conn' := by
  rw [outgoing, outgoing, lookup_onConn]
  split
  · rename_i same
    rw [same]
    cases h.conns.lookup conn with
    | none => rfl
    | some c => exact keeps c
  · rfl

theorem outgoing_push (conn' : ConnectionId) :
    (h.push conn origin json).outgoing conn' =
      h.outgoing conn' ++ if conn' = conn ∧ h.isOpen conn = true then [(origin, json)] else [] := by
  rw [outgoing, outgoing, push, lookup_onConn]
  by_cases same : conn' = conn
  · subst same
    rw [isOpen]
    cases h.conns.lookup conn' with
    | none => simp
    | some c => cases up : c.isOpen <;> simp [Conn.push, up]
  · simp [same]

theorem advance_push_subs (stage : Stage) :
    ((h.push conn origin json).advance n s stage).subs = h.subs.insert n { s with stage } := by
  rw [advance, push_subs]

end Fields

/-- What a step can do. -/
inductive Move (cfg : ServerConfig) (h : Hub) : HubAction → Hub → Prop where
  | connect {conn : ConnectionId} (free : h.conns.lookup conn = none) :
      Move cfg h (.connect conn) { h with conns := h.conns.insert conn (.new cfg) }
  | close {conn : ConnectionId} : Move cfg h (.close conn) (h.onConn conn fun c => { c with isOpen := false })
  | refuse {call : SubscribeCall} (used : ∀ c, h.conns.lookup call.connId = some c → c.permits = 0) :
      Move cfg h (.subscribe call) h
  | subscribe {call : SubscribeCall} {c : Conn} (found : h.conns.lookup call.connId = some c) (free : 0 < c.permits) :
      Move cfg h (.subscribe call) (h.enlist call)
  | unsubscribe {conn : ConnectionId} {method : MethodId} {params : Option RawValue} :
      Move cfg h (.unsubscribe conn method params) (h.unsubscribe conn method params).2
  | respond {n : SinkId} {s : Subscription} (found : h.subs.lookup n = some s) (stage : s.stage = .pending)
      (up : h.isOpen s.uniqSub.connId = true) :
      Move cfg h (.acceptSend n) ((h.push s.uniqSub.connId (.accept n) (s.acceptResponse cfg).json).advance n s
        (.responded (s.acceptResponse cfg)))
  | disconnected {n : SinkId} {s : Subscription} (found : h.subs.lookup n = some s) (stage : s.stage = .pending)
      (down : h.isOpen s.uniqSub.connId = false) :
      Move cfg h (.acceptSend n) ((h.answer n .dropped).advance n s .released)
  | complete {n : SinkId} {s : Subscription} {rp : MethodResponse} (found : h.subs.lookup n = some s)
      (stage : s.stage = .responded rp) :
      Move cfg h (.acceptComplete n) ((h.answer n (.sent rp)).advance n s (.completed rp))
  | fail {n : SinkId} {s : Subscription} {rp : MethodResponse} (found : h.subs.lookup n = some s)
      (stage : s.stage = .responded rp) :
      Move cfg h (.acceptFail n) ((h.answer n .dropped).advance n s .released)
  | insert {n : SinkId} {s : Subscription} {rp : MethodResponse} (found : h.subs.lookup n = some s)
      (stage : s.stage = .completed rp) (success : rp.isSuccess = true) :
      Move cfg h (.acceptInsert n)
        ({ h with subscribers := h.subscribers.insert (s.method, s.uniqSub) n }.advance n s (.accepted 1 0 0))
  | panics {n : SinkId} {s : Subscription} {rp : MethodResponse} (found : h.subs.lookup n = some s)
      (stage : s.stage = .completed rp) (failed : rp.isSuccess = false) :
      Move cfg h (.acceptInsert n) (h.advance n s .released)
  | reject {n : SinkId} {s : Subscription} {err : ErrorObject} (found : h.subs.lookup n = some s)
      (stage : s.stage = .pending) :
      Move cfg h (.rejectSend n err)
        ((h.push s.uniqSub.connId (.reject n) (MethodResponse.subscriptionError s.id err).json).advance n s
          (.rejected (.subscriptionError s.id err)))
  | rejected {n : SinkId} {s : Subscription} {rp : MethodResponse} (found : h.subs.lookup n = some s)
      (stage : s.stage = .rejected rp) :
      Move cfg h (.rejectComplete n) ((h.answer n (.sent rp)).advance n s .released)
  | drop {n : SinkId} {s : Subscription} (found : h.subs.lookup n = some s) (stage : s.stage = .pending) :
      Move cfg h (.dropPending n) ((h.answer n .dropped).advance n s .released)
  | release {n : SinkId} {s : Subscription} (found : h.subs.lookup n = some s) (stage : s.stage = .released) :
      Move cfg h (.release n) (h.free n s)
  | clone {n : SinkId} {s : Subscription} {handles leaving left : Nat} (found : h.subs.lookup n = some s)
      (stage : s.stage = .accepted (handles + 1) leaving left) :
      Move cfg h (.clone n) (h.advance n s (.accepted (handles + 2) leaving left))
  | checkActive {n : SinkId} {s : Subscription} {handles leaving left : Nat} (found : h.subs.lookup n = some s)
      (stage : s.stage = .accepted (handles + 1) leaving left) (active : h.isActive n s = true) :
      Move cfg h (.dropCheck n) (h.advance n s (.accepted handles (leaving + 1) left))
  | checkClosed {n : SinkId} {s : Subscription} {handles leaving left : Nat} (found : h.subs.lookup n = some s)
      (stage : s.stage = .accepted (handles + 1) leaving left) (gone : h.isActive n s = false) :
      Move cfg h (.dropCheck n) (h.advance n s (.accepted handles leaving (left + 1)))
  | remove {n : SinkId} {s : Subscription} {handles leaving left : Nat} (found : h.subs.lookup n = some s)
      (stage : s.stage = .accepted handles (leaving + 1) left) :
      Move cfg h (.dropRemove n)
        ({ h with subscribers := h.subscribers.erase (s.method, s.uniqSub) }.advance n s
          (.accepted handles leaving (left + 1)))
  | dropLast {n : SinkId} {s : Subscription} (found : h.subs.lookup n = some s) (stage : s.stage = .accepted 0 0 1) :
      Move cfg h (.dropPermit n) (h.free n s)
  | dropShare {n : SinkId} {s : Subscription} {handles leaving left : Nat} (found : h.subs.lookup n = some s)
      (stage : s.stage = .accepted handles leaving (left + 1)) (others : handles + leaving + left ≠ 0) :
      Move cfg h (.dropPermit n) (h.advance n s (.accepted handles leaving left))
  | unsent {n : SinkId} {s : Subscription} {msg : SubscriptionMessage} (found : h.subs.lookup n = some s)
      (closed : h.isClosed n s = true) : Move cfg h (.send n msg) h
  | send {n : SinkId} {s : Subscription} {msg : SubscriptionMessage} (found : h.subs.lookup n = some s)
      (up : h.isClosed n s = false) :
      Move cfg h (.send n msg)
        (h.push s.uniqSub.connId (.sink n) (subMessageToJson msg s.uniqSub.subId s.notif))

theorem move_of_step {cfg : ServerConfig} {h h' : Hub} {a : HubAction} (taken : h.step cfg a = some h') :
    Move cfg h a h' := by
  cases a with
  | connect conn =>
      simp only [step] at taken
      split at taken
      · obtain rfl := Option.some.inj taken
        exact .connect ‹_›
      · cases taken
  | close conn =>
      obtain rfl := Option.some.inj taken
      exact .close
  | subscribe call =>
      simp only [step, Hub.subscribe] at taken
      split at taken
      · rename_i given
        split at given
        · rename_i free
          cases given
          obtain rfl := Option.some.inj taken
          obtain ⟨c, found, positive⟩ := (Option.any_eq_true _ _).mp free
          exact .subscribe found (of_decide_eq_true positive)
        · cases given
      · rename_i given
        split at given
        · cases given
        · rename_i used
          obtain rfl := Option.some.inj taken
          refine .refuse fun c found => ?_
          rw [found, Option.any_some, decide_eq_true_iff] at used
          omega
  | unsubscribe conn method params =>
      obtain rfl := Option.some.inj taken
      exact .unsubscribe
  | acceptSend n =>
      obtain ⟨s, found, taken⟩ := Option.bind_eq_some_iff.mp taken
      simp only [stepSink] at taken
      split at taken
      · split at taken <;> obtain rfl := Option.some.inj taken
        · exact .respond found ‹_› ‹_›
        · exact .disconnected found ‹_› (Bool.eq_false_of_not_eq_true ‹_›)
      · cases taken
  | acceptComplete n =>
      obtain ⟨s, found, taken⟩ := Option.bind_eq_some_iff.mp taken
      simp only [stepSink] at taken
      split at taken <;> cases taken
      exact .complete found ‹_›
  | acceptFail n =>
      obtain ⟨s, found, taken⟩ := Option.bind_eq_some_iff.mp taken
      simp only [stepSink] at taken
      split at taken <;> cases taken
      exact .fail found ‹_›
  | acceptInsert n =>
      obtain ⟨s, found, taken⟩ := Option.bind_eq_some_iff.mp taken
      simp only [stepSink] at taken
      split at taken
      · split at taken <;> obtain rfl := Option.some.inj taken
        · exact .insert found ‹_› ‹_›
        · exact .panics found ‹_› (Bool.eq_false_of_not_eq_true ‹_›)
      · cases taken
  | rejectSend n err =>
      obtain ⟨s, found, taken⟩ := Option.bind_eq_some_iff.mp taken
      simp only [stepSink] at taken
      split at taken <;> cases taken
      exact .reject found ‹_›
  | rejectComplete n =>
      obtain ⟨s, found, taken⟩ := Option.bind_eq_some_iff.mp taken
      simp only [stepSink] at taken
      split at taken <;> cases taken
      exact .rejected found ‹_›
  | dropPending n =>
      obtain ⟨s, found, taken⟩ := Option.bind_eq_some_iff.mp taken
      simp only [stepSink] at taken
      split at taken <;> cases taken
      exact .drop found ‹_›
  | release n =>
      obtain ⟨s, found, taken⟩ := Option.bind_eq_some_iff.mp taken
      simp only [stepSink] at taken
      split at taken <;> cases taken
      exact .release found ‹_›
  | clone n =>
      obtain ⟨s, found, taken⟩ := Option.bind_eq_some_iff.mp taken
      simp only [stepSink] at taken
      split at taken <;> cases taken
      exact .clone found ‹_›
  | dropCheck n =>
      obtain ⟨s, found, taken⟩ := Option.bind_eq_some_iff.mp taken
      simp only [stepSink] at taken
      split at taken
      · split at taken <;> obtain rfl := Option.some.inj taken
        · exact .checkActive found ‹_› ‹_›
        · exact .checkClosed found ‹_› (Bool.eq_false_of_not_eq_true ‹_›)
      · cases taken
  | dropRemove n =>
      obtain ⟨s, found, taken⟩ := Option.bind_eq_some_iff.mp taken
      simp only [stepSink] at taken
      split at taken <;> cases taken
      exact .remove found ‹_›
  | dropPermit n =>
      obtain ⟨s, found, taken⟩ := Option.bind_eq_some_iff.mp taken
      simp only [stepSink] at taken
      split at taken
      · rename_i handles leaving left stage
        split at taken <;> obtain rfl := Option.some.inj taken
        · obtain ⟨rfl, rfl, rfl⟩ : handles = 0 ∧ leaving = 0 ∧ left = 0 := by omega
          exact .dropLast found stage
        · exact .dropShare found stage ‹_›
      · cases taken
  | send n msg =>
      obtain ⟨s, found, taken⟩ := Option.bind_eq_some_iff.mp taken
      simp only [stepSink] at taken
      split at taken
      · split at taken <;> obtain rfl := Option.some.inj taken
        · exact .unsent found ‹_›
        · exact .send found (Bool.eq_false_of_not_eq_true ‹_›)
      · cases taken

end Hub

end Server

end Jsonrpsee
