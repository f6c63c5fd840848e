import Jsonrpsee.Client.Delivery
import Jsonrpsee.Duplex.Reading
import Jsonrpsee.Types.Equality

/-! # A client and this server, with a connection between them

The frames of the client reach the server in the order in which they were sent,
and the messages on the channel of the connection reach the client in theirs.
In between, the calls of the public interface, the background tasks of the
client, the tasks of the server and the handlers take their steps in any order.
Other clients may be connected to the same server. Neither side closes the
connection, and every text is within the size that its receiver takes, which is
`max_request_body_size` for the server and `max_response_size` for the client:
what becomes of a longer one, or of a connection that ends, is no part of a link.
-/

namespace Jsonrpsee

open Server

/-- Both ends of the connection. -/
structure Link where
  /-- Of the client. -/
  serde : SerdeJson
  cfg : Config
  idKind : IdKind
  service : Service
  conn : ConnectionId

structure Duplex where
  client : Client
  serving : Serving
  /-- What the client has put on the wire. -/
  frames : List Json
  /-- How many frames have reached the server. -/
  arrived : Nat
  /-- How many messages of the server have reached the client. -/
  read : Nat

inductive DuplexAction where
  | client (a : ClientAction)
  | server (a : ServingAction)
  /-- The server receives the next frame. -/
  | up (extensions : Extensions)
  /-- The client receives the next message. -/
  | down

namespace Link

variable (link : Link)

/-- The connection has been made. -/
def new : Duplex :=
  { client := .new link.idKind
    serving := { Serving.new with hub := { Hub.new with
      conns := Finmap.insert link.conn (Conn.new link.service.cfg) ∅ } }
    frames := []
    arrived := 0
    read := 0 }

/-- The messages of the server for this client. -/
def messages (d : Duplex) : List (Origin × RawText) := d.serving.hub.outgoing link.conn

/-- The action receives something on this connection from nowhere. -/
def isForged : ServingAction → Bool
  | .receive conn _ _ => conn = link.conn
  | .hub _ | .task _ _ => false

def step (d : Duplex) : DuplexAction → Option Duplex
  | .client (.receive _) => none
  | .client a =>
      (d.client.step link.serde link.cfg a).map fun client =>
        { d with client, frames := d.frames ++ d.client.frames link.cfg a }
  | .server a =>
      if link.isForged a then none
      else (d.serving.step link.service a).map fun serving => { d with serving }
  | .up extensions =>
      d.frames[d.arrived]?.bind fun frame =>
        (d.serving.step link.service (.receive link.conn frame.bytes extensions)).map fun serving =>
          { d with serving, arrived := d.arrived + 1 }
  | .down =>
      (link.messages d)[d.read]?.bind fun message =>
        (d.client.step link.serde link.cfg (.receive message.2.bytes)).map fun client =>
          { d with client, read := d.read + 1 }

/-- What the two sides rely on: texts are read as what they denote, batches are
    let through, handlers use the public constructors, and on the open
    connection no blocking callback panics, no batch response gets too big and no
    handler answers for a call of a batch. -/
structure Fair (t : Transition Duplex DuplexAction) : Prop where
  calm : t.after.serving.Calm link.conn
  built : ∀ a, t.action = .server a → a.Built
  up : ∀ extensions frame, t.action = .up extensions → t.before.frames[t.before.arrived]? = some frame →
    link.service.serde.fromSlice frame.bytes = .ok frame ∧ ServerAdmits link.service frame
  down : ∀ message, t.action = .down → (link.messages t.before)[t.before.read]? = some message →
    link.serde.fromSlice message.2.bytes = .ok message.2.value

end Link

/-! ## The two sides of a run -/

/-- What the client sees of a step. -/
def Link.clientStep (link : Link) (t : Transition Duplex DuplexAction) : Option (Transition Client ClientAction) :=
  match t.action with
  | .client a => some ⟨t.before.client, a, t.after.client⟩
  | .down => (link.messages t.before)[t.before.read]?.map fun message =>
      ⟨t.before.client, .receive message.2.bytes, t.after.client⟩
  | .server _ | .up _ => none

/-- What the server sees of a step. -/
def Link.serverStep (link : Link) (t : Transition Duplex DuplexAction) : Option (Transition Serving ServingAction) :=
  match t.action with
  | .server a => some ⟨t.before.serving, a, t.after.serving⟩
  | .up extensions => t.before.frames[t.before.arrived]?.map fun frame =>
      ⟨t.before.serving, .receive link.conn frame.bytes extensions, t.after.serving⟩
  | .client _ | .down => none

namespace Link

variable {link : Link} {d d' : Duplex}

/-- Everything that a step of the link can be. -/
inductive Move (link : Link) (d : Duplex) : DuplexAction → Duplex → Prop where
  | client {a : ClientAction} {client : Client} (front : ∀ raw, a ≠ .receive raw)
      (moved : d.client.step link.serde link.cfg a = some client) :
      Move link d (.client a) { d with client, frames := d.frames ++ d.client.frames link.cfg a }
  | server {a : ServingAction} {serving : Serving} (genuine : link.isForged a = false)
      (moved : d.serving.step link.service a = some serving) : Move link d (.server a) { d with serving }
  | up {extensions : Extensions} {frame : Json} {serving : Serving} (next : d.frames[d.arrived]? = some frame)
      (moved : d.serving.step link.service (.receive link.conn frame.bytes extensions) = some serving) :
      Move link d (.up extensions) { d with serving, arrived := d.arrived + 1 }
  | down {message : Origin × RawText} {client : Client} (next : (link.messages d)[d.read]? = some message)
      (moved : d.client.step link.serde link.cfg (.receive message.2.bytes) = some client) :
      Move link d .down { d with client, read := d.read + 1 }

theorem move_of_step {a : DuplexAction} (taken : link.step d a = some d') : link.Move d a d' := by
  cases a with
  | client a =>
      have front : ∀ raw, a ≠ .receive raw := by
        rintro raw rfl
        cases taken
      have taken : (d.client.step link.serde link.cfg a).map (fun client =>
          ({ d with client, frames := d.frames ++ d.client.frames link.cfg a } : Duplex)) = some d' := by
        cases a with
        | receive raw => exact absurd rfl (front raw)
        | _ => exact taken
      obtain ⟨client, moved, rfl⟩ := Option.map_eq_some_iff.mp taken
      exact .client front moved
  | server a =>
      simp only [step] at taken
      split at taken
      · cases taken
      · rename_i genuine
        obtain ⟨serving, moved, rfl⟩ := Option.map_eq_some_iff.mp taken
        exact .server (Bool.eq_false_of_not_eq_true genuine) moved
  | up extensions =>
      obtain ⟨frame, next, taken⟩ := Option.bind_eq_some_iff.mp taken
      obtain ⟨serving, moved, rfl⟩ := Option.map_eq_some_iff.mp taken
      exact .up next moved
  | down =>
      obtain ⟨message, next, taken⟩ := Option.bind_eq_some_iff.mp taken
      obtain ⟨client, moved, rfl⟩ := Option.map_eq_some_iff.mp taken
      exact .down next moved

theorem step_of_move {a : DuplexAction} (move : link.Move d a d') : link.step d a = some d' := by
  cases move with
  | @client a client front moved =>
      have taken : (d.client.step link.serde link.cfg a).map (fun client =>
          ({ d with client, frames := d.frames ++ d.client.frames link.cfg a } : Duplex)) =
          some { d with client, frames := d.frames ++ d.client.frames link.cfg a } := by
        rw [moved, Option.map_some]
      cases a with
      | receive raw => exact absurd rfl (front raw)
      | _ => exact taken
  | @server a serving genuine moved =>
      simp only [step, genuine, moved, Option.map_some]
      rfl
  | up next moved => simp only [step, next, moved, Option.bind_some, Option.map_some]
  | down next moved => simp only [step, next, moved, Option.bind_some, Option.map_some]

variable {ts : List (Transition Duplex DuplexAction)}

/-- A run of the link is a run of the client, and the frames are those of the client. -/
theorem client_run (run : Run link.step link.new ts d) :
    Run (Client.step link.serde link.cfg) (.new link.idKind) (ts.filterMap link.clientStep) d.client ∧
      d.frames = Client.wire link.cfg (ts.filterMap link.clientStep) := by
  induction run with
  | nil => exact ⟨.nil, rfl⟩
  | snoc earlier taken ih =>
      obtain ⟨before, frames⟩ := ih
      rw [List.filterMap_append, filterMap_toList]
      cases move_of_step taken with
      | client front moved =>
          refine ⟨before.snoc moved, ?_⟩
          dsimp only
          rw [frames, Client.wire, Client.wire, List.flatMap_append]
          simp only [clientStep, Option.toList_some, List.flatMap_singleton]
          rfl
      | server | up =>
          simp only [clientStep, Option.toList_none, List.append_nil]
          exact ⟨before, frames⟩
      | down next moved =>
          simp only [clientStep, next, Option.map_some, Option.toList_some]
          refine ⟨before.snoc moved, ?_⟩
          rw [frames, Client.wire, Client.wire, List.flatMap_append]
          simp only [List.flatMap_singleton, Client.sentFrames, List.append_nil]

/-- The server sees the connection being made, and then its part of a run. -/
def serverTrace (link : Link) (ts : List (Transition Duplex DuplexAction)) : List (Transition Serving ServingAction) :=
  ⟨.new, .hub (.connect link.conn), link.new.serving⟩ :: ts.filterMap link.serverStep

theorem server_run (run : Run link.step link.new ts d) :
    Run (Serving.step link.service) .new (link.serverTrace ts) d.serving := by
  induction run with
  | nil =>
      have connected : Serving.new.step link.service (.hub (.connect link.conn)) = some link.new.serving := rfl
      exact Run.nil.snoc connected
  | snoc earlier taken ih =>
      rw [serverTrace, List.filterMap_append, filterMap_toList, ← List.cons_append]
      cases move_of_step taken with
      | client | down =>
          simp only [serverStep, Option.toList_none, List.append_nil]
          exact ih
      | server genuine moved =>
          simp only [serverStep, Option.toList_some]
          exact ih.snoc moved
      | up next moved =>
          simp only [serverStep, next, Option.map_some, Option.toList_some]
          exact ih.snoc moved

/-- The part of the server stands in the run. -/
theorem of_serverTrace {u : Transition Serving ServingAction} (seen : u ∈ link.serverTrace ts) :
    u.before = .new ∧ u.action = .hub (.connect link.conn) ∨
      ∃ t ∈ ts, u.before = t.before.serving ∧ (t.action = .server u.action ∨
        ∃ data extensions, u.action = .receive link.conn data extensions) := by
  rcases List.mem_cons.mp seen with rfl | member
  · exact .inl ⟨rfl, rfl⟩
  · obtain ⟨t, there, same⟩ := List.mem_filterMap.mp member
    unfold serverStep at same
    split at same
    · rename_i action
      obtain rfl := Option.some.inj same
      exact .inr ⟨t, there, rfl, .inl action⟩
    · obtain ⟨frame, -, rfl⟩ := Option.map_eq_some_iff.mp same
      exact .inr ⟨t, there, rfl, .inr ⟨_, _, rfl⟩⟩
    · cases same
    · cases same

end Link

/-- What the client waits for. -/
def Client.owed (c : Client) : List Ask := c.calls.map .single ++ c.batches.map fun ids => .batch ids

namespace Duplex

variable {link : Link} {d d' : Duplex}

/-- What the messages that have reached the client answer. -/
def delivered (link : Link) (d : Duplex) : List Ask :=
  ((link.messages d).take d.read).filterMap fun message => answerTo message.2.value

/-- How the two sides stand to each other. -/
structure Matched (link : Link) (d : Duplex) : Prop where
  serving : ∃ us, Run (Serving.step link.service) .new us d.serving ∧ ∀ u ∈ us, u.action.Built
  client : d.client.Sound link.idKind
  queued : ∀ msg ∈ d.client.inFlight, msg.Framed
  framed : ∀ frame ∈ d.frames, Frame frame
  arrived : d.arrived ≤ d.frames.length
  read : d.read ≤ (link.messages d).length
  /-- The server has been asked for what has reached it. -/
  asked : d.serving.asked link.conn = (d.frames.take d.arrived).filterMap askOf
  /-- The tasks of the connection handle its frames. -/
  sources : ∀ {t task}, d.serving.tasks.lookup t = some task → task.conn = link.conn → ∃ frame ∈ d.frames, ∃ extensions,
    link.service.serde.fromSlice frame.bytes = .ok frame ∧ ServerAdmits link.service frame ∧
      task.message = link.service.read frame.bytes extensions
  /-- The client waits for what it has asked for and has not got. -/
  ledger : (d.frames.filterMap askOf).Perm (d.client.owed ++ d.delivered link)

theorem Matched.new (link : Link) : Matched link link.new where
  serving := by
    have connected : Serving.new.step link.service (.hub (.connect link.conn)) = some link.new.serving := rfl
    exact ⟨_, Run.nil.snoc connected, by simp [ServingAction.Built, HubAction.Built]⟩
  client := .new
  queued _ member := by cases member
  framed _ member := by cases member
  arrived := Nat.le_refl 0
  read := Nat.zero_le _
  asked := rfl
  sources found := by cases found
  ledger := by simp [Link.new, Client.owed, Client.new, delivered]

/-- The messages the client has received stay what they are. -/
theorem messages_kept {serving : Serving} (read : d.read ≤ (link.messages d).length)
    (grows : d.serving.hub.outgoing link.conn <+: serving.hub.outgoing link.conn) :
    (link.messages { d with serving }).take d.read = (link.messages d).take d.read := by
  obtain ⟨rest, grown⟩ := grows
  have messages : link.messages { d with serving } = link.messages d ++ rest := grown.symm
  rw [messages, List.take_append_of_le_length read]

theorem delivered_of_prefix {serving : Serving} (read : d.read ≤ (link.messages d).length)
    (grows : d.serving.hub.outgoing link.conn <+: serving.hub.outgoing link.conn) :
    delivered link { d with serving } = d.delivered link ∧ d.read ≤ (link.messages { d with serving }).length := by
  constructor
  · unfold delivered
    rw [messages_kept read grows]
  · exact read.trans grows.length_le

/-- The front-end and `send_task` take a step. -/
theorem Matched.of_client (matched : Matched link d) {a : ClientAction} {client : Client}
    (front : ∀ raw, a ≠ .receive raw) (taken : d.client.step link.serde link.cfg a = some client) :
    Matched link { d with client, frames := d.frames ++ d.client.frames link.cfg a } := by
  obtain ⟨queued, framed⟩ := Client.framed_of_step taken front matched.queued
  obtain ⟨calls, batches⟩ := Client.owed_of_step taken front
  have sound := matched.client.of_move (Client.move_of_step taken front)
  refine ⟨matched.serving, sound, queued, ?_, ?_, matched.read, ?_, ?_, ?_⟩
  · intro frame member
    exact (List.mem_append.mp member).elim (matched.framed frame) (framed frame)
  · rw [List.length_append]
    exact Nat.le_add_right_of_le matched.arrived
  · rw [matched.asked, List.take_append_of_le_length matched.arrived]
  · intro t task found here
    obtain ⟨frame, member, source⟩ := matched.sources found here
    exact ⟨frame, List.mem_append_left _ member, source⟩
  · have new := filterMap_askOf_perm (d.client.frames link.cfg a)
    have ledger := matched.ledger
    have same : delivered link { d with client, frames := d.frames ++ d.client.frames link.cfg a } = d.delivered link := rfl
    rw [same, List.perm_iff_count]
    rw [List.perm_iff_count] at new ledger
    intro ask
    have here := ledger ask
    have added := new ask
    simp only [Client.owed, calls, batches, List.filterMap_append, List.map_append, List.count_append] at here added ⊢
    omega

/-- The server takes a step that receives nothing on this connection. -/
theorem Matched.of_server (matched : Matched link d) {a : ServingAction} {serving : Serving}
    (built : a.Built) (other : link.isForged a = false) (taken : d.serving.step link.service a = some serving) :
    Matched link { d with serving } := by
  obtain ⟨us, run, all⟩ := matched.serving
  obtain ⟨delivered, read⟩ := delivered_of_prefix matched.read (Serving.outgoing_prefix taken)
  have elsewhere : ∀ data extensions, a ≠ .receive link.conn data extensions := by
    rintro data extensions rfl
    simp [Link.isForged] at other
  refine ⟨⟨_, run.snoc taken, ?_⟩, matched.client, matched.queued, matched.framed, matched.arrived, read, ?_, ?_, ?_⟩
  · intro u member
    rcases List.mem_append.mp member with earlier | last
    · exact all u earlier
    · exact List.mem_singleton.mp last ▸ built
  · rw [Serving.asked_of_step taken elsewhere]
    exact matched.asked
  · intro t task found here
    rcases Serving.task_of_step taken found with ⟨before, was, sameConn, sameMessage, -⟩ | ⟨-, data, extensions, rfl, -⟩
    · rw [← sameMessage]
      exact matched.sources was (sameConn.trans here)
    · exact absurd (here ▸ rfl) (elsewhere data extensions)
  · rw [delivered]
    exact matched.ledger

/-- The next frame reaches the server. -/
theorem Matched.of_up (matched : Matched link d) {extensions : Extensions} {frame : Json} {serving : Serving}
    (next : d.frames[d.arrived]? = some frame) (reads : link.service.serde.fromSlice frame.bytes = .ok frame)
    (admitted : ServerAdmits link.service frame)
    (taken : d.serving.step link.service (.receive link.conn frame.bytes extensions) = some serving) :
    Matched link { d with serving, arrived := d.arrived + 1 } := by
  obtain ⟨us, run, all⟩ := matched.serving
  obtain ⟨delivered, read⟩ := delivered_of_prefix matched.read (Serving.outgoing_prefix taken)
  have framed := matched.framed frame (List.mem_of_getElem? next)
  obtain ⟨asks, -⟩ := read_frame extensions framed reads admitted
  refine ⟨⟨_, run.snoc taken, ?_⟩, matched.client, matched.queued, matched.framed, ?_, read, ?_, ?_, ?_⟩
  · intro u member
    rcases List.mem_append.mp member with earlier | last
    · exact all u earlier
    · exact List.mem_singleton.mp last ▸ trivial
  · exact (List.getElem?_eq_some_iff.mp next).1
  · have later : d.frames.take (d.arrived + 1) = d.frames.take d.arrived ++ [frame] := by
      rw [List.take_add_one, next, Option.toList_some]
    rw [Serving.asked_receive taken, if_pos rfl, asks, matched.asked, later, List.filterMap_append]
    cases ask : askOf frame <;> simp [ask]
  · intro t task found here
    rcases Serving.task_of_step taken found with ⟨before, was, sameConn, sameMessage, -⟩ | ⟨-, data, extensions', same, message⟩
    · rw [← sameMessage]
      exact matched.sources was (sameConn.trans here)
    · have bytes : frame.bytes = data ∧ extensions = extensions' := by
        injection same with _ data_ extensions_
        exact ⟨data_, extensions_⟩
      obtain ⟨rfl, rfl⟩ := bytes
      exact ⟨frame, List.mem_of_getElem? next, extensions, reads, admitted, message⟩
  · have same : Duplex.delivered link { d with serving, arrived := d.arrived + 1 } =
        Duplex.delivered link { d with serving } := rfl
    rw [same, delivered]
    exact matched.ledger

/-- The server owes the client what it has on the channel. -/
theorem Matched.orderly (matched : Matched link d) (calm : d.serving.Calm link.conn) : d.serving.Orderly link.conn := by
  obtain ⟨us, run, built⟩ := matched.serving
  refine ⟨calm, fun found here => ?_, fun n json member => ?_⟩
  · obtain ⟨frame, member, extensions, reads, admitted, message⟩ := matched.sources found here
    rw [message]
    exact (read_frame extensions (matched.framed frame member) reads admitted).2
  · exact answerTo_notice ((Serving.formed run built).hub.channels member)

/-- What the next message of the server answers, the client waits for. -/
theorem Matched.mem_owed (matched : Matched link d) (calm : d.serving.Calm link.conn) {message : Origin × RawText}
    (next : (link.messages d)[d.read]? = some message) {ask : Ask} (answers : answerTo message.2.value = some ask) :
    ask ∈ d.client.owed := by
  obtain ⟨us, run, -⟩ := matched.serving
  -- The channel holds what has been delivered, this message, and the rest.
  have within := (matched.orderly calm).within run
  have shape : d.serving.hub.outgoing link.conn =
      (link.messages d).take d.read ++ message :: (link.messages d).drop (d.read + 1) := by
    obtain ⟨inside, here⟩ := List.getElem?_eq_some_iff.mp next
    rw [← here, ← List.drop_eq_getElem_cons inside, List.take_append_drop]
    rfl
  have answered : d.serving.answered link.conn = d.delivered link ++ ask ::
      ((link.messages d).drop (d.read + 1)).filterMap fun message => answerTo message.2.value := by
    simp only [Serving.answered, shape, List.filterMap_append, List.filterMap_cons, answers, delivered]
  have whole := (within.count_le ask).trans ((matched.asked ▸ (List.take_sublist _ _).filterMap askOf).count_le ask)
  rw [matched.ledger.count_eq, answered] at whole
  simp only [List.count_append, List.count_cons_self] at whole
  exact List.count_pos_iff.mp (by omega)

/-- The client gets a text. -/
theorem receive_settles {serde : SerdeJson} {cfg : Config} {c c' : Client} {raw : List UInt8}
    (taken : c.step serde cfg (.receive raw) = some c') :
    c'.calls = (c.settle serde raw).calls ∧ c'.batches = (c.settle serde raw).batches := by
  simp only [Client.step] at taken
  split at taken <;> obtain rfl := Option.some.inj taken <;> exact ⟨rfl, rfl⟩

/-- The answer to a call is no longer waited for. -/
theorem owed_of_single {serde : SerdeJson} {c c' : Client} {raw : List UInt8} {rp : Response}
    (holds : serde.single raw = some rp) (owed : rp.id ∈ c.calls)
    (calls : c'.calls = (c.settle serde raw).calls) (batches : c'.batches = (c.settle serde raw).batches) :
    c.owed.Perm (.single rp.id :: c'.owed) := by
  simp only [Client.settle, holds] at calls batches
  rw [Client.owed, Client.owed, calls, batches, ← List.cons_append, ← List.map_cons]
  exact ((List.perm_cons_erase owed).map Ask.single).append_right _

/-- The answer to a batch is no longer waited for. -/
theorem owed_of_responses {serde : SerdeJson} {c c' : Client} {raw : List UInt8} {rps : List Response} {ids : List Id}
    (holds : serde.responses raw = some rps) (owed : ids ∈ c.batches) (same : (rps.map Response.id).Perm ids)
    (calls : c'.calls = (c.settle serde raw).calls) (batches : c'.batches = (c.settle serde raw).batches) :
    c.owed.Perm (.batch (rps.map Response.id) :: c'.owed) := by
  simp only [Client.settle, SerdeJson.single_of_responses holds, holds] at calls batches
  obtain ⟨first, before, after, -, found, shape, erased⟩ := List.exists_of_eraseP owed (List.isPerm_iff.mpr same)
  have own : Ask.batch (rps.map Response.id) = .batch first :=
    congrArg Ask.batch (Multiset.coe_eq_coe.mpr (List.isPerm_iff.mp found))
  rw [Client.owed, Client.owed, calls, batches, erased, own]
  conv_lhs => rw [shape]
  simp only [List.map_append, List.map_cons, ← List.append_assoc]
  exact List.perm_middle

/-- What the server spoken next is what a conformant server would say. -/
theorem Matched.conforms (matched : Matched link d) (calm : d.serving.Calm link.conn) {message : Origin × RawText}
    (next : (link.messages d)[d.read]? = some message)
    (reads : link.serde.fromSlice message.2.bytes = .ok message.2.value) {client : Client}
    (taken : d.client.step link.serde link.cfg (.receive message.2.bytes) = some client) :
    d.client.Expects link.serde message.2.bytes ∧
      d.client.owed.Perm ((answerTo message.2.value).toList ++ client.owed) := by
  obtain ⟨us, run, built⟩ := matched.serving
  obtain ⟨calls, batches⟩ := receive_settles taken
  have spoken := (Serving.formed run built).hub.channels (List.mem_of_getElem? next)
  have owes := @Matched.mem_owed link d matched calm message next
  obtain ⟨origin, json⟩ := message
  rcases spoken.forms with ⟨rp, ⟨r, built, same⟩, rfl⟩ | ⟨rps, -, formed, rfl⟩ | notice
  · obtain ⟨single, answers⟩ := reads_response built same reads
    have member : r.id ∈ d.client.calls := by
      have owed := owes answers
      simpa [Client.owed] using owed
    have settled := owed_of_single single member calls batches
    refine ⟨.inl ⟨_, single, member⟩, ?_⟩
    rw [answers]
    exact settled
  · obtain ⟨rs, responses, answers, -⟩ := reads_batch formed reads
    obtain ⟨ids, member, same⟩ : ∃ ids ∈ d.client.batches, (rs.map Response.id).Perm ids := by
      have owed := owes answers
      simp only [Client.owed, List.mem_append, List.mem_map, reduceCtorEq, and_false, exists_false, false_or,
        Ask.batch.injEq] at owed
      obtain ⟨ids, member, same⟩ := owed
      exact ⟨ids, member, (Multiset.coe_eq_coe.mp same).symm⟩
    refine ⟨.inr (.inl ⟨rs, ids, responses, member, same⟩), ?_⟩
    rw [answers]
    exact owed_of_responses responses member same calls batches
  · have notifies := reads_notice notice reads
    refine ⟨.inr (.inr notifies), ?_⟩
    rw [answerTo_notice notice]
    simp only [Client.settle, notifies.single, notifies.responses] at calls batches
    rw [Client.owed, Client.owed, calls, batches]
    exact .refl _

/-- The next message reaches the client. -/
theorem Matched.of_down (matched : Matched link d) (calm : d.serving.Calm link.conn) {message : Origin × RawText}
    (next : (link.messages d)[d.read]? = some message)
    (reads : link.serde.fromSlice message.2.bytes = .ok message.2.value) {client : Client}
    (taken : d.client.step link.serde link.cfg (.receive message.2.bytes) = some client) :
    Matched link { d with client, read := d.read + 1 } := by
  obtain ⟨expects, settled⟩ := matched.conforms calm next reads taken
  obtain ⟨op, receives⟩ := matched.client.balanced.receives link.cfg expects
  have conforms : Conformant link.serde ⟨d.client, .receive message.2.bytes, client⟩ := by
    rintro raw ⟨⟩
    exact expects
  have sound := matched.client.of_move (matched.client.balanced.move conforms taken)
  have delivered : Duplex.delivered link { d with client, read := d.read + 1 } =
      d.delivered link ++ (answerTo message.2.value).toList := by
    have later : (link.messages d).take (d.read + 1) = (link.messages d).take d.read ++ [message] := by
      rw [List.take_add_one, next, Option.toList_some]
    show ((link.messages d).take (d.read + 1)).filterMap _ = _
    rw [later, List.filterMap_append, Duplex.delivered]
    cases answers : answerTo message.2.value <;> simp [answers]
  refine ⟨matched.serving, sound, receives.framed taken matched.queued, matched.framed, matched.arrived, ?_,
    matched.asked, matched.sources, ?_⟩
  · exact (List.getElem?_eq_some_iff.mp next).1
  · have ledger := matched.ledger
    rw [delivered, List.perm_iff_count]
    rw [List.perm_iff_count] at ledger settled
    intro ask
    have here := ledger ask
    have paid := settled ask
    simp only [List.count_append] at here paid ⊢
    omega

theorem Matched.of_step (matched : Matched link d) {a : DuplexAction} (fair : link.Fair ⟨d, a, d'⟩)
    (taken : link.step d a = some d') : Matched link d' := by
  cases Link.move_of_step taken with
  | client front moved => exact matched.of_client front moved
  | server genuine moved => exact matched.of_server (fair.built _ rfl) genuine moved
  | up next moved =>
      obtain ⟨reads, admitted⟩ := fair.up _ _ rfl next
      exact matched.of_up next reads admitted moved
  | down next moved => exact matched.of_down fair.calm next (fair.down _ rfl next) moved

section Runs

variable {ts : List (Transition Duplex DuplexAction)} (run : Run link.step link.new ts d) (fair : ∀ t ∈ ts, link.Fair t)

include run fair

theorem matched : Matched link d :=
  run.invariant (Matched link) link.Fair fair (.new link) fun _ own before taken => before.of_step own taken

/-- Each text that the client gets, a conformant server would have sent. -/
theorem conformant_of_fair {u : Transition Client ClientAction} (seen : u ∈ ts.filterMap link.clientStep) :
    Conformant link.serde u := by
  obtain ⟨t, member, same⟩ := List.mem_filterMap.mp seen
  obtain ⟨pre, post, rfl, earlier, taken, -⟩ := run.split member
  have fairBefore : ∀ t ∈ pre, link.Fair t := fun t member => fair t (List.mem_append_left _ member)
  have matched := matched earlier fairBefore
  have fairHere := fair t member
  obtain ⟨before, action, after⟩ := t
  dsimp only at taken matched
  cases Link.move_of_step taken with
  | client front moved =>
      cases same
      exact fun raw received => absurd received (front raw)
  | server | up => cases same
  | down next moved =>
      simp only [Link.clientStep, next, Option.map_some] at same
      obtain rfl := Option.some.inj same
      rintro raw ⟨⟩
      exact (matched.conforms fairHere.calm next (fairHere.down _ rfl next) moved).1

/-- This server is a conformant server: what a client sees of a fair run is a run
    in which every received text answers something that the client waits for or
    notifies of something. So the client stays up, and it waits for exactly what it
    has asked for and not yet got. -/
theorem server_conforms :
    Run (Client.step link.serde link.cfg) (.new link.idKind) (ts.filterMap link.clientStep) d.client ∧
      (∀ u ∈ ts.filterMap link.clientStep, Conformant link.serde u) ∧ d.client.down = false ∧
      (d.frames.filterMap askOf).Perm (d.client.owed ++ d.delivered link) := by
  have matched := matched run fair
  exact ⟨(Link.client_run run).1, fun u seen => conformant_of_fair run fair seen, matched.client.balanced.up,
    matched.ledger⟩

end Runs

/-- The text is read as the value. -/
def readsAs (serde : SerdeJson) (raw : List UInt8) (value : Json) : Bool :=
  match serde.fromSlice raw with
  | .ok got => got = value
  | .error _ => false

theorem of_readsAs {serde : SerdeJson} {raw : List UInt8} {value : Json} (holds : readsAs serde raw value = true) :
    serde.fromSlice raw = .ok value := by
  unfold readsAs at holds
  split at holds
  · rename_i got read
    rw [read, of_decide_eq_true holds]
  · cases holds

/-- The test that the next text is read as what it denotes. -/
def isRead (link : Link) (t : Transition Duplex DuplexAction) : Bool :=
  match t.action with
  | .client _ | .server _ => true
  | .up _ => t.before.frames[t.before.arrived]?.all fun frame => readsAs link.service.serde frame.bytes frame
  | .down => (link.messages t.before)[t.before.read]?.all fun message => readsAs link.serde message.2.bytes message.2.value

/-- The test that a callback succeeds and that handlers reject nothing and send results. -/
def isPlain : DuplexAction → Bool
  | .client _ | .up _ | .down => true
  | .server (.hub (.rejectSend _ _)) | .server (.hub (.send _ (.complete _))) => false
  | .server (.hub _) => true
  | .server (.task _ (.call (.payload (.success _) _) _)) => true
  | .server (.task _ (.call _ _)) | .server (.task _ (.resolve _)) => false
  | .server (.task _ _) => true
  | .server (.receive _ _ _) => false

theorem fair_of_tests {t : Transition Duplex DuplexAction} (unlimited : link.service.batchRequestsConfig = .unlimited)
    (calm : t.after.serving.Calm link.conn) (reads : isRead link t = true) (plain : isPlain t.action = true) :
    link.Fair t := by
  refine ⟨calm, ?_, ?_, ?_⟩
  · rintro a action
    rw [action] at plain
    cases a with
    | receive => cases plain
    | hub b =>
        cases b with
        | rejectSend => cases plain
        | send m msg =>
            cases msg with
            | complete => cases plain
            | needsData => trivial
        | _ => trivial
    | task n b =>
        cases b with
        | call result =>
            cases result with
            | unserializable => cases plain
            | payload inner =>
                cases inner with
                | error => cases plain
                | success => rintro e ⟨⟩
        | resolve => cases plain
        | _ => trivial
  · intro extensions frame action next
    rw [isRead, action] at reads
    simp only [next, Option.all_some] at reads
    refine ⟨of_readsAs reads, ?_⟩
    cases frame with
    | arr elems =>
        rw [ServerAdmits, unlimited]
        trivial
    | _ => trivial
  · intro message action next
    rw [isRead, action] at reads
    simp only [next, Option.all_some] at reads
    exact of_readsAs reads

def isFair (link : Link) (ts : List (Transition Duplex DuplexAction)) : Bool :=
  ts.all fun t => isRead link t && isPlain t.action && decide (t.after.serving.Calm link.conn)

theorem fair_of_isFair {ts : List (Transition Duplex DuplexAction)}
    (unlimited : link.service.batchRequestsConfig = .unlimited) (tests : isFair link ts = true) :
    ∀ t ∈ ts, link.Fair t := by
  intro t member
  have test := List.all_eq_true.mp tests t member
  simp only [Bool.and_eq_true, decide_eq_true_iff] at test
  exact fair_of_tests unlimited test.2 test.1.1 test.1.2

/-- A client and a server whose readers know one text each. -/
def helloLink (request answer : Json) : Link where
  serde := .only answer
  cfg := { maxBufferCapacityPerSubscription := 1, overflowChecks := true }
  idKind := .number
  service :=
    { cfg := { maxSubscriptionsPerConnection := 1, maxResponseBodySize := 200 }
      serde := .only request
      batchRequestsConfig := .unlimited
      methods := Finmap.insert "say_hello" .sync ∅ }
  conn := 0

def helloRequest : Request := { id := .number 0, method := "say_hello", params := none }

def helloAnswer : Response := .new (.success (.str "lo")) (.number 0)

/-- A client calls `say_hello`. -/
def helloRun : List DuplexAction :=
  [.client (.request "say_hello" none), .client (.send 0), .up ∅,
    .server (.task 0 (.call (.payload (.success (.str "lo")) none) (.num 7))), .server (.task 0 .collect),
    .server (.task 0 .send), .down]

/-- The call is answered. -/
theorem server_conforms_hello :
    ∃ ts d, Run (helloLink helloRequest.toJson helloAnswer.toJson).step
        (helloLink helloRequest.toJson helloAnswer.toJson).new ts d ∧
      ts.map Transition.action = helloRun ∧ (∀ t ∈ ts, (helloLink helloRequest.toJson helloAnswer.toJson).Fair t) ∧
      d.client.backend.channels.answers.map Answer.oneshot = [0] ∧ d.client.down = false := by
  obtain ⟨ts, d, run, labels, state⟩ := Run.records (helloLink helloRequest.toJson helloAnswer.toJson).step
    (helloLink helloRequest.toJson helloAnswer.toJson).new helloRun
    (fun ts d => isFair (helloLink helloRequest.toJson helloAnswer.toJson) ts ∧
      d.client.backend.channels.answers.map Answer.oneshot = [0])
    (by decide +kernel)
  obtain ⟨tests, answered⟩ := of_decide_eq_true state
  have fair := fair_of_isFair rfl tests
  exact ⟨ts, d, run, labels, fair, answered, (server_conforms run fair).2.2.1⟩

end Duplex

end Jsonrpsee
