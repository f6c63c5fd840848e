import Jsonrpsee.Client.Ordinary
import Jsonrpsee.Server.Subscription
import Jsonrpsee.Types.Codec

/-! # What a client takes the messages of a server for

The client finds out what a message is by trying four deserializers in turn.
Each of them ignores members it does not know, so a message is what the first of
them accepts. Every message that a server writes is taken for what it is, and
its parts are read back as they were written, with one exception: the data of an
error is lost when it is `null`.
-/

namespace Jsonrpsee

/-- A received object, by the deserializer that accepts it. -/
inductive Received where
  | single (rp : Response)
  | item (response : SubscriptionResponse)
  | close (response : SubscriptionError)
  | notification (notif : PlainNotification)

namespace Received

def ofJson (json : Json) : Option Received :=
  match Response.fromJson json with
  | some rp => some (.single rp)
  | none =>
      match SubscriptionResponse.fromJson json with
      | some response => some (.item response)
      | none =>
          match SubscriptionError.fromJson json with
          | some response => some (.close response)
          | none => (PlainNotification.fromJson json).map .notification

/-- The bytes of an object. -/
def ofBytes (serde : SerdeJson) (raw : List UInt8) : Option Received :=
  match raw.find? fun byte => !Backend.isAsciiWhitespace byte with
  | some 123 =>
      match serde.fromSlice raw with
      | .ok json => ofJson json
      | .error _ => none
  | _ => none

/-- What `handle_recv_message` does with an object of this kind. -/
def handle (cfg : Config) (b : Backend) : Received → Outcome (List FrontToBack) × Backend
  | .single rp =>
      match b.processSingleResponse rp cfg.maxBufferCapacityPerSubscription with
      | (.error e, backend) => (.err (.invalidRequestId e), backend)
      | (.ok maybeUnsub, backend) => (.ok (maybeUnsub.map FrontToBack.request).toList, backend)
  | .item response =>
      let (closed, backend) := b.processSubscriptionResponse response
      (.ok (closed.map FrontToBack.subscriptionClosed).toList, backend)
  | .close response =>
      match b.processSubscriptionCloseResponse response with
      | none => (.panic .subscriptionMissing, b)
      | some backend => (.ok [], backend)
  | .notification notif => (.ok [], b.processNotification notif)

theorem handleObject_eq {json : Json} {received : Received} (found : ofJson json = some received) (serde : SerdeJson)
    (cfg : Config) (b : Backend) (raw : List UInt8) :
    Backend.handleObject serde cfg b raw json = received.handle cfg b := by
  unfold ofJson at found
  unfold Backend.handleObject
  cases single : Response.fromJson json with
  | some rp =>
      rw [single] at found
      cases found
      rfl
  | none =>
      rw [single] at found
      cases item : SubscriptionResponse.fromJson json with
      | some response =>
          rw [item] at found
          cases found
          rfl
      | none =>
          rw [item] at found
          cases close : SubscriptionError.fromJson json with
          | some response =>
              rw [close] at found
              cases found
              rfl
          | none =>
              rw [close] at found
              obtain ⟨notif, plain, rfl⟩ := Option.map_eq_some_iff.mp found
              rw [plain]
              rfl

/-- The client handles a message as the kind it is taken for. -/
theorem handleRecvMessage_eq {serde : SerdeJson} {raw : List UInt8} {received : Received}
    (found : ofBytes serde raw = some received) (cfg : Config) (b : Backend) :
    Backend.handleRecvMessage serde cfg b raw = received.handle cfg b := by
  unfold ofBytes at found
  unfold Backend.handleRecvMessage
  split at found
  · rename_i first
    rw [first]
    cases reads : serde.fromSlice raw with
    | error e =>
        rw [reads] at found
        cases found
    | ok json =>
        rw [reads] at found
        exact handleObject_eq found serde cfg b raw
  · cases found

/-- `handle_recv_message` takes these bytes for this, and handles them so. -/
def Classified (serde : SerdeJson) (raw : List UInt8) (received : Received) : Prop :=
  ofBytes serde raw = some received ∧
    ∀ (cfg : Config) (b : Backend), Backend.handleRecvMessage serde cfg b raw = received.handle cfg b

/-- The text of an object is classified by its value. -/
theorem classified_obj {serde : SerdeJson} {members : List (String × Json)} {received : Received}
    (reads : serde.fromSlice (Json.obj members).bytes = .ok (.obj members))
    (found : ofJson (.obj members) = some received) : Classified serde (Json.obj members).bytes received := by
  obtain ⟨rest, starts⟩ := Json.bytes_obj members
  have first : (Json.obj members).bytes.find? (fun byte => !Backend.isAsciiWhitespace byte) = some 123 := by
    rw [starts]
    rfl
  have read : ofBytes serde (Json.obj members).bytes = some received := by simp only [ofBytes, first, reads, found]
  exact ⟨read, handleRecvMessage_eq read⟩

theorem ofJson_response {rp : Response} (built : rp.Built) :
    ofJson rp.toJson = some (.single { rp with payload := rp.payload.reread }) := by
  rw [ofJson, Response.fromJson_toJson built]

/-- A notification that a server writes about a subscription. -/
def notify (method : String) (params : Json) : Json :=
  .obj [("jsonrpc", .str "2.0"), ("method", .str method), ("params", params)]

theorem ofJson_item (method : String) (subId : SubscriptionId) (result : RawValue) :
    ofJson (notify method (.obj [("subscription", subId.toJson), ("result", result)])) =
      some (.item { method, params := { subscription := subId, result } }) := by
  have shape : NotificationMembers method (.obj [("subscription", subId.toJson), ("result", result)]) _ := .refl _
  have params : SubscriptionPayload.fromJson (.obj [("subscription", subId.toJson), ("result", result)]) =
      some { subscription := subId, result } := by
    simp [SubscriptionPayload.fromJson, Json.fields, List.lookup_cons, SubscriptionId.fromJson_toJson]
  rw [ofJson, notify, shape.no_response, SubscriptionResponse.fromJson, shape.notification, Option.bind_some, params]
  rfl

theorem ofJson_close (method : String) (subId : SubscriptionId) (error : RawValue) :
    ofJson (notify method (.obj [("subscription", subId.toJson), ("error", error)])) =
      some (.close { method, params := { subscription := subId, error } }) := by
  have shape : NotificationMembers method (.obj [("subscription", subId.toJson), ("error", error)]) _ := .refl _
  have noItem : SubscriptionPayload.fromJson (.obj [("subscription", subId.toJson), ("error", error)]) = none := by
    simp [SubscriptionPayload.fromJson, Json.fields, List.lookup_cons]
  have params : SubscriptionPayloadError.fromJson (.obj [("subscription", subId.toJson), ("error", error)]) =
      some { subscription := subId, error } := by
    simp [SubscriptionPayloadError.fromJson, Json.fields, List.lookup_cons, SubscriptionId.fromJson_toJson]
  rw [ofJson, notify, shape.no_response, SubscriptionResponse.fromJson, shape.notification, Option.bind_some, noItem,
    SubscriptionError.fromJson, shape.notification, Option.bind_some, params]
  rfl

end Received

/-- The member of a response that holds the payload. -/
def ResponsePayload.member : ResponsePayload → String × Json
  | .success result => ("result", result)
  | .error e => ("error", e.toJson)

theorem ResponsePayload.member_reread_iff (payload : ResponsePayload) :
    payload.reread.member = payload.member ↔ ∀ e, payload = .error e → e.data ≠ some .null := by
  cases payload with
  | success result => simp [reread, member]
  | error e => simp [reread, member, e.toJson_reread_iff]

namespace Server

open Received (Classified)

variable (serde : SerdeJson)

/-- A response is taken for a response with the same id and the same payload, unless
    it is an error with data that is `null`; notifications and close notifications are
    taken for what they are, whatever their method, id and payload. -/
theorem classification_iff :
    (∀ rp : Response, rp.Built → serde.fromSlice rp.toJson.bytes = .ok rp.toJson →
      ((∃ read, Classified serde rp.toJson.bytes (.single read) ∧ read.id = rp.id ∧
          read.payload.member = rp.payload.member) ↔
        ∀ e, rp.payload = .error e → e.data ≠ some .null)) ∧
    (∀ (result : RawValue) (subId : SubscriptionId) (method : String) (msg : SubscriptionMessage),
      msg = .needsData result ∨ msg = .new method subId result →
      serde.fromSlice (subMessageToJson msg subId method).bytes = .ok (subMessageToJson msg subId method).value →
      Classified serde (subMessageToJson msg subId method).bytes
        (.item { method, params := { subscription := subId, result } })) ∧
    (∀ (error : RawValue) (subId : SubscriptionId) (method : String),
      serde.fromSlice (subErrToJson error subId method).bytes = .ok (subErrToJson error subId method).value →
      Classified serde (subErrToJson error subId method).bytes
        (.close { method, params := { subscription := subId, error } })) := by
  refine ⟨?_, ?_, ?_⟩
  · intro rp built reads
    have taken := Received.classified_obj reads (Received.ofJson_response built)
    rw [← ResponsePayload.member_reread_iff]
    constructor
    · rintro ⟨read, ⟨found, -⟩, -, payload⟩
      have same := Option.some.inj (found.symm.trans taken.1)
      cases same
      exact payload
    · intro payload
      exact ⟨_, taken, rfl, payload⟩
  · rintro result subId method msg (rfl | rfl) reads
    · exact Received.classified_obj reads (Received.ofJson_item method subId result)
    · exact Received.classified_obj reads (Received.ofJson_item method subId result)
  · intro error subId method reads
    exact Received.classified_obj reads (Received.ofJson_close method subId error)

theorem classification_texts :
    (∃ read, Classified (.only (Response.new (.success .null) (.str "7")).toJson)
      (Response.new (.success .null) (.str "7")).toJson.bytes (.single read) ∧ read.id = .str "7" ∧
        read.payload.member = ("result", .null)) ∧
    Classified (.only (subMessageToJson (.needsData (.int 1)) (.num 3) "tick").value)
      (subMessageToJson (.needsData (.int 1)) (.num 3) "tick").bytes
      (.item { method := "tick", params := { subscription := .num 3, result := .int 1 } }) ∧
    Classified (.only (subErrToJson (.str "gone") (.num 3) "tick").value) (subErrToJson (.str "gone") (.num 3) "tick").bytes
      (.close { method := "tick", params := { subscription := .num 3, error := .str "gone" } }) :=
  ⟨((classification_iff _).1 (.new (.success .null) (.str "7")) (by rintro e ⟨⟩) (SerdeJson.only_reads _)).mpr
      (by rintro e ⟨⟩),
    (classification_iff _).2.1 _ _ _ _ (.inl rfl) (SerdeJson.only_reads _),
    (classification_iff _).2.2 _ _ _ (SerdeJson.only_reads _)⟩

/-- An error with data that is `null` arrives as an error without data. -/
theorem nullData_lost :
    let rp := Response.new (.error (.borrowed (-32000) "unavailable" (some .null))) (.number 7)
    ¬ ∃ read, Classified (.only rp.toJson) rp.toJson.bytes (.single read) ∧ read.id = rp.id ∧
      read.payload.member = rp.payload.member := by
  intro rp
  have built : rp.Built := by
    rintro e ⟨⟩
    exact .borrowed _ _ _ (by decide)
  rintro ⟨read, ⟨found, -⟩, -, payload⟩
  have taken := Received.classified_obj (SerdeJson.only_reads rp.toJson) (Received.ofJson_response built)
  have same := Option.some.inj (found.symm.trans taken.1)
  cases same
  exact (ResponsePayload.member_reread_iff rp.payload).mp payload _ rfl rfl

end Server

end Jsonrpsee
