import Jsonrpsee.Server.Connection
import Jsonrpsee.Types.Codec

/-! # What a message is taken for

The server tells calls, notifications and malformed requests apart by trying its
deserializers in turn. Whatever a client writes is taken for what it is. The
deserializers accept more than a client writes, though: a notification may have
any further members, and a struct may be written as the array of its fields.
-/

namespace Jsonrpsee

/-- An array or an object, as params have to be. -/
def Json.IsStructured : Json → Prop
  | .arr _ | .obj _ => True
  | .null | .bool _ | .int _ | .float _ | .str _ => False

theorem Json.IsStructured.nonNull {value : Json} (structured : value.IsStructured) : value.nonNull = some value := by
  cases value with
  | null => cases structured
  | _ => rfl

theorem Json.asStr_isSome_iff (value : Json) : value.asStr.isSome ↔ ∃ s, value = .str s := by
  cases value <;> simp [Json.asStr]

namespace Server

/-! ## Messages of a client -/

/-- Params are absent, or an array or an object. -/
def ParamsOk (params : Option RawValue) : Prop := ∀ value ∈ params, value.IsStructured

theorem ParamsOk.bind_nonNull {params : Option RawValue} (ok : ParamsOk params) :
    params.bind Json.nonNull = params := by
  cases params with
  | none => rfl
  | some value => exact (ok value rfl).nonNull

theorem readRequest_toJson {req : Request} (ok : ParamsOk req.params) : readRequest req.toJson = some req := by
  have fields : req.toJson.fields ["jsonrpc", "id", "method", "params"] =
      some [some (.str "2.0"), some req.id.toJson, some (.str req.method), req.params] := by
    cases params : req.params <;> simp [Request.toJson, params, Json.fields, List.lookup_cons]
  simp only [readRequest, fields, TwoPointZero.fromJson, Id.fromJson_toJson, Json.asStr, Json.optionField_some,
    ok.bind_nonNull, Option.bind_eq_bind, Option.bind_some]

/-- A notification has no id, so it is not a request. -/
theorem readRequest_notification (notif : PlainNotification) : readRequest (Notification.toJson notif) = none := by
  simp [readRequest, Notification.toJson, Json.fields, List.lookup_cons]

theorem readNotification_toJson {notif : PlainNotification} (ok : ParamsOk notif.params) :
    PlainNotification.fromJson (Notification.toJson notif) = some notif := by
  have fields : (Notification.toJson notif).fields ["jsonrpc", "method", "params"] =
      some [some (.str "2.0"), some (.str notif.method), some (notif.params.getD .null)] := by
    simp [Notification.toJson, Json.fields, List.lookup_cons]
  have params : (some (notif.params.getD .null)).bind Json.nonNull = notif.params := by
    cases given : notif.params with
    | none => rfl
    | some value => exact (ok value given).nonNull
  simp only [PlainNotification.fromJson, Notification.fromJson, fields, TwoPointZero.fromJson, Json.asStr,
    Json.optionField_some, params, Option.bind_eq_bind, Option.bind_some]

/-- What `BatchRequestConfig` lets through: batches of this length. -/
def BatchRequestConfig.allows (length : Nat) : BatchRequestConfig → Prop
  | .disabled => False
  | .limit len => length ≤ len
  | .unlimited => True

theorem allows_unlimited (length : Nat) : BatchRequestConfig.unlimited.allows length := trivial

theorem readMessage_single {serde : SerdeJson} {body : List UInt8} {value : Json}
    (reads : serde.fromSlice body = .ok value) (batchConfig : BatchRequestConfig) (extensions : Extensions) :
    readMessage serde body true batchConfig extensions =
      match readRequest value, PlainNotification.fromJson value, readInvalidRequest value with
      | some req, _, _ => .call req extensions
      | none, some notif, _ => .notification notif extensions
      | none, none, some id => .refused (.error id (.ofCode .invalidRequest))
      | none, none, none => .refused (.error .null (.ofCode .parseError)) := by
  simp only [readMessage, if_true, readSingle, prepareError, reads]
  cases readRequest value <;> cases PlainNotification.fromJson value <;> cases readInvalidRequest value <;> rfl

theorem readMessage_batch {serde : SerdeJson} {body : List UInt8} {elems : List Json}
    (reads : serde.fromSlice body = .ok (.arr elems)) {batchConfig : BatchRequestConfig}
    (allowed : batchConfig.allows elems.length) (extensions : Extensions) :
    readMessage serde body false batchConfig extensions = .batch (elems.map (readEntry extensions)) := by
  cases batchConfig with
  | disabled => cases allowed
  | unlimited => simp [readMessage, readBatch, reads]
  | limit len =>
      have within : ¬ len < elems.length := Nat.not_lt.mpr allowed
      simp [readMessage, readBatch, reads, within]

/-- A batch that is not let through gets one error. -/
theorem readMessage_batch_refused {serde : SerdeJson} {body : List UInt8} {elems : List Json}
    (reads : serde.fromSlice body = .ok (.arr elems)) {batchConfig : BatchRequestConfig}
    (refused : ¬ batchConfig.allows elems.length) :
    ∃ err, ∀ extensions, readMessage serde body false batchConfig extensions = .refused (.error .null err) := by
  cases batchConfig with
  | disabled => exact ⟨_, fun extensions => rfl⟩
  | unlimited => exact absurd trivial refused
  | limit len =>
      have above : len < elems.length := Nat.not_le.mp refused
      refine ⟨rejectTooBigBatchRequest len, fun extensions => ?_⟩
      simp [readMessage, readBatch, reads, above]

/-- A batch is run entry by entry, or refused as a whole. -/
theorem readMessage_batch_cases (serde : SerdeJson) (body : List UInt8) (batchConfig : BatchRequestConfig) :
    (∃ elems : List Json, ∀ extensions,
      readMessage serde body false batchConfig extensions = .batch (elems.map (readEntry extensions))) ∨
    ∃ err, ∀ extensions, readMessage serde body false batchConfig extensions = .refused (.error .null err) := by
  cases reads : serde.fromSlice body with
  | error e =>
      cases batchConfig with
      | disabled => exact .inr ⟨_, fun extensions => rfl⟩
      | limit | unlimited =>
          refine .inr ⟨.ofCode .parseError, fun extensions => ?_⟩
          simp [readMessage, readBatch, reads]
  | ok value =>
      cases value with
      | arr elems =>
          by_cases allowed : batchConfig.allows elems.length
          · exact .inl ⟨elems, readMessage_batch reads allowed⟩
          · exact .inr (readMessage_batch_refused reads allowed)
      | null | bool | int | float | str | obj =>
          cases batchConfig with
          | disabled => exact .inr ⟨_, fun extensions => rfl⟩
          | limit | unlimited =>
              refine .inr ⟨.ofCode .parseError, fun extensions => ?_⟩
              simp [readMessage, readBatch, reads]

/-- Whatever is refused gets an error response. -/
theorem readMessage_refused {serde : SerdeJson} {body : List UInt8} {isSingle : Bool} {batchConfig : BatchRequestConfig}
    {extensions : Extensions} {rp : MethodResponse}
    (message : readMessage serde body isSingle batchConfig extensions = .refused rp) :
    ∃ id err, rp = .error id err := by
  cases isSingle with
  | false =>
      rcases readMessage_batch_cases serde body batchConfig with ⟨elems, isBatch⟩ | ⟨err, refused⟩
      · rw [isBatch] at message
        cases message
      · rw [refused] at message
        cases message
        exact ⟨_, _, rfl⟩
  | true =>
      cases reads : serde.fromSlice body with
      | error e =>
          simp only [readMessage, if_true, readSingle, prepareError, reads] at message
          cases message
          exact ⟨_, _, rfl⟩
      | ok value =>
          rw [readMessage_single reads] at message
          cases isCall : readRequest value with
          | some req =>
              rw [isCall] at message
              cases message
          | none =>
              rw [isCall] at message
              cases isNotif : PlainNotification.fromJson value with
              | some notif =>
                  rw [isNotif] at message
                  cases message
              | none =>
                  rw [isNotif] at message
                  cases given : readInvalidRequest value with
                  | some id =>
                      rw [given] at message
                      cases message
                      exact ⟨_, _, rfl⟩
                  | none =>
                      rw [given] at message
                      cases message
                      exact ⟨_, _, rfl⟩

theorem splitMessage_obj (members : List (String × Json)) :
    splitMessage (Json.obj members).bytes = some ((Json.obj members).bytes, true) := by
  obtain ⟨rest, starts⟩ := Json.bytes_obj members
  rw [starts]
  rfl

theorem splitMessage_arr (elems : List Json) :
    splitMessage (Json.arr elems).bytes = some ((Json.arr elems).bytes, false) := by
  obtain ⟨rest, starts⟩ := Json.bytes_arr elems
  rw [starts]
  rfl

/-- Whatever a client writes is dispatched as what it is: one call, one
    notification, which runs nothing, or a batch of the same calls in the same
    order. -/
theorem client_dispatch {σ : Type} (serde : SerdeJson) (batchConfig : BatchRequestConfig) (service : RpcService σ)
    (extensions : Extensions) (world : σ) :
    (∀ req : Request, ParamsOk req.params → serde.fromSlice req.toJson.bytes = .ok req.toJson →
      splitMessage req.toJson.bytes = some (req.toJson.bytes, true) ∧
        readMessage serde req.toJson.bytes true batchConfig extensions = .call req extensions ∧
        handleRpcCall serde req.toJson.bytes true batchConfig service extensions world =
          service.call req extensions world) ∧
    (∀ notif : PlainNotification, ParamsOk notif.params →
      serde.fromSlice (Notification.toJson notif).bytes = .ok (Notification.toJson notif) →
      splitMessage (Notification.toJson notif).bytes = some ((Notification.toJson notif).bytes, true) ∧
        readMessage serde (Notification.toJson notif).bytes true batchConfig extensions =
          .notification notif extensions ∧
        handleRpcCall serde (Notification.toJson notif).bytes true batchConfig service extensions world =
          (RpcService.notification extensions, world)) ∧
    (∀ reqs : List Request, reqs ≠ [] → (∀ req ∈ reqs, ParamsOk req.params) → batchConfig.allows reqs.length →
      serde.fromSlice (Json.arr (reqs.map Request.toJson)).bytes = .ok (.arr (reqs.map Request.toJson)) →
      splitMessage (Json.arr (reqs.map Request.toJson)).bytes =
          some ((Json.arr (reqs.map Request.toJson)).bytes, false) ∧
        readMessage serde (Json.arr (reqs.map Request.toJson)).bytes false batchConfig extensions =
          .batch (reqs.map fun req => .ok (.call req extensions)) ∧
        handleRpcCall serde (Json.arr (reqs.map Request.toJson)).bytes false batchConfig service extensions world =
          service.batch (reqs.map fun req => .ok (.call req extensions)) world) := by
  refine ⟨?_, ?_, ?_⟩
  · intro req ok reads
    have message : readMessage serde req.toJson.bytes true batchConfig extensions = .call req extensions := by
      rw [readMessage_single reads, readRequest_toJson ok]
    exact ⟨splitMessage_obj _, message, by rw [handleRpcCall, message]⟩
  · intro notif ok reads
    have message : readMessage serde (Notification.toJson notif).bytes true batchConfig extensions =
        .notification notif extensions := by
      rw [readMessage_single reads, readRequest_notification, readNotification_toJson ok]
    exact ⟨splitMessage_obj _, message, by rw [handleRpcCall, message]⟩
  · intro reqs _ ok allowed reads
    have message : readMessage serde (Json.arr (reqs.map Request.toJson)).bytes false batchConfig extensions =
        .batch (reqs.map fun req => .ok (.call req extensions)) := by
      rw [← List.length_map Request.toJson] at allowed
      rw [readMessage_batch reads allowed, List.map_map]
      congr 1
      refine List.map_congr_left fun req member => ?_
      simp only [Function.comp_apply, readEntry, readRequest_toJson (ok req member)]
    exact ⟨splitMessage_arr _, message, by rw [handleRpcCall, message]⟩

/-- A call with quotes in its id, a notification of the same method, and the call twice in a
    batch: the method is run once, not at all, and twice. -/
theorem client_dispatch_hello :
    let req : Request := { id := .str "say \x22hello\x22", method := "echo", params := some (.arr [.int 1]) }
    let notif : PlainNotification := { method := "echo", params := none }
    let service := RpcService.counting 200
    (handleRpcCall (.only req.toJson) req.toJson.bytes true .unlimited service ∅ 0 = service.call req ∅ 0 ∧
      (handleRpcCall (.only req.toJson) req.toJson.bytes true .unlimited service ∅ 0).2 = 1) ∧
    handleRpcCall (.only (Notification.toJson notif)) (Notification.toJson notif).bytes true .disabled service ∅ 0 =
      (RpcService.notification ∅, 0) ∧
    (handleRpcCall (.only (.arr [req.toJson, req.toJson])) (Json.arr [req.toJson, req.toJson]).bytes false (.limit 2)
      service ∅ 0).2 = 2 := by
  intro req notif service
  have ok : ParamsOk req.params := by
    rintro value ⟨⟩
    trivial
  have both : ∀ given ∈ [req, req], ParamsOk given.params := by simpa using ok
  obtain ⟨call, -, -⟩ := client_dispatch (.only req.toJson) .unlimited service ∅ 0
  obtain ⟨-, notification, -⟩ := client_dispatch (.only (Notification.toJson notif)) .disabled service ∅ 0
  obtain ⟨-, -, batch⟩ := client_dispatch (.only (.arr [req.toJson, req.toJson])) (.limit 2) service ∅ 0
  obtain ⟨-, -, called⟩ := call req ok (SerdeJson.only_reads _)
  obtain ⟨-, -, notified⟩ := notification notif (by rintro value ⟨⟩) (SerdeJson.only_reads _)
  obtain ⟨-, -, batched⟩ := batch [req, req] (by simp) both (Nat.le_refl 2) (SerdeJson.only_reads _)
  exact ⟨⟨called, (congrArg Prod.snd called).trans (by decide +kernel)⟩, notified,
    (congrArg Prod.snd batched).trans (by decide +kernel)⟩

/-! ## Objects with an id -/

/-- An object that the deserializer of notifications accepts although it has an
    id: the id is repeated, or it is a value that is no id. -/
structure TakenForNotification (members : List (String × Json)) : Prop where
  once : ∀ name ∈ ["jsonrpc", "method", "params"], (members.filter (·.1 = name)).length ≤ 1
  version : members.lookup "jsonrpc" = some (.str "2.0")
  method : ∃ method, members.lookup "method" = some (.str method)
  badId : 1 < (members.filter (·.1 = "id")).length ∨ ∀ value, members.lookup "id" = some value → ¬ value.IsId

variable {members : List (String × Json)}

theorem fields_obj {names : List String} (once : ∀ name ∈ names, (members.filter (·.1 = name)).length ≤ 1) :
    (Json.obj members).fields names = some (names.map fun name => members.lookup name) := by
  have all : (names.all fun name => decide ((members.filter (·.1 = name)).length ≤ 1)) = true := by
    rw [List.all_eq_true]
    intro name listed
    exact decide_eq_true (once name listed)
  exact if_pos all

theorem fields_obj_repeated {names : List String}
    (repeated : ¬ ∀ name ∈ names, (members.filter (·.1 = name)).length ≤ 1) :
    (Json.obj members).fields names = none := by
  have notAll : ¬ (names.all fun name => decide ((members.filter (·.1 = name)).length ≤ 1)) = true := by
    rw [List.all_eq_true]
    intro all
    exact repeated fun name listed => of_decide_eq_true (all name listed)
  exact if_neg notAll

/-- A notification, by its fields. -/
theorem notification_of_fields {value : Json} {jsonrpc method params : Option Json}
    (fields : value.fields ["jsonrpc", "method", "params"] = some [jsonrpc, method, params]) :
    (PlainNotification.fromJson value).isSome ↔ jsonrpc = some (.str "2.0") ∧ ∃ name, method = some (.str name) := by
  cases jsonrpc with
  | none => simp [PlainNotification.fromJson, Notification.fromJson, fields]
  | some jsonrpc =>
      cases method with
      | none => simp [PlainNotification.fromJson, Notification.fromJson, fields]
      | some method =>
          simp only [Option.some.injEq, ← Json.asStr_isSome_iff, ← TwoPointZero.fromJson_isSome_iff]
          cases version : TwoPointZero.fromJson jsonrpc <;> cases name : method.asStr <;>
            simp [PlainNotification.fromJson, Notification.fromJson, fields, version, name, Json.optionField_some]

/-- A request, by its fields. -/
theorem request_of_fields {value : Json} {jsonrpc id method params : Option Json}
    (fields : value.fields ["jsonrpc", "id", "method", "params"] = some [jsonrpc, id, method, params]) :
    (readRequest value).isSome ↔
      jsonrpc = some (.str "2.0") ∧ (∃ given, id = some given ∧ given.IsId) ∧ ∃ name, method = some (.str name) := by
  cases jsonrpc with
  | none => simp [readRequest, fields]
  | some jsonrpc =>
      cases id with
      | none => simp [readRequest, fields]
      | some id =>
          cases method with
          | none => simp [readRequest, fields]
          | some method =>
              simp only [Option.some.injEq, exists_eq_left', ← Json.asStr_isSome_iff,
                ← TwoPointZero.fromJson_isSome_iff, ← Id.fromJson_isSome_iff]
              cases version : TwoPointZero.fromJson jsonrpc <;> cases given : Id.fromJson id <;>
                cases name : method.asStr <;>
                simp [readRequest, fields, version, given, name, Json.optionField_some]

/-- The objects that are notifications. Further members do not matter. -/
theorem notification_obj_iff : (PlainNotification.fromJson (.obj members)).isSome ↔
    (∀ name ∈ ["jsonrpc", "method", "params"], (members.filter (·.1 = name)).length ≤ 1) ∧
      members.lookup "jsonrpc" = some (.str "2.0") ∧ ∃ name, members.lookup "method" = some (.str name) := by
  by_cases once : ∀ name ∈ ["jsonrpc", "method", "params"], (members.filter (·.1 = name)).length ≤ 1
  · rw [and_iff_right once]
    exact notification_of_fields (fields_obj once)
  · have refused : PlainNotification.fromJson (.obj members) = none := by
      rw [PlainNotification.fromJson, Notification.fromJson, fields_obj_repeated once]
    rw [refused]
    exact iff_of_false Bool.false_ne_true fun accepted => once accepted.1

/-- The objects that are requests. -/
theorem request_obj_iff : (readRequest (.obj members)).isSome ↔
    (∀ name ∈ ["jsonrpc", "id", "method", "params"], (members.filter (·.1 = name)).length ≤ 1) ∧
      members.lookup "jsonrpc" = some (.str "2.0") ∧ (∃ given, members.lookup "id" = some given ∧ given.IsId) ∧
        ∃ name, members.lookup "method" = some (.str name) := by
  by_cases once : ∀ name ∈ ["jsonrpc", "id", "method", "params"], (members.filter (·.1 = name)).length ≤ 1
  · rw [and_iff_right once]
    exact request_of_fields (fields_obj once)
  · have refused : readRequest (.obj members) = none := by rw [readRequest, fields_obj_repeated once]
    rw [refused]
    exact iff_of_false Bool.false_ne_true fun accepted => once accepted.1

/-- With an id, an object is a notification but no request exactly when it is one
    of the above. -/
theorem taken_iff (carries : (members.lookup "id").isSome) :
    readRequest (.obj members) = none ∧ (PlainNotification.fromJson (.obj members)).isSome ↔
      TakenForNotification members := by
  obtain ⟨id, given⟩ := Option.isSome_iff_exists.mp carries
  rw [← Option.not_isSome_iff_eq_none, request_obj_iff, notification_obj_iff]
  constructor
  · rintro ⟨noRequest, once, version, name⟩
    refine ⟨once, version, name, ?_⟩
    by_contra good
    obtain ⟨single, isId⟩ := not_or.mp good
    refine noRequest ⟨?_, version, ?_, name⟩
    · simp only [List.forall_mem_cons, List.not_mem_nil, false_implies, implies_true, and_true] at once ⊢
      exact ⟨once.1, Nat.not_lt.mp single, once.2⟩
    · by_contra noId
      exact isId fun value found isId => noId ⟨value, found, isId⟩
  · intro taken
    refine ⟨?_, taken.once, taken.version, taken.method⟩
    rintro ⟨once, -, ⟨value, found, isId⟩, -⟩
    rcases taken.badId with repeated | noId
    · exact absurd (once "id" (by simp)) (Nat.not_le.mpr repeated)
    · exact noId value found isId

/-- The message is dispatched as a call, or refused with an error response. -/
def Incoming.Answers : Incoming → Prop
  | .call _ _ => True
  | .refused rp => ∃ id err, rp = .error id err
  | .notification _ _ | .batch _ => False

/-- The entry of a batch is dispatched as a call or gets an error response; so is
    it when the whole batch is refused. -/
def Incoming.AnswersAt (i : Nat) : Incoming → Prop
  | .batch entries => ∃ entry, entries[i]? = some entry ∧ Entry.isNotification entry = false
  | .refused rp => ∃ id err, rp = .error id err
  | .call _ _ | .notification _ _ => False

/-- Whatever the methods are, the message is run as one call, or nothing is run and the
    response is an error. -/
def Answered (serde : SerdeJson) (body : List UInt8) (batchConfig : BatchRequestConfig) (extensions : Extensions) :
    Prop :=
  (∃ req, ∀ (σ : Type) (service : RpcService σ) (world : σ),
    handleRpcCall serde body true batchConfig service extensions world = service.call req extensions world) ∨
  ∃ id err, ∀ (σ : Type) (service : RpcService σ) (world : σ),
    handleRpcCall serde body true batchConfig service extensions world = (.error id err, world)

/-- A service without methods, which tells calls, notifications and errors apart. -/
def noMethods : RpcService Unit := { methods := ∅, maxResponseBodySize := 0, connId := 0, cfg := .onlyCalls }

theorem answered_iff_answers {serde : SerdeJson} {body : List UInt8} {value : Json}
    (reads : serde.fromSlice body = .ok value) (batchConfig : BatchRequestConfig) (extensions : Extensions) :
    Answered serde body batchConfig extensions ↔ (readMessage serde body true batchConfig extensions).Answers := by
  unfold Answered
  simp only [handleRpcCall, readMessage_single reads]
  cases readRequest value with
  | some req => exact iff_of_true (.inl ⟨req, fun σ service world => rfl⟩) trivial
  | none =>
      cases PlainNotification.fromJson value with
      | some notif =>
          refine iff_of_false ?_ id
          rintro (⟨req, same⟩ | ⟨id, err, same⟩)
          · have kinds := congrArg (fun handled => handled.1.kind) (same Unit noMethods ())
            cases kinds
          · have kinds := congrArg (fun handled => handled.1.kind) (same Unit noMethods ())
            cases kinds
      | none =>
          cases readInvalidRequest value with
          | some id => exact iff_of_true (.inr ⟨_, _, fun σ service world => rfl⟩) ⟨_, _, rfl⟩
          | none => exact iff_of_true (.inr ⟨_, _, fun σ service world => rfl⟩) ⟨_, _, rfl⟩

/-- Whatever the methods are, the elements of the array are run as the entries of a batch,
    if the batch is let through; otherwise nothing is run and the response is an error. -/
structure Batched (serde : SerdeJson) (body : List UInt8) (batchConfig : BatchRequestConfig) (extensions : Extensions)
    (elems : List Json) : Prop where
  run : batchConfig.allows elems.length → ∀ (σ : Type) (service : RpcService σ) (world : σ),
    handleRpcCall serde body false batchConfig service extensions world =
      service.batch (elems.map (readEntry extensions)) world
  refused : ¬ batchConfig.allows elems.length → ∃ err, ∀ (σ : Type) (service : RpcService σ) (world : σ),
    handleRpcCall serde body false batchConfig service extensions world = (.error .null err, world)

theorem batched {serde : SerdeJson} {body : List UInt8} {elems : List Json}
    (reads : serde.fromSlice body = .ok (.arr elems)) (batchConfig : BatchRequestConfig) (extensions : Extensions) :
    Batched serde body batchConfig extensions elems where
  run allowed σ service world := by rw [handleRpcCall, readMessage_batch reads allowed]
  refused large := by
    obtain ⟨err, refused⟩ := readMessage_batch_refused reads large
    exact ⟨err, fun σ service world => by rw [handleRpcCall, refused]⟩

theorem readEntry_silent_iff (extensions : Extensions) (value : Json) :
    Entry.isNotification (readEntry extensions value) = true ↔
      readRequest value = none ∧ (PlainNotification.fromJson value).isSome := by
  unfold readEntry
  cases readRequest value with
  | some req => simp [Entry.isNotification]
  | none => cases PlainNotification.fromJson value <;> simp [Entry.isNotification]

/-- An object with an id is never left without an answer, alone or in a batch,
    unless it is taken for a notification. -/
theorem answered_iff (carries : (members.lookup "id").isSome) (serde : SerdeJson) (body : List UInt8)
    (batchConfig : BatchRequestConfig) (extensions : Extensions) :
    (serde.fromSlice body = .ok (.obj members) →
      ((readMessage serde body true batchConfig extensions).Answers ↔ ¬ TakenForNotification members) ∧
      (Answered serde body batchConfig extensions ↔ ¬ TakenForNotification members)) ∧
    (∀ elems i, serde.fromSlice body = .ok (.arr elems) → elems[i]? = some (.obj members) →
      ((readMessage serde body false batchConfig extensions).AnswersAt i ↔
        ¬ (TakenForNotification members ∧ batchConfig.allows elems.length)) ∧
      Batched serde body batchConfig extensions elems ∧
      ∀ (σ : Type) (service : RpcService σ) (world : σ),
        (service.reply (readEntry extensions (.obj members)) world).1.isSome ↔ ¬ TakenForNotification members) := by
  refine ⟨?_, ?_⟩
  · intro reads
    have answers : (readMessage serde body true batchConfig extensions).Answers ↔ ¬ TakenForNotification members := by
      rw [readMessage_single reads, ← taken_iff carries]
      cases readRequest (.obj members) with
      | some req => simp [Incoming.Answers]
      | none =>
          cases PlainNotification.fromJson (.obj members) with
          | some notif => simp [Incoming.Answers]
          | none => cases readInvalidRequest (.obj members) <;> simp [Incoming.Answers]
    exact ⟨answers, (answered_iff_answers reads batchConfig extensions).trans answers⟩
  · intro elems i reads found
    have silent := (readEntry_silent_iff extensions (.obj members)).trans (taken_iff carries)
    refine ⟨?_, batched reads batchConfig extensions, fun σ service world => ?_⟩
    · by_cases allowed : batchConfig.allows elems.length
      · rw [readMessage_batch reads allowed, and_iff_left allowed, ← silent, Incoming.AnswersAt, List.getElem?_map,
          found]
        simp
      · obtain ⟨err, refused⟩ := readMessage_batch_refused reads allowed
        rw [refused]
        exact iff_of_true ⟨_, _, rfl⟩ fun taken => allowed taken.2
    · rw [← silent, ← service.reply_eq_none_iff, Option.isSome_iff_ne_none]

/-- A call of `say_hello` whose id is some value. -/
def hello (id : Json) : List (String × Json) := [("jsonrpc", .str "2.0"), ("method", .str "say_hello"), ("id", id)]

theorem answered_number : ¬ TakenForNotification (hello (.int 7)) ∧
    (readMessage (.only (.obj (hello (.int 7)))) (Json.obj (hello (.int 7))).bytes true .unlimited ∅).Answers ∧
    Answered (.only (.obj (hello (.int 7)))) (Json.obj (hello (.int 7))).bytes .unlimited ∅ := by
  have good : ¬ TakenForNotification (hello (.int 7)) := by
    intro taken
    rcases taken.badId with repeated | noId
    · exact absurd repeated (by decide)
    · exact noId (.int 7) rfl ⟨by decide, by decide⟩
  obtain ⟨answers, answered⟩ := (@answered_iff (hello (.int 7)) rfl _ _ .unlimited ∅).1 (SerdeJson.only_reads _)
  exact ⟨good, answers.mpr good, answered.mpr good⟩

/-- A call whose id is a negative number gets no answer, alone or in a batch: whatever the
    methods are, none is run, and the response is that of a notification. -/
theorem negative_not_answered :
    ¬ (readMessage (.only (.obj (hello (.int (-1))))) (Json.obj (hello (.int (-1)))).bytes true .unlimited ∅).Answers ∧
    ¬ (readMessage (.only (.arr [.obj (hello (.int (-1)))])) (Json.arr [.obj (hello (.int (-1)))]).bytes false
      .unlimited ∅).AnswersAt 0 ∧
    ∀ (σ : Type) (service : RpcService σ) (world : σ),
      handleRpcCall (.only (.obj (hello (.int (-1))))) (Json.obj (hello (.int (-1)))).bytes true .unlimited service ∅
        world = (RpcService.notification ∅, world) ∧
      handleRpcCall (.only (.arr [.obj (hello (.int (-1)))])) (Json.arr [.obj (hello (.int (-1)))]).bytes false
        .unlimited service ∅ world = (.notification, world) := by
  refine ⟨?_, ?_, fun σ service world => ⟨?_, ?_⟩⟩
  · rw [readMessage_single (SerdeJson.only_reads _)]
    exact id
  · rw [readMessage_batch (SerdeJson.only_reads _) (allows_unlimited _)]
    rintro ⟨entry, found, loud⟩
    cases found
    cases loud
  · rw [handleRpcCall, readMessage_single (SerdeJson.only_reads _)]
    rfl
  · rw [handleRpcCall, readMessage_batch (SerdeJson.only_reads _) (allows_unlimited _)]
    rfl

/-! ## Elements that are no objects -/

/-- The arrays that a derived deserializer takes for a request or a notification:
    the fields in the order of their declaration. -/
inductive SequenceForm : Json → Prop
  | request {id params : Json} {name : String} (isId : id.IsId) :
      SequenceForm (.arr [.str "2.0", id, .str name, params])
  | notification {params : Json} {name : String} : SequenceForm (.arr [.str "2.0", .str name, params])

theorem request_arr_iff (elems : List Json) : (readRequest (.arr elems)).isSome ↔
    ∃ id name params, id.IsId ∧ elems = [.str "2.0", id, .str name, params] := by
  match elems with
  | [jsonrpc, id, method, params] =>
      have fields : (Json.arr [jsonrpc, id, method, params]).fields ["jsonrpc", "id", "method", "params"] =
        some [some jsonrpc, some id, some method, some params] := rfl
      rw [request_of_fields fields]
      constructor
      · rintro ⟨version, ⟨given, same, isId⟩, name, named⟩
        cases version
        cases same
        cases named
        exact ⟨_, _, _, isId, rfl⟩
      · rintro ⟨given, name, value, isId, same⟩
        cases same
        exact ⟨rfl, ⟨_, rfl, isId⟩, _, rfl⟩
  | [] | [_] | [_, _] | [_, _, _] | _ :: _ :: _ :: _ :: _ :: _ => simp [readRequest, Json.fields]

theorem notification_arr_iff (elems : List Json) : (PlainNotification.fromJson (.arr elems)).isSome ↔
    ∃ name params, elems = [.str "2.0", .str name, params] := by
  match elems with
  | [jsonrpc, method, params] =>
      have fields : (Json.arr [jsonrpc, method, params]).fields ["jsonrpc", "method", "params"] =
        some [some jsonrpc, some method, some params] := rfl
      rw [notification_of_fields fields]
      constructor
      · rintro ⟨version, name, named⟩
        cases version
        cases named
        exact ⟨_, _, rfl⟩
      · rintro ⟨name, value, same⟩
        cases same
        exact ⟨rfl, _, rfl⟩
  | [] | [_] | [_, _] | _ :: _ :: _ :: _ :: _ => simp [PlainNotification.fromJson, Notification.fromJson, Json.fields]

/-- Without an object, only these arrays are executed or passed over. -/
theorem nonObject_read_iff {value : Json} (noObject : ∀ members, value ≠ .obj members) :
    readRequest value = none ∧ PlainNotification.fromJson value = none ↔ ¬ SequenceForm value := by
  cases value with
  | obj members => exact absurd rfl (noObject members)
  | arr elems =>
      rw [← Option.not_isSome_iff_eq_none, ← Option.not_isSome_iff_eq_none, request_arr_iff, notification_arr_iff,
        ← not_or]
      refine not_congr ⟨?_, ?_⟩
      · rintro (⟨id, name, params, isId, rfl⟩ | ⟨name, params, rfl⟩)
        · exact .request isId
        · exact .notification
      · intro form
        cases form with
        | request isId => exact .inl ⟨_, _, _, isId, rfl⟩
        | notification => exact .inr ⟨_, _, rfl⟩
  | _ => exact iff_of_true ⟨rfl, rfl⟩ (by rintro ⟨⟩)

/-- Whatever the methods are, the entry runs none of them and contributes one error
    response. -/
def Entry.Refused (entry : Entry) : Prop :=
  ∃ id, ∀ (σ : Type) (service : RpcService σ) (world : σ),
    service.reply entry world = (some (.error id (.ofCode .invalidRequest)), world)

theorem readEntry_refused_iff (extensions : Extensions) (value : Json) :
    Entry.Refused (readEntry extensions value) ↔
      readRequest value = none ∧ PlainNotification.fromJson value = none := by
  unfold readEntry
  cases readRequest value with
  | some req =>
      refine iff_of_false ?_ (by simp)
      rintro ⟨id, refused⟩
      have answer : some (MethodResponseResult.failed (-32601)) = some (.failed (-32600)) :=
        congrArg (fun reply => reply.1.map MethodResponse.successOrError) (refused Unit noMethods ())
      exact absurd answer (by decide)
  | none =>
      cases PlainNotification.fromJson value with
      | some notif =>
          refine iff_of_false ?_ (by simp)
          rintro ⟨id, refused⟩
          have answer := congrArg Prod.fst (refused Unit noMethods ())
          cases answer
      | none => exact iff_of_true ⟨_, fun σ service world => rfl⟩ ⟨rfl, rfl⟩

/-- The batch is run, and its entry at this place is refused. -/
def Incoming.RefusesAt (i : Nat) : Incoming → Prop
  | .batch entries => ∃ entry, entries[i]? = some entry ∧ Entry.Refused entry
  | .call _ _ | .notification _ _ | .refused _ => False

/-- An element that is no object is refused in every batch that is run, unless it
    is the array of the fields of a request or a notification. -/
theorem nonObject_refused_iff {serde : SerdeJson} {body : List UInt8} {elems : List Json} {i : Nat} {value : Json}
    (reads : serde.fromSlice body = .ok (.arr elems)) (found : elems[i]? = some value)
    (noObject : ∀ members, value ≠ .obj members) (batchConfig : BatchRequestConfig) (extensions : Extensions) :
    ((readMessage serde body false batchConfig extensions).RefusesAt i ↔
      batchConfig.allows elems.length ∧ ¬ SequenceForm value) ∧
    Batched serde body batchConfig extensions elems ∧
    (Entry.Refused (readEntry extensions value) ↔ ¬ SequenceForm value) := by
  have entry := (readEntry_refused_iff extensions value).trans (nonObject_read_iff noObject)
  refine ⟨?_, batched reads batchConfig extensions, entry⟩
  by_cases allowed : batchConfig.allows elems.length
  · rw [readMessage_batch reads allowed, Incoming.RefusesAt, List.getElem?_map, found, and_iff_right allowed, ← entry]
    simp
  · obtain ⟨err, refused⟩ := readMessage_batch_refused reads allowed
    rw [refused]
    exact iff_of_false id fun run => allowed run.1

theorem number_refused :
    (readMessage (.only (.arr [.int 123])) (Json.arr [.int 123]).bytes false (.limit 1) ∅).RefusesAt 0 ∧
    ∀ (σ : Type) (service : RpcService σ) (world : σ),
      handleRpcCall (.only (.arr [.int 123])) (Json.arr [.int 123]).bytes false (.limit 1) service ∅ world =
        service.batch [.error { id := .null, err := .ofCode .invalidRequest }] world := by
  have noSequence : ¬ SequenceForm (.int 123) := by rintro ⟨⟩
  have found : [Json.int 123][0]? = some (.int 123) := rfl
  obtain ⟨refuses, batched, -⟩ :=
    nonObject_refused_iff (SerdeJson.only_reads (.arr [.int 123])) found (by simp) (.limit 1) ∅
  exact ⟨refuses.mpr ⟨Nat.le_refl 1, noSequence⟩, batched.run (Nat.le_refl 1)⟩

/-- The array of the fields of a call is executed. -/
theorem sequence_not_refused :
    ¬ (readMessage (.only (.arr [.arr [.str "2.0", .int 1, .str "say_hello", .null]]))
      (Json.arr [.arr [.str "2.0", .int 1, .str "say_hello", .null]]).bytes false .unlimited ∅).RefusesAt 0 ∧
    ∀ (σ : Type) (service : RpcService σ) (world : σ),
      handleRpcCall (.only (.arr [.arr [.str "2.0", .int 1, .str "say_hello", .null]]))
        (Json.arr [.arr [.str "2.0", .int 1, .str "say_hello", .null]]).bytes false .unlimited service ∅ world =
          service.batch [.ok (.call { id := .number 1, method := "say_hello", params := none } ∅)] world := by
  constructor
  · rw [readMessage_batch (SerdeJson.only_reads _) (allows_unlimited _)]
    rintro ⟨entry, found, refused⟩
    cases found
    have executed : (readRequest (.arr [.str "2.0", .int 1, .str "say_hello", .null])).isSome :=
      (request_arr_iff _).mpr ⟨.int 1, _, _, ⟨by decide, by decide⟩, rfl⟩
    rw [((readEntry_refused_iff ..).mp refused).1] at executed
    cases executed
  · intro σ service world
    rw [handleRpcCall, readMessage_batch (SerdeJson.only_reads _) (allows_unlimited _)]
    rfl

end Server

end Jsonrpsee
