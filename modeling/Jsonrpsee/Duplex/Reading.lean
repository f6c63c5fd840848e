import Jsonrpsee.Client.Frames
import Jsonrpsee.Server.Asks
import Jsonrpsee.Server.Dispatch
import Jsonrpsee.Server.Items

/-! # What each side reads of the other

The server reads every frame of a client as what the client means by it, and
answers what the client waits for. The client reads every text of a server as
the answer to a call, as the answer to a batch or as a notification.
-/

namespace Jsonrpsee

open Server

/-- What a frame of the client asks for. -/
def askOf (frame : Json) : Option Ask :=
  match requestId frame, batchIds frame with
  | some id, _ => some (.single id)
  | none, some ids => some (.batch ids)
  | none, none => none

@[simp] theorem askOf_request (req : Request) : askOf req.toJson = some (.single req.id) := by
  rw [askOf, requestId_toJson]

theorem batchIds_map (reqs : List Request) : batchIds (.arr (reqs.map Request.toJson)) = some (reqs.map Request.id) := by
  rw [batchIds]
  induction reqs with
  | nil => rfl
  | cons req rest ih =>
      rw [List.map_cons, List.mapM_cons, requestId_toJson, ih]
      rfl

@[simp] theorem askOf_batch (reqs : List Request) :
    askOf (.arr (reqs.map Request.toJson)) = some (.batch (reqs.map Request.id)) := by
  rw [askOf, batchIds_map]
  rfl

@[simp] theorem askOf_notification (notif : PlainNotification) : askOf (Notification.toJson notif) = none := rfl

/-- The asks of some frames, calls and batches apart. -/
theorem filterMap_askOf_perm (frames : List Json) : (frames.filterMap askOf).Perm
    ((frames.filterMap requestId).map Ask.single ++ (frames.filterMap batchIds).map fun ids => .batch ids) := by
  induction frames with
  | nil => exact .nil
  | cons frame rest ih =>
      cases frame with
      | obj members =>
          have none : batchIds (.obj members) = none := rfl
          cases id : requestId (.obj members) with
          | none => simpa [List.filterMap_cons, askOf, id, none] using ih
          | some id => simpa [List.filterMap_cons, askOf, id, none] using ih
      | arr elems =>
          have none : requestId (.arr elems) = none := rfl
          cases ids : batchIds (.arr elems) with
          | none => simpa [List.filterMap_cons, askOf, ids, none] using ih
          | some ids =>
              simp only [List.filterMap_cons, askOf, ids, none, List.map_cons]
              exact (ih.cons _).trans List.perm_middle.symm
      | null | bool | int | float | str => exact ih

/-! ## The server reads the client -/

/-- The request as the server gets it: params that are `null` are absent. -/
def Request.received (req : Request) : Request := { req with params := req.params.bind Json.nonNull }

@[simp] theorem Request.received_id (req : Request) : req.received.id = req.id := rfl

theorem readRequest_received (req : Request) : readRequest req.toJson = some req.received := by
  have fields : req.toJson.fields ["jsonrpc", "id", "method", "params"] =
      some [some (.str "2.0"), some req.id.toJson, some (.str req.method), req.params] := by
    cases params : req.params <;> simp [Request.toJson, params, Json.fields, List.lookup_cons]
  simp only [readRequest, fields, TwoPointZero.fromJson, Id.fromJson_toJson, Json.asStr, Json.optionField_some,
    Request.received, Option.bind_eq_bind, Option.bind_some]

theorem readNotification_isSome (notif : PlainNotification) :
    ∃ got, PlainNotification.fromJson (Notification.toJson notif) = some got := by
  have fields : (Notification.toJson notif).fields ["jsonrpc", "method", "params"] =
      some [some (.str "2.0"), some (.str notif.method), some (notif.params.getD .null)] := by
    simp [Notification.toJson, Json.fields, List.lookup_cons]
  refine ⟨{ method := notif.method, params := (some (notif.params.getD .null)).bind Json.nonNull }, ?_⟩
  simp only [PlainNotification.fromJson, Notification.fromJson, fields, TwoPointZero.fromJson, Json.asStr,
    Json.optionField_some, Option.bind_eq_bind, Option.bind_some]

/-- The server lets a frame through. -/
def ServerAdmits (service : Service) : Json → Prop
  | .arr elems => service.batchRequestsConfig.allows elems.length
  | _ => True

section Up

variable {service : Service} (extensions : Extensions)

theorem read_request {req : Request} (reads : service.serde.fromSlice req.toJson.bytes = .ok req.toJson) :
    service.read req.toJson.bytes extensions = .call req.received extensions := by
  rw [Service.read, show splitMessage req.toJson.bytes = some (req.toJson.bytes, true) from splitMessage_obj _]
  simp only [readMessage_single reads, readRequest_received]

theorem read_notification {notif : PlainNotification}
    (reads : service.serde.fromSlice (Notification.toJson notif).bytes = .ok (Notification.toJson notif)) :
    ∃ got, service.read (Notification.toJson notif).bytes extensions = .notification got extensions := by
  obtain ⟨got, read⟩ := readNotification_isSome notif
  refine ⟨got, ?_⟩
  rw [Service.read,
    show splitMessage (Notification.toJson notif).bytes = some ((Notification.toJson notif).bytes, true) from
      splitMessage_obj _]
  simp only [readMessage_single reads, readRequest_notification, read]

theorem read_batch {reqs : List Request}
    (reads : service.serde.fromSlice (Json.arr (reqs.map Request.toJson)).bytes = .ok (.arr (reqs.map Request.toJson)))
    (allowed : service.batchRequestsConfig.allows reqs.length) :
    service.read (Json.arr (reqs.map Request.toJson)).bytes extensions =
      .batch (reqs.map fun req => .ok (.call req.received extensions)) := by
  rw [← List.length_map Request.toJson] at allowed
  rw [Service.read, splitMessage_arr]
  simp only [readMessage_batch reads allowed, List.map_map]
  congr 1
  refine List.map_congr_left fun req _ => ?_
  simp only [Function.comp_apply, readEntry, readRequest_received]

theorem callIds_map (reqs : List Request) :
    callIds (reqs.map fun req => .ok (.call req.received extensions)) = reqs.map Request.id := by
  induction reqs with
  | nil => rfl
  | cons req rest ih =>
      unfold callIds at ih ⊢
      rw [List.map_cons, List.flatMap_cons, ih]
      rfl

/-- The server takes a frame for what it asks for, and the message is in order. -/
theorem read_frame {frame : Json} (framed : Frame frame) (reads : service.serde.fromSlice frame.bytes = .ok frame)
    (admitted : ServerAdmits service frame) :
    (service.read frame.bytes extensions).ask = askOf frame ∧
      ((service.read frame.bytes extensions).WellFormed ∨
        ∃ n extensions', service.read frame.bytes extensions = .notification n extensions') := by
  cases framed with
  | request req =>
      rw [read_request extensions reads, askOf_request]
      exact ⟨rfl, .inl trivial⟩
  | notification notif =>
      obtain ⟨got, read⟩ := read_notification extensions reads
      rw [read, askOf_notification]
      exact ⟨rfl, .inr ⟨got, extensions, rfl⟩⟩
  | @batch reqs nonempty =>
      have allowed : service.batchRequestsConfig.allows reqs.length := by
        rw [← List.length_map Request.toJson]
        exact admitted
      rw [read_batch extensions reads allowed, askOf_batch]
      refine ⟨?_, .inl ⟨by simpa using nonempty, ?_⟩⟩
      · rw [Incoming.ask, callIds_map, if_neg (by simpa using nonempty)]
      · intro entry member
        obtain ⟨req, -, rfl⟩ := List.mem_map.mp member
        rfl

end Up

/-! ## The client reads the server -/

section Down

variable {serde : SerdeJson} {json : RawText}

theorem find_bytes_obj (members : List (String × Json)) :
    (Json.obj members).bytes.find? (fun byte => !Backend.isAsciiWhitespace byte) = some 123 := by
  obtain ⟨rest, starts⟩ := Json.bytes_obj members
  rw [starts]
  rfl

/-- The response that the client reads. -/
def Response.reread (r : Response) : Response := { r with payload := r.payload.reread }

theorem responseId_response (r : Response) : responseId r.toJson = some r.id := by
  obtain ⟨jsonrpc, payload, id⟩ := r
  cases jsonrpc <;> cases payload <;> exact Id.fromJson_toJson id

/-- A response object. -/
theorem reads_response {rp : MethodResponse} {r : Response} (built : r.Built) (same : rp.json = .ofJson r.toJson)
    (reads : serde.fromSlice rp.json.bytes = .ok rp.json.value) :
    serde.single rp.json.bytes = some r.reread ∧ answerTo rp.json.value = some (.single r.id) := by
  have bytes : rp.json.bytes = r.toJson.bytes := by
    rw [same]
    rfl
  have value : rp.json.value = r.toJson := by
    rw [same]
    rfl
  have starts : r.toJson.bytes.find? (fun byte => !Backend.isAsciiWhitespace byte) = some 123 := find_bytes_obj _
  constructor
  · rw [value, bytes] at reads
    rw [SerdeJson.single, bytes, starts, reads]
    exact Response.fromJson_toJson built
  · rw [value]
    exact answerTo_of_responseId (responseId_response r)

theorem find_bytes_arrayOf (rps : List MethodResponse) :
    (arrayOf rps).bytes.find? (fun byte => !Backend.isAsciiWhitespace byte) = some 91 := by
  have starts : ∃ rest, (arrayOf rps).bytes = 91 :: rest := by
    refine ⟨(",".intercalate (rps.map (·.json.text)) ++ "]").toByteArray.data.toList, ?_⟩
    rw [RawText.bytes, arrayOf, String.append_assoc, String.toByteArray_append, ByteArray.data_append,
      Array.toList_append]
    rfl
  obtain ⟨rest, starts⟩ := starts
  rw [starts]
  rfl

/-- The elements of an array are read one by one. -/
theorem mapM_formed {rps : List MethodResponse} (formed : ∀ rp ∈ rps, rp.Formed) :
    ∃ rs, (rps.map (·.json.value)).mapM Response.fromJson = some rs ∧
      rs.map Response.id = (rps.map (·.json.value)).filterMap responseId := by
  induction rps with
  | nil => exact ⟨[], rfl, rfl⟩
  | cons rp rest ih =>
      obtain ⟨rs, read, ids⟩ := ih fun other member => formed other (List.mem_cons_of_mem _ member)
      obtain ⟨r, built, same⟩ := formed rp List.mem_cons_self
      have value : rp.json.value = r.toJson := by
        rw [same]
        rfl
      refine ⟨r.reread :: rs, ?_, ?_⟩
      · rw [List.map_cons, List.mapM_cons, value, Response.fromJson_toJson built, read]
        rfl
      · rw [List.map_cons, List.map_cons, value, List.filterMap_cons_some (responseId_response r), ids]
        rfl

/-- An array of response objects. -/
theorem reads_batch {rps : List MethodResponse} (formed : ∀ rp ∈ rps, rp.Formed)
    (reads : serde.fromSlice (arrayOf rps).bytes = .ok (arrayOf rps).value) :
    ∃ rs, serde.responses (arrayOf rps).bytes = some rs ∧
      answerTo (arrayOf rps).value = some (.batch (rs.map Response.id)) ∧
      (rps.map (·.json.value)).mapM Response.fromJson = some rs := by
  obtain ⟨rs, read, ids⟩ := mapM_formed formed
  refine ⟨rs, ?_, ?_, read⟩
  · rw [SerdeJson.responses, find_bytes_arrayOf, reads]
    exact read
  · rw [ids]
    rfl

/-- A notification answers nothing. -/
theorem answerTo_notice (notice : Server.Notice json) : answerTo json.value = none := by
  obtain ⟨method, subId, member, value, either, rfl⟩ := notice
  rcases either with rfl | rfl <;> simp [RawText.ofJson, answerTo, responseId, List.lookup_cons]

/-- A notification of a subscription. -/
theorem reads_notice (notice : Server.Notice json) (reads : serde.fromSlice json.bytes = .ok json.value) :
    serde.Notifies json.bytes := by
  obtain ⟨method, subId, member, value, either, rfl⟩ := notice
  refine ⟨_, find_bytes_obj _, reads, ?_, ?_⟩
  · simp [RawText.ofJson, Response.fromJson, List.lookup_cons]
  · rcases either with rfl | rfl
    · exact .inl (Option.isSome_of_eq_some (notice_result method subId value))
    · exact .inr (.inl (Option.isSome_of_eq_some (notice_error method subId value)))

end Down

end Jsonrpsee
