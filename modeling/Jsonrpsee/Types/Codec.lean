import Jsonrpsee.Types.Text

/-! # Reading responses back

What the deserializers make of the texts that the serializers write. An error
object is read back up to two details: its code goes through `From<i32>`, and
data that is `null` is taken for absent data.
-/

namespace Jsonrpsee

/-- `Option` takes the value `null` for absence. -/
def Json.nonNull : Json → Option Json
  | .null => none
  | value => some value

/-- `String::from_utf8` gives back a string whose bytes it gets. -/
theorem fromUTF8?_toByteArray (text : String) :
    String.fromUTF8? (ByteArray.mk text.toByteArray.data.toList.toArray) = some text := by
  have whole : ByteArray.mk text.toByteArray.data.toList.toArray = text.toByteArray := by rw [Array.toArray_toList]
  rw [whole, String.fromUTF8?, dif_pos text.isValidUTF8]
  rfl

/-- It gives back nothing else. -/
theorem fromUTF8?_eq_some_iff {raw : List UInt8} {text : String} :
    String.fromUTF8? (ByteArray.mk raw.toArray) = some text ↔ raw = text.toByteArray.data.toList := by
  constructor
  · intro utf8
    unfold String.fromUTF8? at utf8
    split at utf8
    · cases utf8
      rfl
    · cases utf8
  · rintro rfl
    exact fromUTF8?_toByteArray text

/-- The bytes of the text that is written for a value. -/
def Json.bytes (value : Json) : List UInt8 := value.render.toByteArray.data.toList

def RawText.bytes (raw : RawText) : List UInt8 := raw.text.toByteArray.data.toList

/-- A reader of the text of one value. -/
def SerdeJson.only (value : Json) : SerdeJson :=
  { fromSlice := fun raw => if raw = value.bytes then .ok value else .error "expected value at line 1 column 1"
    toString := Json.render }

theorem SerdeJson.only_reads (value : Json) : (only value).fromSlice value.bytes = .ok value := if_pos rfl

theorem Json.bytes_obj (members : List (String × Json)) : ∃ rest, (Json.obj members).bytes = 123 :: rest := by
  refine ⟨(Json.renderMembers members ++ "\x7d").toByteArray.data.toList, ?_⟩
  rw [Json.bytes, Json.render, String.append_assoc, String.toByteArray_append, ByteArray.data_append,
    Array.toList_append]
  rfl

theorem Json.bytes_arr (elems : List Json) : ∃ rest, (Json.arr elems).bytes = 91 :: rest := by
  refine ⟨(Json.renderElems elems ++ "]").toByteArray.data.toList, ?_⟩
  rw [Json.bytes, Json.render, String.append_assoc, String.toByteArray_append, ByteArray.data_append,
    Array.toList_append]
  rfl

theorem Json.asOption_some (value : Json) : value.asOption some = some value.nonNull := by
  cases value <;> rfl

theorem Json.bind_nonNull_iff (data : Option Json) : data.bind Json.nonNull = data ↔ data ≠ some .null := by
  cases data with
  | none => simp
  | some value => cases value <;> simp [Json.nonNull]

theorem Json.optionField_some (field : Option Json) :
    Json.optionField some field = some (field.bind Json.nonNull) := by
  cases field with
  | none => rfl
  | some value => exact value.asOption_some

namespace ErrorCode

/-- The number is an `i32`, as the type of the source has it. -/
def InRange (code : ErrorCode) : Prop := -2 ^ 31 ≤ code.code ∧ code.code < 2 ^ 31

/-- The codes that `From<i32>` gives a variant of their own. -/
def named : List Int := [-32700, -32007, -32600, -32601, -32602, -32603]

/-- The codes whose number stands for another code: the busy code, for which
    `From<i32>` has no arm, and a server error with the number of a named code. -/
def Misread (code : ErrorCode) : Prop := code = .serverIsBusy ∨ ∃ n ∈ named, code = .serverError n

theorem ofInt_of_not_mem {n : Int} (unnamed : n ∉ named) : ofInt n = .serverError n := by
  simp only [named, List.mem_cons, List.not_mem_nil, or_false, not_or] at unnamed
  obtain ⟨parse, oversized, request, method, params, internal⟩ := unnamed
  simp only [ofInt, parse, oversized, request, method, params, internal, if_false]

theorem ofInt_ne_of_mem {n : Int} (isNamed : n ∈ named) : ofInt n ≠ .serverError n := by
  simp only [named, List.mem_cons, List.not_mem_nil, or_false] at isNamed
  rcases isNamed with rfl | rfl | rfl | rfl | rfl | rfl <;> decide

theorem code_ofInt (n : Int) : (ofInt n).code = n := by
  by_cases isNamed : n ∈ named
  · simp only [named, List.mem_cons, List.not_mem_nil, or_false] at isNamed
    rcases isNamed with rfl | rfl | rfl | rfl | rfl | rfl <;> rfl
  · rw [ofInt_of_not_mem isNamed, code]

/-- A code survives the way through its number unless it is a misread one. -/
theorem ofInt_code_iff (code : ErrorCode) : ofInt code.code = code ↔ ¬ code.Misread := by
  cases code with
  | serverIsBusy =>
      have missing : ofInt (-32009) ≠ .serverIsBusy := by decide
      exact iff_of_false missing (not_not_intro (.inl rfl))
  | serverError n =>
      have misread : (serverError n).Misread ↔ n ∈ named := by simp [Misread]
      rw [misread]
      constructor
      · intro same isNamed
        exact ofInt_ne_of_mem isNamed same
      · exact ofInt_of_not_mem
  | parseError | oversizedRequest | invalidRequest | methodNotFound | invalidParams | internalError =>
      exact iff_of_true (by decide) (by simp [Misread])

end ErrorCode

namespace ErrorObject

/-- The error objects of the public constructors. -/
inductive Built : ErrorObject → Prop
  /-- `owned` builds the same object; its data has been serialized already. -/
  | borrowed (code : Int) (message : String) (data : Option RawValue) (inRange : -2 ^ 31 ≤ code ∧ code < 2 ^ 31) :
      Built (.borrowed code message data)
  | ofCode (code : ErrorCode) (inRange : code.InRange) : Built (.ofCode code)

/-- What is read of an error object that was written. -/
def reread (e : ErrorObject) : ErrorObject :=
  { code := .ofInt e.code.code, message := e.message, data := e.data.bind Json.nonNull }

theorem fromJson_toJson {e : ErrorObject} (inRange : e.code.InRange) : fromJson e.toJson = some e.reread := by
  have code : (Json.int e.code.code).asI32 = some e.code.code := if_pos inRange
  have fields : e.toJson.fieldsStrict ["code", "message", "data"] =
      some [some (.int e.code.code), some (.str e.message), e.data] := by
    cases data : e.data <;> simp [toJson, data, Json.fieldsStrict, Json.fields, List.lookup_cons]
  simp only [fromJson, fields, code, Json.asStr, Json.optionField_some, Option.bind_eq_bind, Option.bind_some, reread]

theorem reread_eq_iff (e : ErrorObject) : e.reread = e ↔ ¬ e.code.Misread ∧ e.data ≠ some .null := by
  rw [← e.code.ofInt_code_iff, ← Json.bind_nonNull_iff]
  constructor
  · intro same
    exact ⟨congrArg ErrorObject.code same, congrArg ErrorObject.data same⟩
  · rintro ⟨code, data⟩
    simp only [reread, code, data]

/-- The text of an error object does not tell two codes with one number apart. -/
theorem toJson_reread_iff (e : ErrorObject) : e.reread.toJson = e.toJson ↔ e.data ≠ some .null := by
  rw [← Json.bind_nonNull_iff, toJson, toJson, reread, ErrorCode.code_ofInt]
  cases e.data with
  | none => simp
  | some value => cases value <;> simp [Json.nonNull]

theorem Built.inRange {e : ErrorObject} (built : e.Built) : e.code.InRange := by
  cases built with
  | ofCode code inRange => exact inRange
  | borrowed code message data inRange =>
      rw [ErrorCode.InRange, ErrorObject.borrowed, ErrorCode.code_ofInt]
      exact inRange

end ErrorObject

/-- What is read of a payload that was written. -/
def ResponsePayload.reread : ResponsePayload → ResponsePayload
  | .success result => .success result
  | .error e => .error e.reread

namespace Response

/-- The error object, if there is one, is one of the public constructors. The
    other parts of a response are public. -/
def Built (rp : Response) : Prop := ∀ e, rp.payload = .error e → e.Built

theorem fromJson_toJson {rp : Response} (built : rp.Built) :
    fromJson rp.toJson = some { rp with payload := rp.payload.reread } := by
  obtain ⟨jsonrpc, payload, id⟩ := rp
  cases payload with
  | success result =>
      cases jsonrpc <;>
        simp [fromJson, toJson, List.lookup_cons, Id.fromJson_toJson, ResponsePayload.reread, Json.optionField,
          Json.asOption, TwoPointZero.fromJson]
  | error e =>
      have read := ErrorObject.fromJson_toJson (built e rfl).inRange
      cases jsonrpc <;>
        simp [fromJson, toJson, List.lookup_cons, Id.fromJson_toJson, ResponsePayload.reread, Json.optionField,
          Json.asOption, TwoPointZero.fromJson, read]

/-- A response is read back as it was written, unless it holds an error whose
    number stands for another code or whose data is `null`. -/
theorem roundTrip_iff {rp : Response} (built : rp.Built) :
    fromJson rp.toJson = some rp ↔ ∀ e, rp.payload = .error e → ¬ e.code.Misread ∧ e.data ≠ some .null := by
  rw [fromJson_toJson built, Option.some_inj]
  obtain ⟨jsonrpc, payload, id⟩ := rp
  cases payload with
  | success result => simp [ResponsePayload.reread]
  | error e =>
      rw [mk.injEq]
      simp only [ResponsePayload.reread, ResponsePayload.error.injEq, e.reread_eq_iff, true_and, and_true,
        forall_eq']

theorem roundTrip_serverError :
    Built (.new (.error (.borrowed (-32000) "unavailable" (some (.str "retry")))) (.number 7)) ∧
    fromJson (toJson (.new (.error (.borrowed (-32000) "unavailable" (some (.str "retry")))) (.number 7))) =
      some (.new (.error (.borrowed (-32000) "unavailable" (some (.str "retry")))) (.number 7)) := by
  have built : Built (.new (.error (.borrowed (-32000) "unavailable" (some (.str "retry")))) (.number 7)) := by
    rintro e ⟨⟩
    exact .borrowed _ _ _ (by decide)
  refine ⟨built, (roundTrip_iff built).mpr ?_⟩
  rintro e ⟨⟩
  exact ⟨(ErrorCode.ofInt_code_iff _).mp rfl, by simp [ErrorObject.borrowed]⟩

/-- The response to a call on a server at capacity comes back with another code. -/
theorem busy_not_roundTrip : Built (.new (.error (.ofCode .serverIsBusy)) (.number 7)) ∧
    fromJson (toJson (.new (.error (.ofCode .serverIsBusy)) (.number 7))) ≠
      some (.new (.error (.ofCode .serverIsBusy)) (.number 7)) := by
  have built : Built (.new (.error (.ofCode .serverIsBusy)) (.number 7)) := by
    rintro e ⟨⟩
    exact .ofCode _ ⟨by decide, by decide⟩
  refine ⟨built, ?_⟩
  rw [fromJson_toJson built]
  intro same
  injection same with same
  injection same with _ payload
  injection payload with e
  injection e with code
  cases code

end Response

end Jsonrpsee
