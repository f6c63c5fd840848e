import Jsonrpsee.Server.MethodResponse
import Jsonrpsee.Types.Codec

/-! # Writing a response within its limit

`MethodResponse::response` lets `serde_json` write into a `BoundedWriter`. The
serializer decides how its output is cut into chunks and whether it fails on the
way. Whatever it does, no part of an output that was not completed is sent.
-/

namespace Jsonrpsee

namespace Server

/-- `io::ErrorKind`, as far as writing meets it. -/
inductive IoError where
  | outOfMemory
  | writeZero
  deriving Repr, DecidableEq

/-- Why `serde_json::to_writer` fails. -/
inductive SerError where
  | io (err : IoError)
  /-- An error of the value's own `Serialize`. -/
  | custom
  deriving Repr, DecidableEq

def SerError.isIo : SerError → Bool
  | .io _ => true
  | .custom => false

/-- Bounded writer that allows writing at most `maxLen` bytes. -/
structure BoundedWriter where
  maxLen : Nat
  buf : List UInt8
  deriving Repr, DecidableEq

/-- A run of the serializer: the chunks that it passes to `write_all`, and whether it
    fails behind them. -/
structure Serialization where
  chunks : List (List UInt8)
  fails : Bool

/-- All that is passed to the writer. -/
def Serialization.output (serializer : Serialization) : List UInt8 := serializer.chunks.flatten

namespace BoundedWriter

def new (maxLen : Nat) : BoundedWriter := { maxLen, buf := [] }

def write (w : BoundedWriter) (buf : List UInt8) : Except IoError (Nat × BoundedWriter) :=
  let len := w.buf.length + buf.length
  if w.maxLen ≥ len then .ok (buf.length, { w with buf := w.buf ++ buf }) else .error .outOfMemory

/-- `io::Write::write_all`: `write` until nothing is left. -/
def writeAll (w : BoundedWriter) (buf : List UInt8) : Except IoError BoundedWriter :=
  if _empty : buf = [] then .ok w
  else
    match w.write buf with
    | .error e => .error e
    | .ok (n, w) => if _zero : n = 0 then .error .writeZero else w.writeAll (buf.drop n)
termination_by buf.length
decreasing_by
  have some : 0 < buf.length := List.length_pos_iff.mpr _empty
  rw [List.length_drop]
  omega

/-- `serde_json::to_writer`. -/
def toWriter (w : BoundedWriter) (serializer : Serialization) : Except SerError BoundedWriter :=
  match serializer.chunks.foldlM writeAll w with
  | .error e => .error (.io e)
  | .ok w => if serializer.fails then .error .custom else .ok w

end BoundedWriter

/-! ## The response -/

/-- `String::from_utf8_unchecked`. -/
def fromUtf8Unchecked (bytes : List UInt8) : String := (String.fromUTF8? (ByteArray.mk bytes.toArray)).getD ""

/-- Of an error code, or of none. -/
def MethodResponseResult.asErrorCode : MethodResponseResult → Option Int
  | .failed code => some code
  | .success => none

/-- A method response whose JSON is only known as a text. -/
structure TextResponse where
  json : String
  successOrError : MethodResponseResult
  kind : ResponseKind
  onClose : Option MethodResponseNotifyTx
  deriving Repr, DecidableEq

def MethodResponse.toText (rp : MethodResponse) : TextResponse :=
  { json := rp.json.text, successOrError := rp.successOrError, kind := rp.kind, onClose := rp.onClose }

namespace Result

def onExit : Result → Option MethodResponseNotifyTx
  | .payload _ onExit | .unserializable _ onExit => onExit

/-- What is noted before anything is serialized. A value that fails to serialize is a
    success so far. -/
def successOrError : Result → MethodResponseResult
  | .payload inner _ => .ofPayload inner
  | .unserializable _ _ => .success

/-- The ways in which the response with this payload can be serialized. -/
def Serializes (id : Id) (serializer : Serialization) : Result → Prop
  | .payload inner _ => serializer.fails = false ∧ serializer.output = (Response.new inner id).toJson.bytes
  | .unserializable written _ => serializer.fails = true ∧ serializer.output.length = written

end Result

/-- `MethodResponse::response`, byte by byte. -/
def TextResponse.response (id : Id) (rp : Result) (serializer : Serialization) (maxResponseSize : Nat) : TextResponse :=
  let successOrError := rp.successOrError
  match (BoundedWriter.new maxResponseSize).toWriter serializer with
  | .ok writer =>
      { json := fromUtf8Unchecked writer.buf, successOrError, kind := .methodCall, onClose := rp.onExit }
  | .error err =>
      if err.isIo then
        { json := (Response.new (.error (exceeded (-32008) "Response is too big" maxResponseSize)) id).toJson.render
          successOrError := .failed (-32008)
          kind := .methodCall
          onClose := rp.onExit }
      else
        { json := (Response.new (.error (.ofCode .internalError)) id).toJson.render
          successOrError := .failed ErrorCode.internalError.code
          kind := .methodCall
          onClose := rp.onExit }

/-! ## What the writer accepts -/

namespace BoundedWriter

variable {w : BoundedWriter}

theorem writeAll_of_fits {buf : List UInt8} (fits : w.buf.length + buf.length ≤ w.maxLen) :
    w.writeAll buf = .ok { w with buf := w.buf ++ buf } := by
  unfold writeAll
  by_cases empty : buf = []
  · rw [dif_pos empty, empty, List.append_nil]
  · have some : ¬ buf.length = 0 := fun none => empty (List.length_eq_zero_iff.mp none)
    rw [dif_neg empty, write, if_pos fits]
    simp only [some, dif_neg, not_false_eq_true]
    rw [List.drop_length, writeAll, dif_pos rfl]

theorem writeAll_of_exceeds {buf : List UInt8} (within : w.buf.length ≤ w.maxLen)
    (exceeds : ¬ w.buf.length + buf.length ≤ w.maxLen) : w.writeAll buf = .error .outOfMemory := by
  have some : buf ≠ [] := by
    rintro rfl
    exact exceeds within
  unfold writeAll
  rw [dif_neg some, write, if_neg exceeds]

/-- How the output is cut into chunks makes no difference. -/
theorem foldlM_writeAll (within : w.buf.length ≤ w.maxLen) (chunks : List (List UInt8)) :
    chunks.foldlM writeAll w =
      if w.buf.length + chunks.flatten.length ≤ w.maxLen then .ok { w with buf := w.buf ++ chunks.flatten }
      else .error .outOfMemory := by
  induction chunks generalizing w with
  | nil =>
      rw [List.flatten_nil, List.length_nil, Nat.add_zero, if_pos within, List.append_nil]
      rfl
  | cons chunk rest ih =>
      rw [List.foldlM_cons, List.flatten_cons, List.length_append]
      by_cases fits : w.buf.length + chunk.length ≤ w.maxLen
      · have later : (w.buf ++ chunk).length ≤ w.maxLen := by rwa [List.length_append]
        have rest := @ih { w with buf := w.buf ++ chunk } later
        rw [writeAll_of_fits fits]
        simp only [List.length_append, List.append_assoc, Nat.add_assoc] at rest
        exact rest
      · have exceeds : ¬ w.buf.length + (chunk.length + rest.flatten.length) ≤ w.maxLen := by omega
        rw [writeAll_of_exceeds within fits, if_neg exceeds]
        rfl

theorem toWriter_new (maxLen : Nat) (serializer : Serialization) :
    (new maxLen).toWriter serializer =
      if serializer.output.length ≤ maxLen then
        if serializer.fails then .error .custom else .ok { maxLen, buf := serializer.output }
      else .error (.io .outOfMemory) := by
  have empty : (new maxLen).buf.length ≤ (new maxLen).maxLen := Nat.zero_le _
  have folded := foldlM_writeAll empty serializer.chunks
  simp only [new, List.length_nil, Nat.zero_add, List.nil_append] at folded
  rw [toWriter, new, folded, Serialization.output]
  by_cases fits : serializer.chunks.flatten.length ≤ maxLen
  · rw [if_pos fits, if_pos fits]
  · rw [if_neg fits, if_neg fits]

end BoundedWriter

theorem fromUtf8Unchecked_bytes (text : String) : fromUtf8Unchecked text.toByteArray.data.toList = text := by
  rw [fromUtf8Unchecked, fromUTF8?_toByteArray, Option.getD_some]

/-- The response depends on the limit and on what is written, not on how it is
    written. -/
theorem TextResponse.response_eq {id : Id} {rp : Result} {serializer : Serialization}
    (serializes : rp.Serializes id serializer) (maxResponseSize : Nat) :
    response id rp serializer maxResponseSize = (MethodResponse.response id rp maxResponseSize).toText := by
  rw [response, BoundedWriter.toWriter_new]
  cases rp with
  | payload inner onExit =>
      obtain ⟨succeeds, output⟩ := serializes
      have size : serializer.output.length = (RawText.ofJson (Response.new inner id).toJson).text.utf8ByteSize := by
        rw [output]
        rfl
      have text : fromUtf8Unchecked serializer.output = (RawText.ofJson (Response.new inner id).toJson).text := by
        rw [output]
        exact fromUtf8Unchecked_bytes _
      rw [MethodResponse.response, size, succeeds]
      by_cases fits : (RawText.ofJson (Response.new inner id).toJson).text.utf8ByteSize ≤ maxResponseSize
      · simp only [if_pos fits, Bool.false_eq_true, if_false, text]
        rfl
      · simp only [if_neg fits]
        rfl
  | unserializable written onExit =>
      obtain ⟨fails, output⟩ := serializes
      rw [MethodResponse.response, output, fails]
      by_cases fits : written ≤ maxResponseSize
      · simp only [if_pos fits, if_true]
        rfl
      · simp only [if_neg fits]
        rfl

/-! ## What the JSON says -/

/-- A member of an object. -/
def member (name : String) : Json → Option Json
  | .obj members => members.lookup name
  | _ => none

/-- The error code in the JSON of a response. -/
def errorCode (value : Json) : Option Int :=
  match (member "error" value).bind (member "code") with
  | some (.int code) => some code
  | _ => none

/-- `is_success` and `as_error_code` tell what the text says. -/
def TextResponse.Agrees (rp : TextResponse) : Prop :=
  ∃ value : Json, rp.json = value.render ∧
    ((member "result" value).isSome = true ↔ rp.successOrError = .success) ∧
    errorCode value = rp.successOrError.asErrorCode

theorem MethodResponse.agrees_error (id : Id) (err : ErrorObject) (onExit : Option MethodResponseNotifyTx) :
    ({ error id err with onClose := onExit } : MethodResponse).toText.Agrees := by
  refine ⟨(Response.new (.error err) id).toJson, rfl, ?_, ?_⟩
  · simp [member, Response.toJson, Response.new, List.lookup_cons, toText, error]
  · simp [errorCode, member, Response.toJson, Response.new, List.lookup_cons, toText, error, ErrorObject.toJson,
      MethodResponseResult.asErrorCode]

theorem MethodResponse.agrees_response (id : Id) (rp : Result) (maxResponseSize : Nat) :
    (response id rp maxResponseSize).toText.Agrees := by
  cases rp with
  | payload inner onExit =>
      unfold response
      dsimp only
      split
      · cases inner with
        | error err => exact agrees_error id err onExit
        | success result =>
            refine ⟨(Response.new (.success result) id).toJson, rfl, ?_, ?_⟩
            · simp [member, Response.toJson, Response.new, List.lookup_cons, toText, MethodResponseResult.ofPayload]
            · simp [errorCode, member, Response.toJson, Response.new, List.lookup_cons, toText,
                MethodResponseResult.ofPayload, MethodResponseResult.asErrorCode]
      · exact agrees_error id _ onExit
  | unserializable written onExit =>
      unfold response
      dsimp only
      split <;> exact agrees_error id _ onExit

/-! ## The three outcomes -/

/-- Which response is made of a payload. -/
inductive Outcome where
  | complete
  | oversized
  | internalError
  deriving Repr, DecidableEq

/-- The complete serialization of the response, if there is one. -/
def Result.text (id : Id) : Result → Option String
  | .payload inner _ => some (Response.new inner id).toJson.render
  | .unserializable _ _ => none

def Outcome.text (id : Id) (rp : Result) (maxResponseSize : Nat) : Outcome → Option String
  | .complete => rp.text id
  | .oversized =>
      some (Response.new (.error (exceeded (-32008) "Response is too big" maxResponseSize)) id).toJson.render
  | .internalError => some (Response.new (.error (.ofCode .internalError)) id).toJson.render

section Outcomes

variable {id : Id} {inner : ResponsePayload} {written maxResponseSize : Nat} {onExit : Option MethodResponseNotifyTx}

theorem Outcome.text_complete (fits : (Response.new inner id).toJson.render.utf8ByteSize ≤ maxResponseSize) :
    complete.text id (.payload inner onExit) maxResponseSize =
      some (MethodResponse.response id (.payload inner onExit) maxResponseSize).toText.json := by
  have fits : (RawText.ofJson (Response.new inner id).toJson).text.utf8ByteSize ≤ maxResponseSize := fits
  simp only [MethodResponse.response, if_pos fits]
  rfl

theorem Outcome.text_oversized (large : ¬ (Response.new inner id).toJson.render.utf8ByteSize ≤ maxResponseSize) :
    oversized.text id (.payload inner onExit) maxResponseSize =
      some (MethodResponse.response id (.payload inner onExit) maxResponseSize).toText.json := by
  have large : ¬ (RawText.ofJson (Response.new inner id).toJson).text.utf8ByteSize ≤ maxResponseSize := large
  simp only [MethodResponse.response, if_neg large]
  rfl

theorem Outcome.text_oversized_of_fails (large : ¬ written ≤ maxResponseSize) :
    oversized.text id (.unserializable written onExit) maxResponseSize =
      some (MethodResponse.response id (.unserializable written onExit) maxResponseSize).toText.json := by
  simp only [MethodResponse.response, if_neg large]
  rfl

theorem Outcome.text_internalError (fits : written ≤ maxResponseSize) :
    internalError.text id (.unserializable written onExit) maxResponseSize =
      some (MethodResponse.response id (.unserializable written onExit) maxResponseSize).toText.json := by
  simp only [MethodResponse.response, if_pos fits]
  rfl

end Outcomes

/-- The response is complete exactly when its serialization succeeds and fits; it is
    the error of an oversized response exactly when the output exceeds the limit before
    the serializer fails, and an internal error exactly when it fails within the limit. -/
theorem response_outcome (id : Id) (rp : Result) (serializer : Serialization) (maxResponseSize : Nat)
    (serializes : rp.Serializes id serializer) :
    (∃ outcome : Outcome,
      outcome.text id rp maxResponseSize = some (TextResponse.response id rp serializer maxResponseSize).json ∧
      (outcome = .complete ↔ ∃ text, rp.text id = some text ∧ text.utf8ByteSize ≤ maxResponseSize) ∧
      (outcome = .oversized ↔ maxResponseSize < serializer.output.length) ∧
      (outcome = .internalError ↔ serializer.fails = true ∧ serializer.output.length ≤ maxResponseSize)) ∧
    (TextResponse.response id rp serializer maxResponseSize).Agrees := by
  have refines := TextResponse.response_eq serializes maxResponseSize
  refine ⟨?_, refines ▸ MethodResponse.agrees_response id rp maxResponseSize⟩
  rw [refines]
  cases rp with
  | payload inner onExit =>
      obtain ⟨succeeds, output⟩ := serializes
      have size : serializer.output.length = (Response.new inner id).toJson.render.utf8ByteSize := by
        rw [output]
        rfl
      have succeeded : ¬ (serializer.fails = true ∧ serializer.output.length ≤ maxResponseSize) := by
        rintro ⟨fails, -⟩
        cases succeeds.symm.trans fails
      by_cases fits : (Response.new inner id).toJson.render.utf8ByteSize ≤ maxResponseSize
      · refine ⟨.complete, Outcome.text_complete fits, ?_, ?_, ?_⟩
        · exact iff_of_true rfl ⟨_, rfl, fits⟩
        · exact iff_of_false Outcome.noConfusion (Nat.not_lt.mpr (size ▸ fits))
        · exact iff_of_false Outcome.noConfusion succeeded
      · have large : ¬ ∃ text, (Result.payload inner onExit).text id = some text ∧
            text.utf8ByteSize ≤ maxResponseSize := by
          rintro ⟨text, same, small⟩
          exact fits (Option.some.inj same ▸ small)
        refine ⟨.oversized, Outcome.text_oversized fits, ?_, ?_, ?_⟩
        · exact iff_of_false Outcome.noConfusion large
        · exact iff_of_true rfl (size ▸ Nat.lt_of_not_le fits)
        · exact iff_of_false Outcome.noConfusion succeeded
  | unserializable written onExit =>
      obtain ⟨fails, rfl⟩ := serializes
      have noText : ¬ ∃ text, (Result.unserializable serializer.output.length onExit).text id = some text ∧
          text.utf8ByteSize ≤ maxResponseSize := by
        rintro ⟨text, none, -⟩
        cases none
      by_cases fits : serializer.output.length ≤ maxResponseSize
      · refine ⟨.internalError, Outcome.text_internalError fits, ?_, ?_, ?_⟩
        · exact iff_of_false Outcome.noConfusion noText
        · exact iff_of_false Outcome.noConfusion (Nat.not_lt.mpr fits)
        · exact iff_of_true rfl ⟨fails, fits⟩
      · refine ⟨.oversized, Outcome.text_oversized_of_fails fits, ?_, ?_, ?_⟩
        · exact iff_of_false Outcome.noConfusion noText
        · exact iff_of_true rfl (Nat.lt_of_not_le fits)
        · exact iff_of_false Outcome.noConfusion fun failed => fits failed.2

/-- The payload `3`, its response written in two chunks, under a limit of exactly its
    length. -/
theorem response_outcome_exact :
    (Result.payload (.success (.int 3)) none).Serializes (.number 7)
      { chunks := [(Response.new (.success (.int 3)) (.number 7)).toJson.bytes.take 10,
          (Response.new (.success (.int 3)) (.number 7)).toJson.bytes.drop 10]
        fails := false } ∧
    (TextResponse.response (.number 7) (.payload (.success (.int 3)) none)
      { chunks := [(Response.new (.success (.int 3)) (.number 7)).toJson.bytes.take 10,
          (Response.new (.success (.int 3)) (.number 7)).toJson.bytes.drop 10]
        fails := false } 35).Agrees := by
  have serializes : (Result.payload (.success (.int 3)) none).Serializes (.number 7)
      { chunks := [(Response.new (.success (.int 3)) (.number 7)).toJson.bytes.take 10,
          (Response.new (.success (.int 3)) (.number 7)).toJson.bytes.drop 10]
        fails := false } := by
    refine ⟨rfl, ?_⟩
    simp only [Serialization.output, List.flatten_cons, List.flatten_nil, List.append_nil, List.take_append_drop]
  exact ⟨serializes, (response_outcome (.number 7) _ _ 35 serializes).2⟩

end Server

end Jsonrpsee
