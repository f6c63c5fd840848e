import Jsonrpsee.Lib.Table
import Jsonrpsee.Types.Text

/-! # Responses of the server

A method response is a JSON text with what the transport needs to know about
it. A batch response is put together as one text; its builder counts bytes and
refuses the response that would exceed the limit.
-/

namespace Jsonrpsee

namespace Server

/-- The type map that travels with a request: at most one value of each type. -/
abbrev Extensions := Table String String

/-- Later values replace earlier ones of the same type. -/
def Extensions.extend (extensions other : Extensions) : Extensions := other ∪ extensions

/-- The sending end that tells a method when its response has been processed. -/
abbrev MethodResponseNotifyTx := Nat

inductive ResponseKind where
  | methodCall
  | subscription
  | batch
  | notification
  deriving Repr, DecidableEq

/-- Represent the outcome of a method call success or failed. -/
inductive MethodResponseResult where
  | success
  /-- The method call failed with error code. -/
  | failed (code : Int)
  deriving Repr, DecidableEq

/-- Represents a response to a method call. -/
structure MethodResponse where
  json : RawText
  successOrError : MethodResponseResult
  kind : ResponseKind
  onClose : Option MethodResponseNotifyTx
  extensions : Extensions

/-- What the method of a call gives back. -/
inductive Result where
  | payload (inner : ResponsePayload) (onExit : Option MethodResponseNotifyTx)
  /-- The result's `Serialize` fails after it has written so many bytes. -/
  | unserializable (written : Nat) (onExit : Option MethodResponseNotifyTx)

def MethodResponseResult.ofPayload : ResponsePayload → MethodResponseResult
  | .error e => .failed e.code.code
  | .success _ => .success

namespace MethodResponse

def isSuccess (rp : MethodResponse) : Bool := rp.successOrError = .success

def isMethodCall (rp : MethodResponse) : Bool := rp.kind = .methodCall

def isBatch (rp : MethodResponse) : Bool := rp.kind = .batch

def withExtensions (rp : MethodResponse) (extensions : Extensions) : MethodResponse := { rp with extensions }

/-- Create a `MethodResponse` from a JSON-RPC error. -/
def error (id : Id) (err : ErrorObject) : MethodResponse :=
  { json := .ofJson (Response.new (.error err) id).toJson
    successOrError := .failed err.code.code
    kind := .methodCall
    onClose := none
    extensions := ∅ }

/-- The error of a response that does not fit. -/
def oversized (id : Id) (maxResponseSize : Nat) : MethodResponse :=
  error id (exceeded (-32008) "Response is too big" maxResponseSize)

/-- Create a new method response. If the serialization exceeds `maxResponseSize`
    then the response is changed to an error object. -/
def response (id : Id) (rp : Result) (maxResponseSize : Nat) : MethodResponse :=
  match rp with
  | .payload inner onExit =>
      let json := RawText.ofJson (Response.new inner id).toJson
      if json.text.utf8ByteSize ≤ maxResponseSize then
        { json
          successOrError := .ofPayload inner
          kind := .methodCall
          onClose := onExit
          extensions := ∅ }
      else { oversized id maxResponseSize with onClose := onExit }
  | .unserializable written onExit =>
      if written ≤ maxResponseSize then { error id (.ofCode .internalError) with onClose := onExit }
      else { oversized id maxResponseSize with onClose := onExit }

/-- As `response`, but sets a flag to indicate that response is a subscription. -/
def subscriptionResponse (id : Id) (rp : Result) (maxResponseSize : Nat) : MethodResponse :=
  { response id rp maxResponseSize with kind := .subscription }

/-- As `error`, but sets a flag to indicate that error is a subscription. -/
def subscriptionError (id : Id) (err : ErrorObject) : MethodResponse :=
  { error id err with kind := .subscription }

/-- Create notification response which is a response that doesn't expect a reply. -/
def notification : MethodResponse :=
  { json := .ofJson .null
    successOrError := .success
    kind := .notification
    onClose := none
    extensions := ∅ }

end MethodResponse

/-! ## Batch responses -/

/-- Serialized batch response. -/
structure BatchResponse where
  json : RawText
  extensions : Extensions

/-- Create a method response from `BatchResponse`. -/
def MethodResponse.fromBatch (batch : BatchResponse) : MethodResponse :=
  { json := batch.json
    successOrError := .success
    kind := .batch
    onClose := none
    extensions := batch.extensions }

/-- Builder to build a `BatchResponse`. -/
structure BatchResponseBuilder where
  result : String
  /-- What the texts appended so far denote. -/
  values : List Json
  maxResponseSize : Nat
  extensions : Extensions

namespace BatchResponseBuilder

def newWithLimit (limit : Nat) : BatchResponseBuilder :=
  { result := "[", values := [], maxResponseSize := limit, extensions := ∅ }

/-- Append a result from an individual method to the batch response. Fails if the
    max limit is exceeded and returns the error response to return early. -/
def append (b : BatchResponseBuilder) (response : MethodResponse) :
    Except MethodResponse Unit × BatchResponseBuilder :=
  -- `,` will occupy one extra byte for each entry; on the last item it is replaced by `]`.
  let len := response.json.text.utf8ByteSize + b.result.utf8ByteSize + 1
  let extensions := b.extensions.extend response.extensions
  if len > b.maxResponseSize then
    (.error (.error .null (rejectTooBigBatchResponse b.maxResponseSize)), { b with extensions })
  else
    (.ok (), { b with
      result := b.result ++ response.json.text ++ ","
      values := b.values ++ [response.json.value]
      extensions })

/-- Check if the batch is empty. -/
def isEmpty (b : BatchResponseBuilder) : Bool := b.result.utf8ByteSize ≤ 1

/-- `String::pop` of the last character. -/
def pop (text : String) : String := String.ofList text.toList.dropLast

/-- Finish the batch response. -/
def finish (b : BatchResponseBuilder) : BatchResponse :=
  if b.result.utf8ByteSize = 1 then
    { json := .ofJson (Response.new (.error (.ofCode .invalidRequest)) .null).toJson, extensions := b.extensions }
  else
    { json := { text := pop b.result ++ "]", value := .arr b.values }, extensions := b.extensions }

end BatchResponseBuilder

/-! ## What the builder holds -/

/-- The array of some responses, as a text with what it denotes. -/
def arrayOf (responses : List MethodResponse) : RawText :=
  { text := "[" ++ ",".intercalate (responses.map (·.json.text)) ++ "]"
    value := .arr (responses.map (·.json.value)) }

/-- An array without elements puts no bytes at stake; any other has to fit. -/
def Fits (limit : Nat) (responses : List MethodResponse) : Prop :=
  responses = [] ∨ (arrayOf responses).text.utf8ByteSize ≤ limit

instance (limit : Nat) (responses : List MethodResponse) : Decidable (Fits limit responses) :=
  inferInstanceAs (Decidable (_ ∨ _))

/-- The builder has accepted exactly these responses. -/
structure BatchResponseBuilder.Holds (b : BatchResponseBuilder) (responses : List MethodResponse) : Prop where
  result : b.result = "[" ++ String.join (responses.map fun response => response.json.text ++ ",")
  values : b.values = responses.map (·.json.value)

namespace BatchResponseBuilder

variable {b : BatchResponseBuilder} {responses : List MethodResponse}

/-- The texts of an array with a comma behind each of them. -/
theorem join_commas {texts : List String} (nonempty : texts ≠ []) :
    String.join (texts.map (· ++ ",")) = ",".intercalate texts ++ "," := by
  induction texts with
  | nil => exact absurd rfl nonempty
  | cons text rest ih =>
      rw [List.map_cons, String.join_cons]
      by_cases last : rest = []
      · subst last
        rw [List.map_nil, String.join_nil, String.append_empty, String.intercalate_singleton]
      · rw [ih last, String.intercalate_cons_of_ne_nil last]
        simp only [String.append_assoc]

theorem holds_newWithLimit (limit : Nat) : (newWithLimit limit).Holds [] := ⟨rfl, rfl⟩

namespace Holds

/-- The text of the builder is that of the array, but for the last byte. -/
theorem result_eq (holds : b.Holds responses) (nonempty : responses ≠ []) :
    b.result = "[" ++ ",".intercalate (responses.map (·.json.text)) ++ "," := by
  have commas := @join_commas (responses.map (·.json.text)) (by simpa only [ne_eq, List.map_eq_nil_iff] using nonempty)
  rw [List.map_map] at commas
  rw [holds.result, String.append_assoc, ← commas]
  rfl

theorem size_eq (holds : b.Holds responses) (nonempty : responses ≠ []) :
    b.result.utf8ByteSize = (arrayOf responses).text.utf8ByteSize := by
  rw [holds.result_eq nonempty]
  simp only [arrayOf, String.utf8ByteSize_append]
  rfl

/-- Only the opening bracket is there as long as nothing has been accepted. -/
theorem size_eq_one_iff (holds : b.Holds responses) : b.result.utf8ByteSize = 1 ↔ responses = [] := by
  constructor
  · intro small
    by_contra nonempty
    rw [holds.result_eq nonempty, String.utf8ByteSize_append, String.utf8ByteSize_append] at small
    have bracket : "[".utf8ByteSize = 1 := rfl
    have comma : ",".utf8ByteSize = 1 := rfl
    omega
  · rintro rfl
    rw [holds.result]
    rfl

theorem isEmpty_iff (holds : b.Holds responses) : b.isEmpty = true ↔ responses = [] := by
  rw [← holds.size_eq_one_iff, isEmpty, decide_eq_true_iff]
  have bracket : "[".utf8ByteSize = 1 := rfl
  rw [holds.result, String.utf8ByteSize_append]
  omega

/-- What the builder holds once it has accepted one more. -/
theorem accept (holds : b.Holds responses) (response : MethodResponse) :
    Holds { b with
      result := b.result ++ response.json.text ++ ","
      values := b.values ++ [response.json.value]
      extensions := b.extensions.extend response.extensions } (responses ++ [response]) := by
  constructor
  · rw [holds.result, List.map_append, String.join_append, List.map_singleton, String.join_cons, String.join_nil,
      String.append_empty]
    simp only [String.append_assoc]
  · rw [List.map_append, ← holds.values, List.map_singleton]

/-- The check of `append` is that the array with the response fits. -/
theorem fits_iff (holds : b.Holds responses) (response : MethodResponse) :
    Fits b.maxResponseSize (responses ++ [response]) ↔
      ¬ response.json.text.utf8ByteSize + b.result.utf8ByteSize + 1 > b.maxResponseSize := by
  have comma : ",".utf8ByteSize = 1 := rfl
  have size := (holds.accept response).size_eq (by simp)
  simp only [String.utf8ByteSize_append, comma] at size
  rw [Fits, ← size, Nat.add_comm b.result.utf8ByteSize, Nat.not_lt]
  simp

theorem append_of_fits (holds : b.Holds responses) {response : MethodResponse}
    (fits : Fits b.maxResponseSize (responses ++ [response])) :
    ∃ b', b.append response = (.ok (), b') ∧ b'.Holds (responses ++ [response]) ∧
      b'.maxResponseSize = b.maxResponseSize ∧ b'.extensions = b.extensions.extend response.extensions := by
  rw [append, if_neg ((holds.fits_iff response).mp fits)]
  exact ⟨_, rfl, holds.accept response, rfl, rfl⟩

theorem of_append (holds : b.Holds responses) {response : MethodResponse} {b' : BatchResponseBuilder}
    (appended : b.append response = (.ok (), b')) : b'.Holds (responses ++ [response]) := by
  unfold append at appended
  dsimp only at appended
  split at appended
  · cases appended
  · cases appended
    exact holds.accept response

theorem append_of_not_fits (holds : b.Holds responses) {response : MethodResponse}
    (large : ¬ Fits b.maxResponseSize (responses ++ [response])) :
    (b.append response).1 = .error (.error .null (rejectTooBigBatchResponse b.maxResponseSize)) := by
  rw [append, if_pos (not_not.mp ((holds.fits_iff response).not.mp large))]

/-- What is built is the array of the accepted responses. -/
theorem finish_eq (holds : b.Holds responses) :
    b.finish = if responses = [] then
        { json := .ofJson (Response.new (.error (.ofCode .invalidRequest)) .null).toJson, extensions := b.extensions }
      else { json := arrayOf responses, extensions := b.extensions } := by
  simp only [finish, holds.size_eq_one_iff]
  split
  · rfl
  · rename_i nonempty
    rw [holds.result_eq nonempty, pop, String.toList_append,
      show ",".toList = [','] from rfl, List.dropLast_concat, String.ofList_toList, holds.values, arrayOf]

end Holds

example :
    let method := MethodResponse.response (.number 1) (.payload (.success (.str "a")) none) 100
    ((newWithLimit 39).append method).2.finish.json.text =
      "[\x7b\x22jsonrpc\x22:\x222.0\x22,\x22id\x22:1,\x22result\x22:\x22a\x22\x7d]" := by decide +kernel

end BatchResponseBuilder

end Server

end Jsonrpsee
