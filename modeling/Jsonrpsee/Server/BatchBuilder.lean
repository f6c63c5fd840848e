import Jsonrpsee.Server.MethodResponse
import Jsonrpsee.Params.Sequence

/-! # A builder that is used on after a refusal

A batch stops at the first response that does not fit. The builder itself does not: what it
refuses leaves no trace in its text, and a smaller response may still be accepted.
-/

namespace Jsonrpsee

namespace Server

open Sequence Macros

namespace BatchResponseBuilder

/-- The builder after some appends, failing ones among them. -/
def appendAll (b : BatchResponseBuilder) : List MethodResponse → BatchResponseBuilder
  | [] => b
  | response :: rest => (b.append response).2.appendAll rest

/-- The responses that were accepted on the way. -/
def accepted (b : BatchResponseBuilder) : List MethodResponse → List MethodResponse
  | [] => []
  | response :: rest =>
      match (b.append response).1 with
      | .ok () => response :: (b.append response).2.accepted rest
      | .error _ => (b.append response).2.accepted rest

variable {b : BatchResponseBuilder} {taken : List MethodResponse}

/-! ## One append -/

theorem append_maxResponseSize (b : BatchResponseBuilder) (response : MethodResponse) :
    (b.append response).2.maxResponseSize = b.maxResponseSize := by
  rw [append]
  split <;> rfl

/-- A refused response leaves only its extensions behind. -/
theorem append_of_error {response err : MethodResponse} (refused : (b.append response).1 = .error err) :
    (b.append response).2 = { b with extensions := b.extensions.extend response.extensions } := by
  rw [append] at refused ⊢
  split at refused
  · rename_i large
    rw [if_pos large]
  · cases refused

theorem Holds.of_error (holds : b.Holds taken) {response err : MethodResponse}
    (refused : (b.append response).1 = .error err) : (b.append response).2.Holds taken := by
  rw [append_of_error refused]
  exact ⟨holds.result, holds.values⟩

theorem Holds.of_ok (holds : b.Holds taken) {response : MethodResponse} (ok : (b.append response).1 = .ok ()) :
    (b.append response).2.Holds (taken ++ [response]) :=
  holds.of_append (Prod.ext ok rfl)

/-- The check is exact: an array with an element in it is never the empty one. -/
theorem Holds.append_iff (holds : b.Holds taken) (response : MethodResponse) :
    (b.append response).1 = .ok () ↔
      (arrayOf (taken ++ [response])).text.utf8ByteSize ≤ b.maxResponseSize := by
  have fits : Fits b.maxResponseSize (taken ++ [response]) ↔
      (arrayOf (taken ++ [response])).text.utf8ByteSize ≤ b.maxResponseSize := by
    simp [Fits]
  rw [← fits]
  constructor
  · intro ok
    by_contra large
    rw [holds.append_of_not_fits large] at ok
    cases ok
  · intro fit
    obtain ⟨b', appended, -⟩ := holds.append_of_fits fit
    rw [appended]

/-! ## Any sequence of appends -/

theorem appendAll_maxResponseSize (b : BatchResponseBuilder) (responses : List MethodResponse) :
    (b.appendAll responses).maxResponseSize = b.maxResponseSize := by
  induction responses generalizing b with
  | nil => rfl
  | cons response rest ih => rw [appendAll, ih, append_maxResponseSize]

/-- What the builder holds is what it held, and what it has accepted since. -/
theorem Holds.appendAll (holds : b.Holds taken) (responses : List MethodResponse) :
    (b.appendAll responses).Holds (taken ++ b.accepted responses) := by
  induction responses generalizing b taken with
  | nil => simpa only [BatchResponseBuilder.appendAll, accepted, List.append_nil] using holds
  | cons response rest ih =>
      rw [BatchResponseBuilder.appendAll, accepted]
      cases outcome : (b.append response).1 with
      | ok _ =>
          have more := ih (holds.of_ok outcome)
          rwa [List.append_assoc, List.singleton_append] at more
      | error err => exact ih (holds.of_error outcome)

/-- The array that is held has passed the check when its last element was accepted. -/
theorem Holds.fits_appendAll (holds : b.Holds taken) (fits : Fits b.maxResponseSize taken)
    (responses : List MethodResponse) : Fits b.maxResponseSize (taken ++ b.accepted responses) := by
  induction responses generalizing b taken with
  | nil => simpa only [accepted, List.append_nil] using fits
  | cons response rest ih =>
      rw [accepted]
      cases outcome : (b.append response).1 with
      | ok _ =>
          have size := (holds.append_iff response).mp outcome
          have more := ih (holds.of_ok outcome) (.inr (by rwa [append_maxResponseSize]))
          rwa [append_maxResponseSize, List.append_assoc, List.singleton_append] at more
      | error err =>
          have more := ih (holds.of_error outcome) (by rwa [append_maxResponseSize])
          rwa [append_maxResponseSize] at more

/-! ## The text is JSON -/

/-- A compact element. -/
def element (response : MethodResponse) : Element :=
  { lead := [], text := response.json.text.toList, trail := [], value := response.json.value }

theorem intercalate_toList (texts : List String) (first : String) :
    ((",".intercalate (first :: texts)) ++ "]").toList = first.toList ++ behind ']' (texts.map String.toList) := by
  induction texts generalizing first with
  | nil => simp [behind]
  | cons second rest ih =>
      rw [String.intercalate_cons_of_ne_nil (List.cons_ne_nil _ _), String.append_assoc, String.append_assoc,
        String.toList_append, String.toList_append, ih]
      simp [behind]

/-- The array of some responses is an array of JSON when each of them is JSON. -/
theorem isArray_arrayOf {IsValue : Text → Json → Prop} {responses : List MethodResponse} (nonempty : responses ≠ [])
    (valid : ∀ response ∈ responses, IsValue response.json.text.toList response.json.value) :
    IsArray IsValue (arrayOf responses).text.toList (responses.map (·.json.value)) := by
  cases responses with
  | nil => exact absurd rfl nonempty
  | cons first rest =>
      have elements : ∀ e ∈ element first :: rest.map element, e.Valid IsValue := by
        intro e member
        rw [← List.map_cons] at member
        obtain ⟨response, offered, rfl⟩ := List.mem_map.mp member
        exact ⟨by simp [element, Blank], valid response offered, by simp [element, Blank]⟩
      have array := IsArray.elems elements
      have text : (arrayOf (first :: rest)).text.toList =
          '[' :: ((element first).chars ++ behind ']' ((rest.map element).map Element.chars)) := by
        rw [arrayOf, List.map_cons, String.append_assoc, String.toList_append, intercalate_toList]
        simp [element, Element.chars, Function.comp_def]
      rw [text]
      simpa only [List.map_cons, List.map_map, Function.comp_def, element] using array

theorem accepted_sublist (b : BatchResponseBuilder) (responses : List MethodResponse) :
    (b.accepted responses).Sublist responses := by
  induction responses generalizing b with
  | nil => exact List.Sublist.refl _
  | cons response rest ih =>
      rw [accepted]
      split
      · exact (ih _).cons_cons response
      · exact (ih _).cons response

/-- The builder is exact about its limit, after failures as well, and what it builds is the array of
    what it has accepted. -/
theorem append_exact (limit : Nat) (responses : List MethodResponse) :
    (∀ response,
      (((newWithLimit limit).appendAll responses).append response).1 = .ok () ↔
        (arrayOf ((newWithLimit limit).accepted responses ++ [response])).text.utf8ByteSize ≤ limit) ∧
    (∀ response err,
      (((newWithLimit limit).appendAll responses).append response).1 = .error err →
        (((newWithLimit limit).appendAll responses).append response).2.result =
          ((newWithLimit limit).appendAll responses).result) ∧
    ((newWithLimit limit).accepted responses ≠ [] →
      ((newWithLimit limit).appendAll responses).finish.json = arrayOf ((newWithLimit limit).accepted responses) ∧
      ((newWithLimit limit).appendAll responses).finish.json.text.utf8ByteSize ≤ limit ∧
      ∀ IsValue : Text → Json → Prop,
        (∀ response ∈ responses, IsValue response.json.text.toList response.json.value) →
          IsArray IsValue ((newWithLimit limit).appendAll responses).finish.json.text.toList
            (((newWithLimit limit).accepted responses).map (·.json.value))) := by
  have start := holds_newWithLimit limit
  have holds := start.appendAll responses
  have fits := start.fits_appendAll (.inl rfl) responses
  rw [List.nil_append] at holds fits
  have size := appendAll_maxResponseSize (newWithLimit limit) responses
  refine ⟨fun response => ?_, fun response err refused => ?_, fun nonempty => ?_⟩
  · rw [holds.append_iff response, size]
    rfl
  · rw [append_of_error refused]
  · have built : ((newWithLimit limit).appendAll responses).finish.json =
        arrayOf ((newWithLimit limit).accepted responses) := by
      rw [holds.finish_eq, if_neg nonempty]
    rw [built]
    refine ⟨rfl, fits.resolve_left nonempty, fun IsValue valid => ?_⟩
    exact isArray_arrayOf nonempty fun response member =>
      valid response ((accepted_sublist _ responses).subset member)

/-- Three answers: the second is too large for the rest of the room. -/
def threeAnswers : List MethodResponse :=
  [.response (.number 1) (.payload (.success (.str "a")) none) 100,
    .response (.number 2) (.payload (.success (.str "too large to fit")) none) 100,
    .response (.number 3) (.payload (.success (.str "b")) none) 100]

/-- The array of the first and the third is built. -/
theorem append_exact_refused :
    ((newWithLimit 79).accepted threeAnswers).length = 2 ∧
    ((newWithLimit 79).appendAll threeAnswers).finish.json.text =
      "[\x7b\x22jsonrpc\x22:\x222.0\x22,\x22id\x22:1,\x22result\x22:\x22a\x22\x7d," ++
        "\x7b\x22jsonrpc\x22:\x222.0\x22,\x22id\x22:3,\x22result\x22:\x22b\x22\x7d]" ∧
    ∃ values, IsArray (fun text value => text = textOf value)
      ((newWithLimit 79).appendAll threeAnswers).finish.json.text.toList values := by
  obtain ⟨-, -, built⟩ := append_exact 79 threeAnswers
  have two : ((newWithLimit 79).accepted threeAnswers).length = 2 := by decide +kernel
  obtain ⟨array, -, grammar⟩ := built (List.ne_nil_of_length_eq_add_one two)
  refine ⟨two, ?_, _, grammar (fun text value => text = textOf value) ?_⟩
  · rw [array]
    decide +kernel
  · intro response member
    simp only [threeAnswers, List.mem_cons, List.not_mem_nil, or_false] at member
    rcases member with rfl | rfl | rfl <;> decide +kernel

end BatchResponseBuilder

end Server

end Jsonrpsee
