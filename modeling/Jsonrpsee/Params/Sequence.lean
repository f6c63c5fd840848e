import Jsonrpsee.Macros.Params

/-! # The sequence parser

The parameters of a call can be taken one after the other off the text of an array. The
parser keeps the text that is left and looks at its first byte. How one value is read is
left to the reader: it skips whitespace, reads a value and tells where it ends.
-/

namespace Jsonrpsee

namespace Sequence

open Macros

/-! ## Arrays with whitespace -/

/-- The whitespace of JSON. -/
def Blank (text : Text) : Prop := ∀ c ∈ text, c = ' ' ∨ c = '\t' ∨ c = '\n' ∨ c = '\r'

/-- A value with the whitespace around it. -/
structure Element where
  lead : Text
  text : Text
  trail : Text
  value : Json

namespace Element

def chars (e : Element) : Text := e.lead ++ e.text ++ e.trail

def Valid (IsValue : Text → Json → Prop) (e : Element) : Prop :=
  Blank e.lead ∧ IsValue e.text e.value ∧ Blank e.trail

end Element

/-- The texts of an array over the texts of its values. -/
inductive IsArray (IsValue : Text → Json → Prop) : Text → List Json → Prop where
  | empty {gap : Text} : Blank gap → IsArray IsValue ('[' :: (gap ++ [']'])) []
  | elems {first : Element} {rest : List Element} : (∀ e ∈ first :: rest, e.Valid IsValue) →
      IsArray IsValue ('[' :: (first.chars ++ behind ']' (rest.map Element.chars)))
        ((first :: rest).map Element.value)

/-- What may follow a value. -/
def Delimited (rest : Text) : Prop :=
  rest.head? = some ',' ∨ rest.head? = some ']' ∨ ∃ c ∈ rest.head?, Blank [c]

/-- `StreamDeserializer`: whitespace is skipped, one value is read, and its end reported. -/
structure Streams (reader : JsonReader) (IsValue : Text → Json → Prop) : Prop where
  value : ∀ {text value lead rest}, IsValue text value → Blank lead → Delimited rest →
    reader.next (lead ++ (text ++ rest)) = .value value rest
  bracket : ∀ {lead} (rest : Text), Blank lead → reader.next (lead ++ ']' :: rest) = .failed

/-! ## Taking the parameters -/

/-- `serde_json::Value`. -/
def jsonValue : RustType :=
  { Carrier := Json, toJson := fun value => value, fromJson := some, missing := none }

inductive ParamsError where
  | noMoreParams
  /-- Anything that cannot be read. -/
  | invalid
  deriving Repr, DecidableEq

/-- Parse the next parameter to a value of any kind. -/
def next (reader : JsonReader) (seq : Text) : Except ParamsError Json × Text :=
  match nextInner reader jsonValue seq with
  | (some (some value), seq) => (.ok value, seq)
  | (some none, seq) => (.error .invalid, seq)
  | (none, seq) => (.error .noMoreParams, seq)

/-- The calls of the parser. -/
inductive Call where
  | next
  | optionalNext

inductive Answer where
  | next (result : Except ParamsError Json)
  | optionalNext (result : Except ParamsError (Option Json))

def Call.run (reader : JsonReader) (seq : Text) : Call → Answer × Text
  | .next =>
      let (result, seq) := Sequence.next reader seq
      (.next result, seq)
  | .optionalNext =>
      match Macros.optionalNext reader jsonValue seq with
      | (some value, seq) => (.optionalNext (.ok value), seq)
      | (none, seq) => (.optionalNext (.error .invalid), seq)

/-- The answers to any calls, one after the other. -/
def runCalls (reader : JsonReader) : List Call → Text → List Answer
  | [], _ => []
  | call :: calls, seq => (call.run reader seq).1 :: runCalls reader calls (call.run reader seq).2

/-- The answer for an element. An optional element that is `null` is none. -/
def Call.element (value : Json) : Call → Answer
  | .next => .next (.ok value)
  | .optionalNext => .optionalNext (.ok (value.asOption some).join)

/-- The answer behind the last element. -/
def Call.exhausted : Call → Answer
  | .next => .next (.error .noMoreParams)
  | .optionalNext => .optionalNext (.ok none)

/-- The elements in order, and then nothing, for ever. -/
def expected : List Call → List Json → List Answer
  | [], _ => []
  | call :: calls, [] => call.exhausted :: expected calls []
  | call :: calls, value :: values => call.element value :: expected calls values

/-! ## Whitespace -/

theorem Blank.isWhiteSpace {text : Text} (blank : Blank text) : ∀ c ∈ text, isWhiteSpace c = true := by
  intro c member
  rcases blank c member with rfl | rfl | rfl | rfl <;> rfl

theorem Blank.trimStart_append {lead : Text} (blank : Blank lead) (text : Text) :
    trimStart (lead ++ text) = trimStart text :=
  List.dropWhile_append_of_pos blank.isWhiteSpace

/-- `Params::new` removes what stands around the brackets. -/
theorem trim_array {lead trail : Text} (hlead : Blank lead) (htrail : Blank trail) (text : Text) :
    trim (lead ++ ('[' :: (text ++ [']']) ++ trail)) = '[' :: (text ++ [']']) := by
  have hreverse : Blank trail.reverse := fun c member => htrail c (List.mem_reverse.mp member)
  rw [trim, hlead.trimStart_append, List.cons_append, trimStart_cons rfl]
  have reversed : ('[' :: ((text ++ [']']) ++ trail)).reverse = trail.reverse ++ ']' :: (text.reverse ++ ['[']) := by
    simp
  rw [reversed, hreverse.trimStart_append, trimStart_cons rfl]
  simp

/-! ## One element after the other -/

section Elements

variable {reader : JsonReader} {IsValue : Text → Json → Prop}

theorem delimited_trail {trail : Text} (blank : Blank trail) (pieces : List Text) :
    Delimited (trail ++ behind ']' pieces) := by
  cases trail with
  | nil =>
      rcases head_behind pieces with comma | bracket
      · exact .inl comma
      · exact .inr (.inl bracket)
  | cons c trail => exact .inr (.inr ⟨c, rfl, fun d member => blank d (by simp_all)⟩)

/-- Behind the bracket and behind each comma, an element is read. -/
theorem next_element (streams : Streams reader IsValue) {e : Element} (valid : e.Valid IsValue) (pieces : List Text) :
    reader.next (e.chars ++ behind ']' pieces) = .value e.value (e.trail ++ behind ']' pieces) := by
  have text : e.chars ++ behind ']' pieces = e.lead ++ (e.text ++ (e.trail ++ behind ']' pieces)) := by
    simp [Element.chars]
  rw [text]
  exact streams.value valid.2.1 valid.1 (delimited_trail valid.2.2 pieces)

theorem nextInner_element (streams : Streams reader IsValue) {e : Element} (valid : e.Valid IsValue)
    (pieces : List Text) {c : Char} (opens : c = '[' ∨ c = ',') {t : RustType} {value : t.Carrier}
    (read : t.fromJson e.value = some value) :
    nextInner reader t (c :: (e.chars ++ behind ']' pieces)) = (some (some value), behind ']' pieces) := by
  have rest : trimStart (e.trail ++ behind ']' pieces) = behind ']' pieces := by
    rw [valid.2.2.trimStart_append, trimStart_behind]
  rcases opens with rfl | rfl <;> simp only [nextInner, next_element streams valid, read, rest]

theorem run_element (streams : Streams reader IsValue) {e : Element} (valid : e.Valid IsValue) (pieces : List Text)
    {c : Char} (opens : c = '[' ∨ c = ',') (call : Call) :
    call.run reader (c :: (e.chars ++ behind ']' pieces)) = (call.element e.value, behind ']' pieces) := by
  cases call with
  | next =>
      have same : jsonValue.fromJson e.value = some e.value := rfl
      have read := nextInner_element streams valid pieces opens same
      simp only [Call.run, next, read]
      rfl
  | optionalNext =>
      obtain ⟨value, read⟩ : ∃ value, jsonValue.option.fromJson e.value = some value := by
        cases e.value <;> exact ⟨_, rfl⟩
      have taken := nextInner_element streams valid pieces opens read
      simp only [Call.run, Macros.optionalNext, taken, Call.element]
      rw [show e.value.asOption some = some value from read]
      rfl

theorem run_nothing (call : Call) : call.run reader [] = (call.exhausted, []) := by
  cases call <;> rfl

theorem run_bracket (call : Call) : call.run reader [']'] = (call.exhausted, []) := by
  cases call <;> rfl

theorem runCalls_nothing (calls : List Call) : runCalls reader calls [] = expected calls [] := by
  induction calls with
  | nil => rfl
  | cons call calls ih => rw [runCalls, run_nothing, ih, expected]

/-- What is left behind an element is read to its end. -/
theorem runCalls_behind (streams : Streams reader IsValue) (calls : List Call) {rest : List Element}
    (valid : ∀ e ∈ rest, e.Valid IsValue) :
    runCalls reader calls (behind ']' (rest.map Element.chars)) = expected calls (rest.map Element.value) := by
  induction calls generalizing rest with
  | nil => cases rest <;> rfl
  | cons call calls ih =>
      cases rest with
      | nil =>
          change runCalls reader (call :: calls) [']'] = _
          rw [runCalls, run_bracket, runCalls_nothing, List.map_nil, expected]
      | cons e rest =>
          have cut : behind ']' ((e :: rest).map Element.chars) =
              ',' :: (e.chars ++ behind ']' (rest.map Element.chars)) := by
            simp [behind]
          rw [cut, runCalls, run_element streams (valid e List.mem_cons_self) _ (.inr rfl)]
          rw [ih fun other member => valid other (List.mem_cons_of_mem _ member), List.map_cons, expected]

end Elements

/-! ## Whole arrays -/

section Arrays

variable {reader : JsonReader} {IsValue : Text → Json → Prop} {text : Text} {values : List Json}

theorem IsArray.enclosed (array : IsArray IsValue text values) : ∃ inner, text = '[' :: (inner ++ [']']) := by
  cases array with
  | @empty gap _ => exact ⟨gap, rfl⟩
  | @elems first rest _ =>
      refine ⟨first.chars ++ (rest.map Element.chars).flatMap (',' :: ·), ?_⟩
      simp [behind]

/-- Where the parser starts: nowhere for the text `[]`, else at the bracket. -/
theorem IsArray.sequence (array : IsArray IsValue text values) {lead trail : Text} (hlead : Blank lead)
    (htrail : Blank trail) :
    Params.sequence (Params.new (some (lead ++ (text ++ trail)))) = if text = "[]".toList then [] else text := by
  obtain ⟨inner, rfl⟩ := array.enclosed
  rw [Params.new, Option.map_some, trim_array hlead htrail]
  rfl

/-- An array with elements is taken apart from its bracket on. -/
theorem runCalls_elems (streams : Streams reader IsValue) (array : IsArray IsValue text values) (filled : values ≠ [])
    (calls : List Call) : runCalls reader calls text = expected calls values := by
  cases array with
  | empty => exact absurd rfl filled
  | @elems first rest valid =>
      cases calls with
      | nil => rfl
      | cons call calls =>
          rw [runCalls, run_element streams (valid first List.mem_cons_self) _ (.inl rfl),
            runCalls_behind streams calls fun e member => valid e (List.mem_cons_of_mem _ member)]
          rfl

/-- A value is not empty: the reader would have to find it in front of a bracket. -/
theorem Streams.ne_nil (streams : Streams reader IsValue) {value : Json} : ¬ IsValue [] value := by
  intro isValue
  have found : reader.next ([] ++ ([] ++ [']'])) = .value value [']'] :=
    streams.value isValue (by simp [Blank]) (.inr (.inl rfl))
  have failed : reader.next ([] ++ ']' :: []) = .failed := streams.bracket [] (by simp [Blank])
  rw [List.nil_append, List.nil_append] at found
  rw [List.nil_append, found] at failed
  cases failed

/-- An array with elements is not the text `[]`. -/
theorem IsArray.ne_brackets (streams : Streams reader IsValue) (array : IsArray IsValue text values)
    (filled : values ≠ []) : text ≠ "[]".toList := by
  cases array with
  | empty => exact absurd rfl filled
  | @elems first rest valid =>
      intro brackets
      have length := congrArg List.length brackets
      have isValue := (valid first List.mem_cons_self).2.1
      have missing : first.text = [] := by
        rw [← List.length_eq_zero_iff]
        simp only [Element.chars, behind, List.length_cons, List.length_append, List.length_nil] at length
        have two : "[]".toList.length = 2 := rfl
        omega
      rw [missing] at isValue
      exact streams.ne_nil isValue

/-- The elements come in order, followed by the end for ever, exactly when there is one or
    nothing stands between the brackets. -/
theorem sequence_elements (streams : Streams reader IsValue) (array : IsArray IsValue text values)
    {lead trail : Text} (hlead : Blank lead) (htrail : Blank trail) :
    (∀ calls, runCalls reader calls (Params.sequence (Params.new (some (lead ++ (text ++ trail))))) =
      expected calls values) ↔ values ≠ [] ∨ text = "[]".toList := by
  rw [array.sequence hlead htrail]
  constructor
  · intro yields
    by_contra neither
    obtain ⟨none, blank⟩ := not_or.mp neither
    obtain rfl := not_not.mp none
    rw [if_neg blank] at yields
    -- The reader looks for a value between the brackets.
    cases array with
    | @empty gap hgap =>
        have answer := yields [.next]
        simp only [runCalls, Call.run, next, nextInner, streams.bracket [] hgap, expected, Call.exhausted] at answer
        cases answer
  · intro either calls
    by_cases filled : values = []
    · have brackets : text = "[]".toList := either.resolve_left (not_not.mpr filled)
      rw [if_pos brackets, filled]
      exact runCalls_nothing calls
    · rw [if_neg (array.ne_brackets streams filled)]
      exact runCalls_elems streams array filled calls

end Arrays

/-! ## A reader of two words -/

/-- A reader that knows `true` and `null`, and the texts of some values. -/
def wordReader (values : List Json) : JsonReader :=
  { fromStr := fun text => values.find? fun value => textOf value = text
    next := fun text =>
      match text.dropWhile Char.isWhitespace with
      | [] => .finished
      | 't' :: 'r' :: 'u' :: 'e' :: rest => .value (.bool true) rest
      | 'n' :: 'u' :: 'l' :: 'l' :: rest => .value .null rest
      | _ => .failed }

def IsWord (text : Text) (value : Json) : Prop :=
  text = "true".toList ∧ value = .bool true ∨ text = "null".toList ∧ value = .null

theorem Blank.dropWhile_append {lead : Text} (blank : Blank lead) (text : Text) :
    (lead ++ text).dropWhile Char.isWhitespace = text.dropWhile Char.isWhitespace := by
  refine List.dropWhile_append_of_pos fun c member => ?_
  rcases blank c member with rfl | rfl | rfl | rfl <;> rfl

theorem wordReader_streams (values : List Json) : Streams (wordReader values) IsWord := by
  constructor
  · intro text value lead rest isWord blank _
    simp only [wordReader, blank.dropWhile_append]
    rcases isWord with ⟨rfl, rfl⟩ | ⟨rfl, rfl⟩ <;> rfl
  · intro lead rest blank
    simp only [wordReader, blank.dropWhile_append]
    rfl

/-- A space between the brackets is read as a missing value. -/
theorem sequence_space :
    ¬ ∀ (reader : JsonReader) (IsValue : Text → Json → Prop) (text : Text) (values : List Json),
      Streams reader IsValue → IsArray IsValue text values →
      ∀ calls, runCalls reader calls (Params.sequence (Params.new (some text))) = expected calls values := by
  intro yields
  have array : IsArray IsWord ('[' :: ([' '] ++ [']'])) [] := .empty (by simp [Blank])
  have answer := yields (wordReader []) IsWord _ _ (wordReader_streams []) array [.next]
  cases answer

/-- Whitespace around brackets, commas and values, and calls behind the end. -/
theorem sequence_elements_spaced :
    runCalls (wordReader []) [.next, .optionalNext, .next, .optionalNext]
        (Params.sequence (Params.new (some " [ true ,null\n]".toList))) =
      [.next (.ok (.bool true)), .optionalNext (.ok none), .next (.error .noMoreParams), .optionalNext (.ok none)] := by
  let first : Element := { lead := [' '], text := "true".toList, trail := [' '], value := .bool true }
  let second : Element := { lead := [], text := "null".toList, trail := ['\n'], value := .null }
  have valid : ∀ e ∈ [first, second], e.Valid IsWord := by
    intro e member
    simp only [List.mem_cons, List.not_mem_nil, or_false] at member
    rcases member with rfl | rfl
    · exact ⟨by simp [Blank, first], .inl ⟨rfl, rfl⟩, by simp [Blank, first]⟩
    · exact ⟨by simp [Blank, second], .inr ⟨rfl, rfl⟩, by simp [Blank, second]⟩
  have blank : Blank [' '] := by simp [Blank]
  exact (sequence_elements (wordReader_streams []) (.elems valid) blank (by simp [Blank])).mpr (.inl (by simp))
    [.next, .optionalNext, .next, .optionalNext]

end Sequence

end Jsonrpsee
