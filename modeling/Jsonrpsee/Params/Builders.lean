import Jsonrpsee.Params.Sequence

/-! # The parameter builders

A value is serialized straight into the text of the builder. When all goes well, the text
is that of an array or an object, and the sequence parser gives the values back. A value
that cannot be serialized leaves behind what has been written of it.
-/

namespace Jsonrpsee

namespace Builders

open Macros Sequence

/-- What becomes of a value in `serde_json::to_writer`. -/
inductive Serialized where
  | ok (value : Json)
  /-- The `Serialize` implementation fails behind the text that it has written. -/
  | failed (written : Text) (error : String)

namespace Serialized

def isOk : Serialized → Bool
  | .ok _ => true
  | .failed _ _ => false

/-- The text that is written. -/
def written : Serialized → Text
  | .ok value => textOf value
  | .failed written _ => written

/-- What `to_writer` returns. -/
def result : Serialized → Except String Unit
  | .ok _ => .ok ()
  | .failed _ error => .error error

def value? : Serialized → Option Json
  | .ok value => some value
  | .failed _ _ => none

end Serialized

/-- What one insertion appends: the comma is pushed only if all went well. -/
def appended (value : Serialized) : Text := if value.isOk then value.written ++ [','] else value.written

/-- `ParamsBuilder::insert`. -/
def insert (b : ParamsBuilder) (value : Serialized) : Except String Unit × ParamsBuilder :=
  let b := b.maybeInitialize
  (value.result, { b with bytes := b.bytes ++ appended value })

/-- `ParamsBuilder::insert_named`. The name is a string and can be serialized. -/
def insertNamed (b : ParamsBuilder) (name : String) (value : Serialized) : Except String Unit × ParamsBuilder :=
  let b := b.maybeInitialize
  (value.result, { b with bytes := b.bytes ++ ((Json.quote name).toList ++ ':' :: appended value) })

/-- The `ArrayParams` after some insertions. -/
def arrayParams (inserts : List Serialized) : ParamsBuilder :=
  inserts.foldl (fun b value => (insert b value).2) .positional

/-- The `ObjectParams` after some insertions. -/
def objectParams (inserts : List (String × Serialized)) : ParamsBuilder :=
  inserts.foldl (fun b entry => (insertNamed b entry.1 entry.2).2) .named

/-- `to_rpc_params`, with `RawValue::from_string` for a text; the outer `none` is a panic. -/
def toRpcParams (fromString : Text → Bool) (b : ParamsBuilder) : Option (Option Text) :=
  match b.build with
  | none => some none
  | some text => if fromString text then some (some text) else none

theorem insert_ok (b : ParamsBuilder) (value : Json) : (insert b (.ok value)).2 = b.insert value := by
  simp [insert, ParamsBuilder.insert, appended, Serialized.isOk, Serialized.written]

theorem insertNamed_ok (b : ParamsBuilder) (name : String) (value : Json) :
    (insertNamed b name (.ok value)).2 = b.insertNamed name value := by
  simp [insertNamed, ParamsBuilder.insertNamed, appended, Serialized.isOk, Serialized.written]

/-! ## There and back -/

theorem arrayParams_ok (values : List Json) :
    arrayParams (values.map .ok) = values.foldl ParamsBuilder.insert .positional := by
  rw [arrayParams, List.foldl_map]
  simp only [insert_ok]

theorem objectParams_ok (members : List (String × Json)) :
    objectParams (members.map fun member => (member.1, .ok member.2)) =
      members.foldl (fun b entry => b.insertNamed entry.1 entry.2) .named := by
  rw [objectParams, List.foldl_map]
  simp only [insertNamed_ok]

theorem renderElems_toList (elem : Json) (rest : List Json) :
    (Json.renderElems (elem :: rest)).toList = textOf elem ++ (rest.map textOf).flatMap fun piece => ',' :: piece := by
  induction rest generalizing elem with
  | nil => simp [Json.renderElems, textOf]
  | cons next rest ih => simp [Json.renderElems, ih, textOf]

theorem textOf_arr (first : Json) (rest : List Json) :
    textOf (.arr (first :: rest)) = '[' :: (textOf first ++ behind ']' (rest.map textOf)) := by
  simp [textOf, Json.render, renderElems_toList, behind]

theorem build_arrayParams (values : List Json) :
    (arrayParams (values.map .ok)).build = if values = [] then none else some (textOf (.arr values)) := by
  rw [arrayParams_ok]
  cases values with
  | nil => rfl
  | cons first rest => rw [positional_build, if_neg (by simp), textOf_arr]

theorem build_objectParams (members : List (String × Json)) :
    (objectParams (members.map fun member => (member.1, .ok member.2))).build =
      if members = [] then none else some (textOf (.obj members)) := by
  rw [objectParams_ok]
  cases members with
  | nil => rfl
  | cons first rest => rw [named_build, if_neg (by simp)]

/-- A value without whitespace around it. -/
def compact (value : Json) : Element := { lead := [], text := textOf value, trail := [], value }

theorem compact_chars : Element.chars ∘ compact = textOf := by
  funext value
  simp [Element.chars, compact]

/-- The compact text of an array is one of its texts. -/
theorem isArray_textOf {IsValue : Text → Json → Prop} {values : List Json} (filled : values ≠ [])
    (isValue : ∀ value ∈ values, IsValue (textOf value) value) : IsArray IsValue (textOf (.arr values)) values := by
  cases values with
  | nil => exact absurd rfl filled
  | cons first rest =>
      have valid : ∀ e ∈ compact first :: rest.map compact, e.Valid IsValue := by
        intro e member
        rw [← List.map_cons] at member
        obtain ⟨value, listed, rfl⟩ := List.mem_map.mp member
        exact ⟨by simp [Blank, compact], isValue value listed, by simp [Blank, compact]⟩
      have array := IsArray.elems valid
      have chars : (compact first).chars = textOf first := congrFun compact_chars first
      have values : Element.value ∘ compact = fun value => value := rfl
      rw [chars, List.map_map, compact_chars, ← List.map_cons, List.map_map, values, List.map_id', ← textOf_arr] at array
      exact array

/-- `serde_json` reads the text that it writes for a value. -/
structure ReadsBack (reader : JsonReader) (fromString : Text → Bool) (value : Json) : Prop where
  fromStr : reader.fromStr (textOf value) = some value
  fromString : fromString (textOf value) = true

section RoundTrip

variable {reader : JsonReader} {fromString : Text → Bool} {IsValue : Text → Json → Prop}

theorem toRpcParams_array {values : List Json} (reads : ReadsBack reader fromString (.arr values)) :
    toRpcParams fromString (arrayParams (values.map .ok)) =
      some (if values = [] then none else some (textOf (.arr values))) := by
  rw [toRpcParams, build_arrayParams]
  cases values with
  | nil => rfl
  | cons first rest => simp [reads.fromString]

theorem toRpcParams_object {members : List (String × Json)} (reads : ReadsBack reader fromString (.obj members)) :
    toRpcParams fromString (objectParams (members.map fun member => (member.1, .ok member.2))) =
      some (if members = [] then none else some (textOf (.obj members))) := by
  rw [toRpcParams, build_objectParams]
  cases members with
  | nil => rfl
  | cons first rest => simp [reads.fromString]

/-- The text of an array has nothing around its brackets. -/
theorem new_array (values : List Json) : Params.new (some (textOf (.arr values))) = some (textOf (.arr values)) := by
  obtain ⟨text, enclosed⟩ : ∃ text, textOf (.arr values) = '[' :: (text ++ [']']) :=
    ⟨(Json.renderElems values).toList, by simp [textOf, Json.render]⟩
  rw [enclosed]
  exact congrArg some (trim_enclosed rfl rfl text)

theorem new_object (members : List (String × Json)) :
    Params.new (some (textOf (.obj members))) = some (textOf (.obj members)) := by
  obtain ⟨text, enclosed⟩ : ∃ text, textOf (.obj members) = '{' :: (text ++ ['}']) :=
    ⟨(Json.renderMembers members).toList, by simp [textOf, Json.render]⟩
  rw [enclosed]
  exact congrArg some (trim_enclosed rfl rfl text)

/-- Inserted values come back: from the sequence one after the other and then no more, and
    from `parse` as a whole. Named values are the members of the object, in their order. -/
theorem builders_inverse (streams : Streams reader IsValue) :
    (∀ values, (∀ value ∈ values, IsValue (textOf value) value) → ReadsBack reader fromString (.arr values) →
      (toRpcParams fromString (arrayParams (values.map .ok)) = some none ↔ values = []) ∧
      (values ≠ [] → ∃ text, toRpcParams fromString (arrayParams (values.map .ok)) = some (some text) ∧
        IsArray IsValue text values ∧
        (∀ calls, runCalls reader calls (Params.sequence (Params.new (some text))) = expected calls values) ∧
        Params.parse reader (Params.new (some text)) = some (.arr values))) ∧
    ∀ members, ReadsBack reader fromString (.obj members) →
      (toRpcParams fromString (objectParams (members.map fun member => (member.1, .ok member.2))) = some none ↔
        members = []) ∧
      (members ≠ [] → ∃ text,
        toRpcParams fromString (objectParams (members.map fun member => (member.1, .ok member.2))) = some (some text) ∧
        text = textOf (.obj members) ∧ Params.parse reader (Params.new (some text)) = some (.obj members)) := by
  constructor
  · intro values isValue reads
    rw [toRpcParams_array reads]
    refine ⟨by simp, fun filled => ⟨textOf (.arr values), by rw [if_neg filled], isArray_textOf filled isValue, ?_, ?_⟩⟩
    · intro calls
      have array := isArray_textOf filled isValue
      have blank : Blank [] := by simp [Blank]
      have start := array.sequence blank blank
      rw [List.nil_append, List.append_nil, if_neg (array.ne_brackets streams filled)] at start
      rw [start]
      exact runCalls_elems streams array filled calls
    · rw [new_array]
      exact reads.fromStr
  · intro members reads
    rw [toRpcParams_object reads]
    refine ⟨by simp, fun filled => ⟨textOf (.obj members), by rw [if_neg filled], rfl, ?_⟩⟩
    rw [new_object]
    exact reads.fromStr

end RoundTrip

/-- Two values there and back, and one under a name with quotes. -/
theorem builders_inverse_words :
    let reader := wordReader [.arr [.bool true, .null], .obj [("say \x22hi\x22", .null)]]
    let fromString := fun text => (reader.fromStr text).isSome
    (∃ text, toRpcParams fromString (arrayParams [.ok (.bool true), .ok .null]) = some (some text) ∧
      ∀ calls, runCalls reader calls (Params.sequence (Params.new (some text))) =
        expected calls [.bool true, .null]) ∧
    ∃ text, toRpcParams fromString (objectParams [("say \x22hi\x22", .ok .null)]) = some (some text) ∧
      Params.parse reader (Params.new (some text)) = some (.obj [("say \x22hi\x22", .null)]) := by
  intro reader fromString
  obtain ⟨arrays, objects⟩ := @builders_inverse reader fromString IsWord (wordReader_streams _)
  have words : ∀ value ∈ [.bool true, .null], IsWord (textOf value) value := by
    intro value member
    simp only [List.mem_cons, List.not_mem_nil, or_false] at member
    rcases member with rfl | rfl
    · exact .inl ⟨rfl, rfl⟩
    · exact .inr ⟨rfl, rfl⟩
  obtain ⟨text, built, _, taken, _⟩ := (arrays [.bool true, .null] words ⟨rfl, rfl⟩).2 (by simp)
  obtain ⟨object, built', _, parsed⟩ := (objects [("say \x22hi\x22", .null)] ⟨rfl, rfl⟩).2 (by simp)
  exact ⟨⟨text, built, taken⟩, object, built', parsed⟩

/-! ## Failed insertions -/

/-- Every insertion appends a text. -/
def write (b : ParamsBuilder) (piece : Text) : ParamsBuilder :=
  { b.maybeInitialize with bytes := b.maybeInitialize.bytes ++ piece }

section Writing

variable {b : ParamsBuilder}

theorem writes_of_started (started : b.bytes ≠ []) (pieces : List Text) :
    pieces.foldl write b = { b with bytes := b.bytes ++ pieces.flatten } := by
  induction pieces generalizing b with
  | nil => simp
  | cons piece pieces ih =>
      have same : b.maybeInitialize = b := by simp [ParamsBuilder.maybeInitialize, started]
      have next : write b piece = { b with bytes := b.bytes ++ piece } := by rw [write, same]
      rw [List.foldl_cons, ih (by simp [next, started]), next]
      simp

/-- The first insertion writes the bracket, whatever becomes of it. -/
theorem writes_of_empty (empty : b.bytes = []) {pieces : List Text} (inserted : pieces ≠ []) :
    pieces.foldl write b = { b with bytes := b.start :: pieces.flatten } := by
  cases pieces with
  | nil => exact absurd rfl inserted
  | cons piece pieces =>
      have first : write b piece = { b with bytes := b.start :: piece } := by
        simp [write, ParamsBuilder.maybeInitialize, empty]
      rw [List.foldl_cons, writes_of_started (by simp [first]), first]
      simp

theorem build_length (started : b.bytes ≠ []) : ∃ text, b.build = some text ∧ b.bytes.length ≤ text.length := by
  rw [ParamsBuilder.build, if_neg (by simpa using started)]
  have positive := List.length_pos_iff.mpr started
  by_cases comma : b.bytes.getLast? = some ','
  · rw [if_pos comma]
    refine ⟨_, rfl, ?_⟩
    rw [List.length_append, List.length_dropLast, List.length_singleton]
    omega
  · rw [if_neg comma]
    exact ⟨_, rfl, by simp⟩

/-- Behind an insertion that went well, the comma makes room for the bracket. -/
theorem build_length_comma (comma : b.bytes.getLast? = some ',') :
    ∃ text, b.build = some text ∧ text.length = b.bytes.length := by
  have started : b.bytes ≠ [] := by
    intro empty
    simp [empty] at comma
  have positive := List.length_pos_iff.mpr started
  rw [ParamsBuilder.build, if_neg (by simpa using started), if_pos comma]
  refine ⟨_, rfl, ?_⟩
  rw [List.length_append, List.length_dropLast, List.length_singleton]
  omega

/-- The texts that insertions append, and whether they went well. -/
def kept (entries : List (Text × Bool)) : List Text := (entries.filter Prod.snd).map Prod.fst

theorem length_flatten_entries (entries : List (Text × Bool)) :
    (entries.map Prod.fst).flatten.length =
      (kept entries).flatten.length + ((entries.filter fun entry => !entry.2).map Prod.fst).flatten.length := by
  induction entries with
  | nil => rfl
  | cons entry rest ih =>
      obtain ⟨text, ok⟩ := entry
      cases ok <;> simp [kept] at ih ⊢ <;> omega

theorem flatten_kept {entries : List (Text × Bool)} (nothing : ∀ entry ∈ entries, entry.2 = false → entry.1 = []) :
    (entries.map Prod.fst).flatten = (kept entries).flatten := by
  induction entries with
  | nil => rfl
  | cons entry rest ih =>
      obtain ⟨text, ok⟩ := entry
      have tail := ih fun other member => nothing other (List.mem_cons_of_mem _ member)
      cases ok with
      | true => simpa [kept] using tail
      | false =>
          have empty : text = [] := nothing _ List.mem_cons_self rfl
          simpa [kept, empty] using tail

theorem getLast?_flatten {pieces : List Text} (commas : ∀ piece ∈ pieces, piece.getLast? = some ',')
    (inserted : pieces ≠ []) : pieces.flatten.getLast? = some ',' := by
  induction pieces with
  | nil => exact absurd rfl inserted
  | cons piece pieces ih =>
      rw [List.flatten_cons, List.getLast?_append]
      by_cases last : pieces = []
      · simp [last, commas piece List.mem_cons_self]
      · rw [ih (fun other member => commas other (List.mem_cons_of_mem _ member)) last, Option.some_or]

/-- Behind the insertions that went well stands a comma. -/
theorem getLast?_kept (empty : b.bytes = []) {entries : List (Text × Bool)}
    (commas : ∀ entry ∈ entries, entry.2 = true → entry.1.getLast? = some ',') (inserted : kept entries ≠ []) :
    ((kept entries).foldl write b).bytes.getLast? = some ',' := by
  have pieces : ∀ piece ∈ kept entries, piece.getLast? = some ',' := by
    intro piece member
    obtain ⟨entry, listed, rfl⟩ := List.mem_map.mp member
    exact commas entry (List.mem_filter.mp listed).1 (List.mem_filter.mp listed).2
  rw [writes_of_empty empty inserted, List.getLast?_cons, getLast?_flatten pieces inserted]
  rfl

/-- The insertions that failed can be left out exactly when none did, or one went well and
    the others wrote nothing. -/
theorem build_kept_iff (empty : b.bytes = []) {entries : List (Text × Bool)}
    (commas : ∀ entry ∈ entries, entry.2 = true → entry.1.getLast? = some ',') :
    ((entries.map Prod.fst).foldl write b).build = ((kept entries).foldl write b).build ↔
      (∀ entry ∈ entries, entry.2 = true) ∨
        ((∃ entry ∈ entries, entry.2 = true) ∧ ∀ entry ∈ entries, entry.2 = false → entry.1 = []) := by
  constructor
  · intro same
    by_cases all : ∀ entry ∈ entries, entry.2 = true
    · exact .inl all
    have inserted : entries.map Prod.fst ≠ [] := by
      intro none
      rw [List.map_eq_nil_iff] at none
      simp [none] at all
    obtain ⟨text, built, long⟩ := build_length (b := (entries.map Prod.fst).foldl write b)
      (by simp [writes_of_empty empty inserted])
    have some : kept entries ≠ [] := by
      intro none
      rw [none, built] at same
      simp [ParamsBuilder.build, empty] at same
    obtain ⟨text', built', short⟩ := build_length_comma (getLast?_kept empty commas some)
    rw [built, built', Option.some.injEq] at same
    subst same
    -- The comma and the bracket cancel out, so what failed has added nothing.
    rw [writes_of_empty empty inserted] at long
    rw [writes_of_empty empty some] at short
    have length := length_flatten_entries entries
    simp only [List.length_cons] at long short
    refine .inr ⟨?_, ?_⟩
    · obtain ⟨piece, member⟩ := List.exists_mem_of_ne_nil _ some
      obtain ⟨entry, listed, rfl⟩ := List.mem_map.mp member
      exact ⟨entry, (List.mem_filter.mp listed).1, (List.mem_filter.mp listed).2⟩
    · intro entry member failed
      have nothing : ((entries.filter fun entry => !entry.2).map Prod.fst).flatten = [] := by
        rw [← List.length_eq_zero_iff]
        omega
      rw [List.flatten_eq_nil_iff] at nothing
      exact nothing entry.1 (List.mem_map.mpr ⟨entry, List.mem_filter.mpr ⟨member, by simp [failed]⟩, rfl⟩)
  · rintro (all | ⟨⟨entry, member, ok⟩, nothing⟩)
    · rw [kept, List.filter_eq_self.mpr all]
    · have inserted : entries.map Prod.fst ≠ [] := List.ne_nil_of_mem (List.mem_map_of_mem member)
      have some : kept entries ≠ [] :=
        List.ne_nil_of_mem (List.mem_map_of_mem (List.mem_filter.mpr ⟨member, ok⟩))
      rw [writes_of_empty empty inserted, writes_of_empty empty some, flatten_kept nothing]

end Writing

/-! ## What a failed insertion leaves behind -/

/-- The insertions that went well. -/
def successful (inserts : List Serialized) : List Json := inserts.filterMap Serialized.value?

def successfulNamed (inserts : List (String × Serialized)) : List (String × Json) :=
  inserts.filterMap fun entry => entry.2.value?.map fun value => (entry.1, value)

/-- Without a panic, and as if the failed insertions had not been tried. -/
def Intact (fromString : Text → Bool) (b ideal : ParamsBuilder) : Prop :=
  toRpcParams fromString b ≠ none ∧ toRpcParams fromString b = toRpcParams fromString ideal

theorem intact_iff {fromString : Text → Bool} {b ideal : ParamsBuilder}
    (accepted : toRpcParams fromString ideal = some ideal.build) :
    Intact fromString b ideal ↔ b.build = ideal.build := by
  constructor
  · rintro ⟨_, same⟩
    rw [accepted] at same
    unfold toRpcParams at same
    cases built : b.build with
    | none => simpa [built] using same
    | some text =>
        rw [built] at same
        by_cases valid : fromString text = true
        · simpa [valid] using same
        · simp [valid] at same
  · intro same
    have equal : toRpcParams fromString b = toRpcParams fromString ideal := by
      unfold toRpcParams
      rw [same]
    refine ⟨?_, equal⟩
    rw [equal, accepted]
    simp

/-- What an insertion appends, and whether it went well. -/
def entry (value : Serialized) : Text × Bool := (appended value, value.isOk)

def namedEntry (member : String × Serialized) : Text × Bool :=
  ((Json.quote member.1).toList ++ ':' :: appended member.2, member.2.isOk)

theorem arrayParams_eq (inserts : List Serialized) :
    arrayParams inserts = ((inserts.map entry).map Prod.fst).foldl write .positional := by
  rw [arrayParams, List.map_map, List.foldl_map]
  rfl

theorem objectParams_eq (inserts : List (String × Serialized)) :
    objectParams inserts = ((inserts.map namedEntry).map Prod.fst).foldl write .named := by
  rw [objectParams, List.map_map, List.foldl_map]
  rfl

theorem kept_entry (inserts : List Serialized) :
    (((successful inserts).map Serialized.ok).map entry).map Prod.fst = kept (inserts.map entry) := by
  induction inserts with
  | nil => rfl
  | cons value rest ih =>
      cases value with
      | ok value => exact congrArg (appended (.ok value) :: ·) ih
      | failed written error => exact ih

theorem kept_namedEntry (inserts : List (String × Serialized)) :
    (((successfulNamed inserts).map fun member => (member.1, Serialized.ok member.2)).map namedEntry).map Prod.fst =
      kept (inserts.map namedEntry) := by
  induction inserts with
  | nil => rfl
  | cons member rest ih =>
      obtain ⟨name, value⟩ := member
      cases value with
      | ok value => exact congrArg ((namedEntry (name, .ok value)).1 :: ·) ih
      | failed written error => exact ih

theorem getLast?_appended {value : Serialized} (ok : value.isOk = true) : (appended value).getLast? = some ',' := by
  rw [appended, if_pos ok]
  exact List.getLast?_concat

/-- What the builder of an array gives is that of the successful insertions exactly when
    none failed, or one went well and no other wrote anything. In the builder of an object a
    failed insertion has always written its name. -/
theorem failed_inserts (fromString : Text → Bool) :
    (∀ inserts, fromString (textOf (.arr (successful inserts))) = true →
      (Intact fromString (arrayParams inserts) (arrayParams ((successful inserts).map .ok)) ↔
        (∀ value ∈ inserts, value.isOk = true) ∨
          ((∃ value ∈ inserts, value.isOk = true) ∧
            ∀ value ∈ inserts, value.isOk = false → value.written = []))) ∧
    ∀ inserts, fromString (textOf (.obj (successfulNamed inserts))) = true →
      (Intact fromString (objectParams inserts)
        (objectParams ((successfulNamed inserts).map fun member => (member.1, .ok member.2))) ↔
        ∀ member ∈ inserts, member.2.isOk = true) := by
  constructor
  · intro inserts valid
    have accepted : toRpcParams fromString (arrayParams ((successful inserts).map .ok)) =
        some (arrayParams ((successful inserts).map .ok)).build := by
      rw [toRpcParams, build_arrayParams]
      by_cases none : successful inserts = [] <;> simp [none, valid]
    have commas : ∀ e ∈ inserts.map entry, e.2 = true → e.1.getLast? = some ',' := by
      intro e member ok
      obtain ⟨value, _, rfl⟩ := List.mem_map.mp member
      exact getLast?_appended ok
    rw [intact_iff accepted, arrayParams_eq, arrayParams_eq, kept_entry, build_kept_iff rfl commas]
    have failed : ∀ value : Serialized, value.isOk = false → appended value = value.written := by
      intro value broken
      rw [appended, broken]
      rfl
    simp only [List.forall_mem_map]
    simp only [List.mem_map, exists_exists_and_eq_and, entry]
    have nothing : (∀ value ∈ inserts, value.isOk = false → appended value = []) ↔
        ∀ value ∈ inserts, value.isOk = false → value.written = [] := by
      refine forall₂_congr fun value _ => ?_
      refine forall_congr' fun broken => ?_
      rw [failed value broken]
    rw [nothing]
  · intro inserts valid
    have accepted : toRpcParams fromString
        (objectParams ((successfulNamed inserts).map fun member => (member.1, .ok member.2))) =
          some (objectParams ((successfulNamed inserts).map fun member => (member.1, .ok member.2))).build := by
      rw [toRpcParams, build_objectParams]
      by_cases none : successfulNamed inserts = [] <;> simp [none, valid]
    have commas : ∀ e ∈ inserts.map namedEntry, e.2 = true → e.1.getLast? = some ',' := by
      intro e listed ok
      obtain ⟨member, _, rfl⟩ := List.mem_map.mp listed
      rw [namedEntry, List.getLast?_append, List.getLast?_cons, getLast?_appended ok]
      rfl
    rw [intact_iff accepted, objectParams_eq, objectParams_eq, kept_namedEntry, build_kept_iff rfl commas]
    simp only [List.forall_mem_map]
    simp only [List.mem_map, exists_exists_and_eq_and, namedEntry]
    refine ⟨?_, .inl⟩
    rintro (all | ⟨_, nothing⟩)
    · exact all
    · intro member listed
      by_contra broken
      simpa using nothing member listed (by simpa using broken)

/-- A sequence that breaks off behind its first element makes the text of the builder invalid. -/
theorem failed_insert_panics :
    ¬ ∀ (fromString : Text → Bool) (inserts : List Serialized),
      fromString (textOf (.arr (successful inserts))) = true →
        Intact fromString (arrayParams inserts) (arrayParams ((successful inserts).map .ok)) := by
  intro intact
  have panics := (intact (fun text => text = "[true]".toList) [.ok (.bool true), .failed ['[', '1'] "no more"] rfl).1
  exact panics rfl

/-- A value that fails before it is written. -/
theorem failed_inserts_unwritten :
    Intact (fun text => text = "[true]".toList) (arrayParams [.failed [] "no value", .ok (.bool true)])
      (arrayParams [.ok (.bool true)]) :=
  ((failed_inserts fun text => text = "[true]".toList).1 [.failed [] "no value", .ok (.bool true)] rfl).mpr
    (.inr ⟨⟨.ok (.bool true), by simp, rfl⟩, by
      intro value member broken
      simp only [List.mem_cons, List.not_mem_nil, or_false] at member
      rcases member with rfl | rfl
      · rfl
      · cases broken⟩)

end Builders

end Jsonrpsee
