import Jsonrpsee.Types.Text

/-! # Parameters of `#[rpc]`

The client's half of the macro writes the arguments of a call as an array, as a map
or as one object; the server's half reads them back. Both work on texts: a builder
that replaces the last comma, and a sequence that cuts one value after the other
off an array. Only a map is read by names, and the server takes two more names for
each of them.
-/

namespace Jsonrpsee

namespace Macros

/-! ## Types -/

/-- A type with its `Serialize` and `Deserialize`. -/
structure RustType where
  Carrier : Type
  toJson : Carrier → Json
  fromJson : Json → Option Carrier
  /-- What `missing_field` makes of a field that is not there. -/
  missing : Option Carrier

/-- `Option<T>`. -/
def RustType.option (t : RustType) : RustType :=
  { Carrier := Option t.Carrier
    toJson := fun value => (value.map t.toJson).getD .null
    fromJson := Json.asOption t.fromJson
    missing := some none }

/-- The type of an argument: is it `Option` by name? -/
inductive ArgType where
  | option (t : RustType)
  | other (t : RustType)

def ArgType.ty : ArgType → RustType
  | .option t => t.option
  | .other t => t

/-- Represents a single argument in a RPC call. -/
structure RpcFnArg where
  argPat : String
  renameTo : Option String
  argType : ArgType

namespace RpcFnArg

def ty (arg : RpcFnArg) : RustType := arg.argType.ty

/-- Return the string representation of this argument when (de)serializing. -/
def name (arg : RpcFnArg) : String := arg.renameTo.getD arg.argPat

end RpcFnArg

inductive ParamKind where
  | array
  | map
  | object
  deriving Repr, DecidableEq

/-- The values for a list of arguments. -/
def Values : List RpcFnArg → Type
  | [] => Unit
  | arg :: rest => arg.ty.Carrier × Values rest

/-- What is serialized of them. -/
def Values.toJson : (params : List RpcFnArg) → Values params → List Json
  | [], _ => []
  | arg :: rest, (value, values) => arg.ty.toJson value :: Values.toJson rest values

/-! ## The client -/

abbrev Text := List Char

def textOf (value : Json) : Text := value.render.toList

/-- Generic parameter builder that serializes parameters to bytes. -/
structure ParamsBuilder where
  bytes : Text
  start : Char
  stop : Char

namespace ParamsBuilder

def positional : ParamsBuilder := { bytes := [], start := '[', stop := ']' }

def named : ParamsBuilder := { bytes := [], start := '\x7b', stop := '\x7d' }

/-- Adds the `start` character if nothing has been written. -/
def maybeInitialize (b : ParamsBuilder) : ParamsBuilder := if b.bytes.isEmpty then { b with bytes := [b.start] } else b

/-- Insert a named value (key, value) pair into the builder. -/
def insertNamed (b : ParamsBuilder) (name : String) (value : Json) : ParamsBuilder :=
  let b := b.maybeInitialize
  { b with bytes := b.bytes ++ (Json.quote name).toList ++ [':'] ++ textOf value ++ [','] }

/-- Insert a plain value into the builder. -/
def insert (b : ParamsBuilder) (value : Json) : ParamsBuilder :=
  let b := b.maybeInitialize
  { b with bytes := b.bytes ++ textOf value ++ [','] }

/-- Finish the building process and return a JSON object. -/
def build (b : ParamsBuilder) : Option Text :=
  if b.bytes.isEmpty then none
  else if b.bytes.getLast? = some ',' then some (b.bytes.dropLast ++ [b.stop])
  else some (b.bytes ++ [b.stop])

end ParamsBuilder

/-- The params of a call of the client; the outer `none` is a panic of the macro. -/
def encodeParams (kind : ParamKind) (params : List RpcFnArg) (values : Values params) : Option (Option Text) :=
  if params.isEmpty then some ParamsBuilder.positional.build
  else if params.any fun arg => arg.argPat = "__RpcParams__" then none
  else
    match kind with
    | .object =>
        match values.toJson with
        | [value] => some (some (textOf value))
        | _ => some ParamsBuilder.positional.build
    | .map =>
        some (((params.map RpcFnArg.name).zip values.toJson).foldl (fun b entry => b.insertNamed entry.1 entry.2)
          ParamsBuilder.named).build
    | .array => some (values.toJson.foldl ParamsBuilder.insert ParamsBuilder.positional).build

/-! ## The server -/

/-- What a `StreamDeserializer` finds. -/
inductive Streamed where
  /-- Nothing but whitespace is left. -/
  | finished
  | failed
  /-- The first value, and the text behind it. -/
  | value (v : Json) (rest : Text)

/-- How `serde_json` reads a text. -/
structure JsonReader where
  fromStr : Text → Option Json
  next : Text → Streamed

/-- `char::is_whitespace`: the property `White_Space`. -/
def isWhiteSpace (c : Char) : Bool :=
  let n := c.toNat
  (9 ≤ n && n ≤ 13) || n == 0x20 || n == 0x85 || n == 0xa0 || n == 0x1680 || (0x2000 ≤ n && n ≤ 0x200a) ||
    n == 0x2028 || n == 0x2029 || n == 0x202f || n == 0x205f || n == 0x3000

/-- `str::trim_start`. -/
def trimStart (text : Text) : Text := text.dropWhile isWhiteSpace

def trim (text : Text) : Text := (trimStart (trimStart text).reverse).reverse

/-- Absent params and the params `null` are the same on the wire. -/
def received (params : Option Text) : Option Text := params.filter fun text => text ≠ "null".toList

/-- `Params::new`. -/
def Params.new (raw : Option Text) : Option Text := raw.map trim

/-- Returns true if the contained JSON is an object. -/
def Params.isObject (params : Option Text) : Bool := params.any fun json => json.head? = some '\x7b'

/-- Obtain a sequence parser. -/
def Params.sequence (params : Option Text) : Text :=
  match params with
  | some json => if json = "[]".toList then [] else json
  | none => []

/-- Attempt to parse all parameters as an array or map into a value. -/
def Params.parse (reader : JsonReader) (params : Option Text) : Option Json :=
  reader.fromStr (params.getD "null".toList)

/-- `next_inner`: the inner `none` is an error, and the rest of the sequence is next. -/
def nextInner (reader : JsonReader) (t : RustType) (seq : Text) : Option (Option t.Carrier) × Text :=
  match seq with
  | [] => (none, [])
  | ']' :: _ => (none, [])
  | '[' :: json | ',' :: json =>
      match reader.next json with
      | .finished => (none, seq)
      | .failed => (some none, [])
      | .value v rest =>
          match t.fromJson v with
          | some value => (some (some value), trimStart rest)
          | none => (some none, [])
  | _ => (some none, seq)

/-- Parse the next parameter. -/
def nextParam (reader : JsonReader) (t : RustType) (seq : Text) : Option t.Carrier × Text :=
  match nextInner reader t seq with
  | (some result, seq) => (result, seq)
  | (none, seq) => (none, seq)

/-- Parse the next optional parameter; there may be no more. -/
def optionalNext (reader : JsonReader) (t : RustType) (seq : Text) : Option (Option t.Carrier) × Text :=
  match nextInner reader t.option seq with
  | (some result, seq) => (result, seq)
  | (none, seq) => (some none, seq)

/-- The next parameter of an argument's type. -/
def nextOf (reader : JsonReader) : (argType : ArgType) → Text → Option argType.ty.Carrier × Text
  | .option t, seq => optionalNext reader t seq
  | .other t, seq => nextParam reader t seq

/-- The generated code that decodes a sequence of parameters from a JSON array. -/
def decodeArray (reader : JsonReader) : (params : List RpcFnArg) → Text → Option (Values params)
  | [], _ => some ()
  | arg :: rest, seq =>
      match nextOf reader arg.argType seq with
      | (none, _) => none
      | (some value, seq) => (decodeArray reader rest seq).map fun values => (value, values)

/-- The case conversions of `heck`. -/
structure Heck where
  toSnakeCase : String → String
  toLowerCamelCase : String → String

/-- The names under which the field of an argument is read. -/
def fieldNames (heck : Heck) (arg : RpcFnArg) : List String :=
  [arg.name, heck.toSnakeCase arg.name, heck.toLowerCamelCase arg.name]

/-- The derived visitor: a key is for the first field of its name, other keys are ignored. -/
def assign (fields : List (List String)) : List (String × Json) → List (Option Json) → Option (List (Option Json))
  | [], slots => some slots
  | (key, value) :: members, slots =>
      match fields.findIdx? fun names => names.contains key with
      | none => assign fields members slots
      | some i => if (slots[i]?.join).isSome then none else assign fields members (slots.set i (some value))

/-- The fields, when the map has been visited. -/
def readSlots : (params : List RpcFnArg) → List (Option Json) → Option (Values params)
  | [], _ => some ()
  | arg :: rest, slots =>
      match slots.head?.join.elim arg.ty.missing arg.ty.fromJson with
      | none => none
      | some value => (readSlots rest slots.tail).map fun values => (value, values)

/-- The generated code that decodes a JSON object. -/
def decodeMap (reader : JsonReader) (heck : Heck) (params : List RpcFnArg) (raw : Option Text) :
    Option (Values params) :=
  match Params.parse reader raw with
  | some (.obj members) =>
      (assign (params.map (fieldNames heck)) members (List.replicate params.length none)).bind (readSlots params)
  | _ => none

/-- The generated code that decodes the parameters of a request. -/
def decodeParams (reader : JsonReader) (heck : Heck) (kind : ParamKind) (params : List RpcFnArg)
    (wire : Option Text) : Option (Values params) :=
  let raw := Params.new wire
  match params with
  | [] => some ()
  | arg :: rest =>
      match kind, rest with
      | .object, [] => ((Params.parse reader raw).bind arg.ty.fromJson).map fun value => (value, ())
      -- Refused when the macro is parsed: there is no code.
      | .object, _ :: _ => none
      | .array, rest | .map, rest =>
          if Params.isObject raw then decodeMap reader heck (arg :: rest) raw
          else decodeArray reader (arg :: rest) (Params.sequence raw)

/-! ## What the client writes -/

/-- What stands behind the first text of a list: the others, and the closing bracket. -/
def behind (stop : Char) (pieces : List Text) : Text := pieces.flatMap (fun piece => ',' :: piece) ++ [stop]

namespace ParamsBuilder

/-- Both insertions append a text and a comma. -/
def push (b : ParamsBuilder) (piece : Text) : ParamsBuilder :=
  { b.maybeInitialize with bytes := b.maybeInitialize.bytes ++ (piece ++ [',']) }

theorem insert_eq (b : ParamsBuilder) (value : Json) : b.insert value = b.push (textOf value) := by
  simp [insert, push]

theorem insertNamed_eq (b : ParamsBuilder) (member : String × Json) :
    b.insertNamed member.1 member.2 = b.push (Json.renderMember member).toList := by
  obtain ⟨name, value⟩ := member
  simp [insertNamed, push, Json.renderMember, textOf]

theorem push_bytes {b : ParamsBuilder} (h : b.bytes ≠ []) (piece : Text) :
    b.push piece = { b with bytes := b.bytes ++ (piece ++ [',']) } := by
  cases b with
  | mk bytes start stop =>
      cases bytes with
      | nil => exact absurd rfl h
      | cons c bytes => rfl

theorem build_pushes (pieces : List Text) {b : ParamsBuilder} {text : Text} (h : b.bytes = text ++ [',']) :
    (pieces.foldl push b).build = some (text ++ behind b.stop pieces) := by
  induction pieces generalizing b text with
  | nil => simp [build, behind, h]
  | cons piece pieces ih =>
      have hpush := push_bytes (b := b) (by simp [h]) piece
      have hbytes : (b.push piece).bytes = (text ++ ',' :: piece) ++ [','] := by simp [hpush, h]
      rw [List.foldl_cons, ih hbytes]
      simp [hpush, behind]

/-- The comma behind the last text becomes the closing bracket. -/
theorem build_inserts {α : Type} {write : α → Text} {insert : ParamsBuilder → α → ParamsBuilder}
    (hinsert : ∀ b value, insert b value = b.push (write value)) {b : ParamsBuilder} (h : b.bytes = [])
    (first : α) (rest : List α) :
    ((first :: rest).foldl insert b).build = some (b.start :: (write first ++ behind b.stop (rest.map write))) := by
  have hpush : b.push (write first) = { b with bytes := b.start :: (write first ++ [',']) } := by
    simp [push, maybeInitialize, h]
  have hbytes : (b.push (write first)).bytes = b.start :: write first ++ [','] := by simp [hpush]
  have hfold : (first :: rest).foldl insert b = (rest.map write).foldl push (b.push (write first)) := by
    rw [List.foldl_cons, hinsert, List.foldl_map]
    congr
    funext b value
    exact hinsert b value
  rw [hfold, build_pushes _ hbytes, hpush, List.cons_append]

end ParamsBuilder

theorem renderMembers_toList (member : String × Json) (rest : List (String × Json)) :
    (Json.renderMembers (member :: rest)).toList =
      (Json.renderMember member).toList ++
        (rest.map fun member => (Json.renderMember member).toList).flatMap fun piece => ',' :: piece := by
  induction rest generalizing member with
  | nil => simp [Json.renderMembers]
  | cons next rest ih =>
      simp [Json.renderMembers, ih]

/-- Positional parameters are an array. -/
theorem positional_build (first : Json) (rest : List Json) :
    ((first :: rest).foldl ParamsBuilder.insert ParamsBuilder.positional).build =
      some ('[' :: (textOf first ++ behind ']' (rest.map textOf))) :=
  ParamsBuilder.build_inserts ParamsBuilder.insert_eq rfl first rest

/-- Named parameters are an object. -/
theorem named_build (first : String × Json) (rest : List (String × Json)) :
    ((first :: rest).foldl (fun b entry => b.insertNamed entry.1 entry.2) ParamsBuilder.named).build =
      some (textOf (.obj (first :: rest))) := by
  have hobj : textOf (.obj (first :: rest)) = '\x7b' :: ((Json.renderMember first).toList ++
      behind '\x7d' (rest.map fun member => (Json.renderMember member).toList)) := by
    simp [textOf, Json.render, renderMembers_toList, behind]
  rw [hobj]
  exact ParamsBuilder.build_inserts ParamsBuilder.insertNamed_eq rfl first rest

/-! ## What the server reads -/

theorem trimStart_cons {c : Char} (h : isWhiteSpace c = false) (text : Text) : trimStart (c :: text) = c :: text := by
  simp [trimStart, h]

/-- A text between brackets has nothing to trim. -/
theorem trim_enclosed {start stop : Char} (hstart : isWhiteSpace start = false) (hstop : isWhiteSpace stop = false)
    (text : Text) : trim (start :: (text ++ [stop])) = start :: (text ++ [stop]) := by
  rw [trim, trimStart_cons hstart]
  simp [trimStart, hstop]

/-- How `serde_json` reads a text that it has written. -/
structure JsonReader.Reads (reader : JsonReader) (value : Json) : Prop where
  nonempty : textOf value ≠ []
  trimmed : trim (textOf value) = textOf value
  fromStr : reader.fromStr (textOf value) = some value
  /-- A value of an array ends before the comma or the bracket. -/
  next : ∀ rest, rest.head? = some ',' ∨ rest.head? = some ']' → reader.next (textOf value ++ rest) = .value value rest

/-- Each value is what its type makes of its own encoding. -/
def Values.RoundTrip : (params : List RpcFnArg) → Values params → Prop
  | [], _ => True
  | arg :: rest, (value, values) => arg.ty.fromJson (arg.ty.toJson value) = some value ∧ Values.RoundTrip rest values

theorem Values.length_toJson (params : List RpcFnArg) (values : Values params) :
    values.toJson.length = params.length := by
  induction params with
  | nil => rfl
  | cons arg rest ih => exact congrArg Nat.succ (ih values.2)

theorem head_behind (pieces : List Text) :
    (behind ']' pieces).head? = some ',' ∨ (behind ']' pieces).head? = some ']' := by
  cases pieces with
  | nil => exact .inr rfl
  | cons piece pieces => exact .inl rfl

theorem trimStart_behind (pieces : List Text) : trimStart (behind ']' pieces) = behind ']' pieces := by
  cases pieces with
  | nil => rfl
  | cons piece pieces => exact trimStart_cons rfl _

/-- Both ways to take the next parameter agree where there is one. -/
theorem nextOf_of_inner {reader : JsonReader} {argType : ArgType} {value : argType.ty.Carrier} {seq rest : Text}
    (h : nextInner reader argType.ty seq = (some (some value), rest)) :
    nextOf reader argType seq = (some value, rest) := by
  cases argType with
  | option t =>
      have hinner : nextInner reader t.option seq = (some (some value), rest) := h
      rw [nextOf, optionalNext, hinner]
      rfl
  | other t =>
      have hinner : nextInner reader t seq = (some (some value), rest) := h
      rw [nextOf, nextParam, hinner]
      rfl

theorem nextOf_reads {reader : JsonReader} {arg : RpcFnArg} {value : arg.ty.Carrier}
    (hreads : reader.Reads (arg.ty.toJson value)) (hround : arg.ty.fromJson (arg.ty.toJson value) = some value)
    {c : Char} (hc : c = '[' ∨ c = ',') (pieces : List Text) :
    nextOf reader arg.argType (c :: (textOf (arg.ty.toJson value) ++ behind ']' pieces)) =
      (some value, behind ']' pieces) := by
  have hnext := hreads.next _ (head_behind pieces)
  have hinner : nextInner reader arg.ty (c :: (textOf (arg.ty.toJson value) ++ behind ']' pieces)) =
      (some (some value), behind ']' pieces) := by
    rcases hc with rfl | rfl
    · simp only [nextInner, hnext, hround, trimStart_behind]
    · simp only [nextInner, hnext, hround, trimStart_behind]
  exact nextOf_of_inner hinner

theorem decodeArray_cons {reader : JsonReader} {arg : RpcFnArg} {value : arg.ty.Carrier} {seq later : Text}
    (h : nextOf reader arg.argType seq = (some value, later)) (rest : List RpcFnArg) :
    decodeArray reader (arg :: rest) seq = (decodeArray reader rest later).map fun values => (value, values) := by
  rw [decodeArray, h]
  rfl

theorem decodeArray_behind {reader : JsonReader} {params : List RpcFnArg} {values : Values params}
    (hreads : ∀ value ∈ values.toJson, reader.Reads value) (hround : values.RoundTrip) :
    decodeArray reader params (behind ']' (values.toJson.map textOf)) = some values := by
  induction params with
  | nil => rfl
  | cons arg rest ih =>
      obtain ⟨value, values⟩ := values
      have hrest := ih (fun v hv => hreads v (List.mem_cons_of_mem _ hv)) hround.2
      have hnext := nextOf_reads (hreads _ List.mem_cons_self) hround.1 (.inr rfl) (values.toJson.map textOf)
      have hseq : behind ']' ((Values.toJson (arg :: rest) (value, values)).map textOf) =
          ',' :: (textOf (arg.ty.toJson value) ++ behind ']' (values.toJson.map textOf)) := by
        simp [Values.toJson, behind]
      rw [hseq, decodeArray_cons hnext rest, hrest]
      rfl

/-- A whole array is read back. -/
theorem decodeArray_positional {reader : JsonReader} {arg : RpcFnArg} {rest : List RpcFnArg}
    {values : Values (arg :: rest)} (hreads : ∀ value ∈ values.toJson, reader.Reads value)
    (hround : values.RoundTrip) :
    decodeArray reader (arg :: rest) ('[' :: (textOf (arg.ty.toJson values.1) ++
      behind ']' ((Values.toJson rest values.2).map textOf))) = some values := by
  obtain ⟨value, values⟩ := values
  have hrest := decodeArray_behind (fun v hv => hreads v (List.mem_cons_of_mem _ hv)) hround.2
  have hnext := nextOf_reads (hreads _ List.mem_cons_self) hround.1 (.inl rfl) (values.toJson.map textOf)
  rw [decodeArray_cons hnext rest, hrest]
  rfl

/-- No name of a later parameter is read into the field of an earlier one. -/
def Apart (heck : Heck) (params : List RpcFnArg) : Prop :=
  params.Pairwise fun earlier later => later.name ∉ fieldNames heck earlier

theorem assign_own {heck : Heck} {earlier : List RpcFnArg} {arg : RpcFnArg}
    (h : ∀ a ∈ earlier, arg.name ∉ fieldNames heck a) (rest : List RpcFnArg) :
    ((earlier ++ arg :: rest).map (fieldNames heck)).findIdx? (fun names => names.contains arg.name) =
      some earlier.length := by
  have hnone : (earlier.map (fieldNames heck)).findIdx? (fun names => names.contains arg.name) = none := by
    simpa [List.findIdx?_eq_none_iff] using h
  have hown : (fieldNames heck arg).contains arg.name = true := by simp [fieldNames]
  rw [List.map_append, List.findIdx?_append, hnone, List.map_cons, List.findIdx?_cons, hown]
  simp

theorem assign_taken {heck : Heck} {earlier : List RpcFnArg} {arg a : RpcFnArg} (ha : a ∈ earlier)
    (h : arg.name ∈ fieldNames heck a) (rest : List RpcFnArg) :
    ∃ i < earlier.length,
      ((earlier ++ rest).map (fieldNames heck)).findIdx? (fun names => names.contains arg.name) = some i := by
  have hsome : ((earlier.map (fieldNames heck)).findIdx? fun names => names.contains arg.name).isSome := by
    rw [List.findIdx?_isSome]
    simp only [List.any_map, List.any_eq_true]
    exact ⟨a, ha, by simpa using h⟩
  obtain ⟨i, hi⟩ := Option.isSome_iff_exists.mp hsome
  obtain ⟨hlt, -⟩ := List.findIdx?_eq_some_iff_findIdx_eq.mp hi
  refine ⟨i, by simpa using hlt, ?_⟩
  rw [List.map_append, List.findIdx?_append, hi]
  rfl

/-- The members of the client's map are taken one after the other: each fills the slot of its own parameter,
unless its name belongs to a field that is filled already. -/
theorem assign_names (heck : Heck) (rest earlier : List RpcFnArg) (done values : List Json)
    (hdone : done.length = earlier.length) (hvalues : values.length = rest.length) (hearlier : Apart heck earlier) :
    (Apart heck (earlier ++ rest) →
      assign ((earlier ++ rest).map (fieldNames heck)) ((rest.map RpcFnArg.name).zip values)
        (done.map some ++ List.replicate rest.length none) = some ((done ++ values).map some)) ∧
    (¬ Apart heck (earlier ++ rest) →
      assign ((earlier ++ rest).map (fieldNames heck)) ((rest.map RpcFnArg.name).zip values)
        (done.map some ++ List.replicate rest.length none) = none) := by
  induction rest generalizing earlier done values with
  | nil =>
      obtain rfl := List.length_eq_zero_iff.mp hvalues
      simp [assign, hearlier]
  | cons arg rest ih =>
      cases values with
      | nil => simp at hvalues
      | cons value values =>
      by_cases htaken : ∃ a ∈ earlier, arg.name ∈ fieldNames heck a
      · obtain ⟨a, ha, hname⟩ := htaken
        obtain ⟨i, hi, hidx⟩ := assign_taken ha hname (arg :: rest)
        have hslot : ((done.map some ++ List.replicate (arg :: rest).length none)[i]?.join).isSome = true := by
          have hlt : i < (done.map some).length := by simpa [hdone] using hi
          rw [List.getElem?_append_left hlt]
          simp [hdone, hi]
        constructor
        · intro hapart
          exact absurd hname ((List.pairwise_append.mp hapart).2.2 a ha arg List.mem_cons_self)
        · intro _
          simp only [List.map_cons, List.zip_cons_cons, assign, hidx, hslot, if_true]
      · have hfree : ∀ a ∈ earlier, arg.name ∉ fieldNames heck a := by
          intro a ha hname
          exact htaken ⟨a, ha, hname⟩
        have hidx := assign_own hfree rest
        have hgrown : Apart heck (earlier ++ [arg]) := by
          refine List.pairwise_append.mpr ⟨hearlier, List.pairwise_singleton _ _, ?_⟩
          intro a ha b hb
          obtain rfl := List.mem_singleton.mp hb
          exact hfree a ha
        have hstep := ih (earlier ++ [arg]) (done ++ [value]) values (by simp [hdone]) (by simpa using hvalues) hgrown
        have hslot : ((done.map some ++ List.replicate (arg :: rest).length none)[earlier.length]?.join).isSome =
            false := by
          simp [← hdone]
        have hset : (done.map some ++ List.replicate (arg :: rest).length none).set earlier.length (some value) =
            (done ++ [value]).map some ++ List.replicate rest.length none := by
          simp [← hdone, List.replicate_succ]
        simp only [List.append_assoc, List.singleton_append] at hstep
        simpa only [List.map_cons, List.zip_cons_cons, assign, hidx, hslot, hset, Bool.false_eq_true, if_false] using hstep

theorem readSlots_cons {arg : RpcFnArg} {value : arg.ty.Carrier} {json : Json} (h : arg.ty.fromJson json = some value)
    (rest : List RpcFnArg) (slots : List (Option Json)) :
    readSlots (arg :: rest) (some json :: slots) = (readSlots rest slots).map fun values => (value, values) := by
  have helim : (some json :: slots).head?.join.elim arg.ty.missing arg.ty.fromJson = some value := h
  rw [readSlots, helim]
  rfl

theorem readSlots_toJson {params : List RpcFnArg} {values : Values params} (hround : values.RoundTrip) :
    readSlots params (values.toJson.map some) = some values := by
  induction params with
  | nil => rfl
  | cons arg rest ih =>
      obtain ⟨value, values⟩ := values
      rw [Values.toJson, List.map_cons, readSlots_cons hround.1, ih hround.2]
      rfl

/-- A map is read back if, and only if, no name is taken. -/
theorem decodeMap_iff {reader : JsonReader} (heck : Heck) {params : List RpcFnArg} {values : Values params}
    (hreads : reader.Reads (.obj ((params.map RpcFnArg.name).zip values.toJson))) (hround : values.RoundTrip) :
    decodeMap reader heck params (some (textOf (.obj ((params.map RpcFnArg.name).zip values.toJson)))) = some values ↔
      Apart heck params := by
  obtain ⟨hown, htaken⟩ := assign_names heck params [] [] values.toJson rfl values.length_toJson List.Pairwise.nil
  simp only [List.nil_append, List.map_nil] at hown htaken
  have hparse : Params.parse reader (some (textOf (.obj ((params.map RpcFnArg.name).zip values.toJson)))) =
      some (.obj ((params.map RpcFnArg.name).zip values.toJson)) := hreads.fromStr
  simp only [decodeMap, hparse]
  by_cases hapart : Apart heck params
  · rw [hown hapart, Option.bind_some, readSlots_toJson hround]
    exact iff_of_true rfl hapart
  · rw [htaken hapart]
    exact iff_of_false (by simp) hapart

/-! ## There and back -/

/-- The values, and all the texts that are made of them, round-trip through `serde`. -/
structure RoundTrips (reader : JsonReader) (params : List RpcFnArg) (values : Values params) : Prop where
  types : values.RoundTrip
  texts : ∀ value ∈ values.toJson, reader.Reads value
  object : reader.Reads (.obj ((params.map RpcFnArg.name).zip values.toJson))

theorem received_of_ne {text : Text} (h : text ≠ "null".toList) : received (some text) = some text := by
  rw [received, Option.filter_some, if_pos (decide_eq_true h)]

theorem received_cons {c : Char} (h : c ≠ 'n') (text : Text) : received (some (c :: text)) = some (c :: text) := by
  apply received_of_ne
  intro hnull
  exact h (List.cons.inj hnull).1

/-- A value that is `null` is read although nothing arrives. -/
theorem parse_received {reader : JsonReader} {value : Json} (h : reader.Reads value) :
    Params.parse reader (Params.new (received (some (textOf value)))) = some value := by
  by_cases hnull : textOf value = "null".toList
  · have hnone : received (some (textOf value)) = none := by
      rw [hnull]
      rfl
    rw [hnone, ← h.fromStr, hnull]
    rfl
  · rw [received_of_ne hnull, ← h.fromStr]
    exact congrArg reader.fromStr h.trimmed

section Decoding

variable {reader : JsonReader} {heck : Heck} {arg : RpcFnArg} {rest : List RpcFnArg} {values : Values (arg :: rest)}

theorem decodeParams_plain {kind : ParamKind} (hkind : kind ≠ .object) (wire : Option Text) :
    decodeParams reader heck kind (arg :: rest) wire =
      if Params.isObject (Params.new wire) then decodeMap reader heck (arg :: rest) (Params.new wire)
      else decodeArray reader (arg :: rest) (Params.sequence (Params.new wire)) := by
  cases kind with
  | array => rfl
  | map => rfl
  | object => exact absurd rfl hkind

theorem decode_positional (h : RoundTrips reader (arg :: rest) values) {kind : ParamKind} (hkind : kind ≠ .object) :
    decodeParams reader heck kind (arg :: rest) (received
      (values.toJson.foldl ParamsBuilder.insert ParamsBuilder.positional).build) = some values := by
  obtain ⟨value, values⟩ := values
  have hread := decodeArray_positional h.texts h.types
  have hwire := positional_build (arg.ty.toJson value) (Values.toJson rest values)
  have hne := (h.texts _ List.mem_cons_self).nonempty
  obtain ⟨text, htext, hnonempty⟩ : ∃ text, '[' :: (textOf (arg.ty.toJson value) ++
      behind ']' ((Values.toJson rest values).map textOf)) = '[' :: (text ++ [']']) ∧ text ≠ [] := by
    refine ⟨textOf (arg.ty.toJson value) ++ ((Values.toJson rest values).map textOf).flatMap (',' :: ·), ?_, ?_⟩
    · simp [behind]
    · simp [hne]
  rw [htext] at hread hwire
  have hnew : Params.new (some ('[' :: (text ++ [']']))) = some ('[' :: (text ++ [']'])) :=
    congrArg some (trim_enclosed rfl rfl text)
  have hseq : Params.sequence (some ('[' :: (text ++ [']']))) = '[' :: (text ++ [']']) := by
    rw [Params.sequence, if_neg]
    intro hempty
    exact hnonempty (List.append_cancel_right (List.cons.inj hempty).2)
  rw [Values.toJson, hwire, received_cons (by decide), decodeParams_plain hkind, hnew, hseq, hread]
  rfl

theorem decode_named (h : RoundTrips reader (arg :: rest) values) {kind : ParamKind} (hkind : kind ≠ .object) :
    decodeParams reader heck kind (arg :: rest) (received ((((arg :: rest).map RpcFnArg.name).zip values.toJson).foldl
      (fun b entry => b.insertNamed entry.1 entry.2) ParamsBuilder.named).build) = some values ↔
      Apart heck (arg :: rest) := by
  have hread := decodeMap_iff heck h.object h.types
  have hreads := h.object
  obtain ⟨value, values⟩ := values
  have hwire := named_build (arg.name, arg.ty.toJson value) ((rest.map RpcFnArg.name).zip (Values.toJson rest values))
  rw [Values.toJson, List.map_cons, List.zip_cons_cons] at hread hreads ⊢
  have htext : ∃ text, textOf (.obj ((arg.name, arg.ty.toJson value) ::
      (rest.map RpcFnArg.name).zip (Values.toJson rest values))) = '\x7b' :: text := by
    simp [textOf, Json.render]
  obtain ⟨text, htext⟩ := htext
  have hnew : Params.new (some ('\x7b' :: text)) = some ('\x7b' :: text) := by
    rw [← htext]
    exact congrArg some hreads.trimmed
  rw [htext] at hread hwire
  rw [hwire, received_cons (by decide), decodeParams_plain hkind, hnew]
  exact hread

theorem decode_object {value : Values [arg]} (h : RoundTrips reader [arg] value) :
    decodeParams reader heck .object [arg] (received (some (textOf (arg.ty.toJson value.1)))) = some value := by
  obtain ⟨value, _⟩ := value
  have hparse := parse_received (h.texts _ List.mem_cons_self)
  rw [decodeParams, hparse, Option.bind_some, h.types.1]
  rfl

end Decoding

/-- The arguments of a call arrive as they were given, whatever the kind of the parameters, except for a map:
there no name may belong to an earlier parameter as well, and the server takes the snake case and the camel case
of a name for it. -/
theorem params_round_trip {reader : JsonReader} {heck : Heck} {kind : ParamKind} {params : List RpcFnArg}
    {values : Values params} {wire : Option Text} (hobject : kind = .object → params.length = 1)
    (hround : RoundTrips reader params values) (hencode : encodeParams kind params values = some wire) :
    decodeParams reader heck kind params (received wire) = some values ↔ (kind = .map → Apart heck params) := by
  cases params with
  | nil => exact iff_of_true rfl fun _ => List.Pairwise.nil
  | cons arg rest =>
      cases hpanic : (arg :: rest).any fun arg => arg.argPat = "__RpcParams__" with
      | true => simp [encodeParams, hpanic] at hencode
      | false =>
          simp only [encodeParams, List.isEmpty_cons, hpanic, Bool.false_eq_true, if_false] at hencode
          cases kind with
          | array =>
              cases hencode
              exact iff_of_true (decode_positional hround (by simp)) (by simp)
          | map =>
              cases hencode
              rw [decode_named hround (by simp)]
              exact ⟨fun h _ => h, fun h => h rfl⟩
          | object =>
              obtain rfl : rest = [] := by simpa using hobject rfl
              cases hencode
              exact iff_of_true (decode_object hround) (by simp)

/-- A reader of a few texts. -/
def JsonReader.only (values : List Json) : JsonReader :=
  { fromStr := fun text => values.find? fun value => textOf value = text
    next := fun text =>
      match values.find? fun value => (textOf value).isPrefixOf text with
      | some value => .value value (text.drop (textOf value).length)
      | none => .failed }

/-- `bool`. -/
def RustType.bool : RustType :=
  { Carrier := Bool
    toJson := .bool
    fromJson := fun value =>
      match value with
      | .bool b => some b
      | _ => none
    missing := none }

/-- `foo: bool, bar: Option<bool>`. -/
def fooAndBar : List RpcFnArg :=
  [{ argPat := "foo", renameTo := none, argType := .other .bool },
    { argPat := "bar", renameTo := none, argType := .option .bool }]

/-- The second argument is `None`. -/
def trueAndNone : Values fooAndBar := (true, none, ())

def trueAndNoneReader : JsonReader :=
  .only [.bool true, .null, .obj ((fooAndBar.map RpcFnArg.name).zip trueAndNone.toJson)]

theorem trueAndNone_roundTrips : RoundTrips trueAndNoneReader fooAndBar trueAndNone := by
  refine ⟨⟨rfl, rfl, trivial⟩, ?_, ⟨by decide, by decide, rfl, fun rest _ => rfl⟩⟩
  intro value hvalue
  have hmem : value ∈ [.bool true, .null] := hvalue
  rcases List.mem_pair.mp hmem with rfl | rfl
  · exact ⟨by decide, by decide, rfl, fun rest _ => rfl⟩
  · exact ⟨by decide, by decide, rfl, fun rest _ => rfl⟩

theorem params_round_trip_map :
    decodeParams trueAndNoneReader ⟨id, id⟩ .map fooAndBar (received
      (some (textOf (.obj [("foo", .bool true), ("bar", .null)])))) = some trueAndNone :=
  (params_round_trip (fun h => by simp at h) trueAndNone_roundTrips rfl).mpr fun _ => by
    unfold Apart
    decide

/-- `fooBar: bool, foo_bar: bool`. -/
def fooBars : List RpcFnArg :=
  [{ argPat := "fooBar", renameTo := none, argType := .other .bool },
    { argPat := "foo_bar", renameTo := none, argType := .other .bool }]

def trueAndFalse : Values fooBars := (true, false, ())

def trueAndFalseReader : JsonReader :=
  .only [.bool true, .bool false, .obj ((fooBars.map RpcFnArg.name).zip trueAndFalse.toJson)]

/-- The snake case of `fooBar` is the name of another parameter. -/
theorem map_of_taken_name :
    (fooBars.map RpcFnArg.name).Nodup ∧ RoundTrips trueAndFalseReader fooBars trueAndFalse ∧
      ∃ wire, encodeParams .map fooBars trueAndFalse = some wire ∧
        decodeParams trueAndFalseReader ⟨fun _ => "foo_bar", fun _ => "fooBar"⟩ .map fooBars (received wire) ≠
          some trueAndFalse := by
  refine ⟨by decide, ⟨⟨rfl, rfl, trivial⟩, ?_, ⟨by decide, by decide, rfl, fun rest _ => rfl⟩⟩, _, rfl, ?_⟩
  · intro value hvalue
    have hmem : value ∈ [.bool true, .bool false] := hvalue
    rcases List.mem_pair.mp hmem with rfl | rfl
    · exact ⟨by decide, by decide, rfl, fun rest _ => rfl⟩
    · exact ⟨by decide, by decide, rfl, fun rest _ => rfl⟩
  · intro hsome
    cases hsome

end Macros

end Jsonrpsee
