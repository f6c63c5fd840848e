import Jsonrpsee.Types.Response

/-! # The visitor of responses

The deserializer of a response is written by hand. It goes over the members of an
object, keeps what it has read of the four members that it knows, and decides at the
end. `Response.fromJson` is what comes of it, without the loop.
-/

namespace Jsonrpsee

/-- The members that the visitor tells apart. -/
inductive Field where
  | jsonrpc
  | result
  | error
  | id
  | ignore
  deriving Repr, DecidableEq

def Field.ofStr (value : String) : Field :=
  match value with
  | "jsonrpc" => .jsonrpc
  | "result" => .result
  | "error" => .error
  | "id" => .id
  | _ => .ignore

/-- Why a value is not read as a response. -/
inductive VisitError where
  /-- It is no object. -/
  | invalidType
  | duplicateField (name : String)
  | missingField (name : String)
  /-- The value of a member is not what it should be. -/
  | nextValue
  deriving Repr, DecidableEq

/-- `map.next_value`. -/
def nextValue {α : Type} (read : Json → Option α) (value : Json) : Except VisitError α :=
  match read value with
  | some a => .ok a
  | none => .error .nextValue

/-- What has been read so far. A version that is there may be `null`. -/
structure Visited where
  jsonrpc : Option (Option TwoPointZero)
  result : Option RawValue
  error : Option ErrorObject
  id : Option Id

namespace Visited

def new : Visited := { jsonrpc := none, result := none, error := none, id := none }

/-- The next member. -/
def visit (v : Visited) (key : String) (value : Json) : Except VisitError Visited :=
  match Field.ofStr key with
  | .result =>
      if v.result.isSome then .error (.duplicateField "result")
      else (nextValue some value).map fun result => { v with result := some result }
  | .error =>
      if v.error.isSome then .error (.duplicateField "error")
      else (nextValue ErrorObject.fromJson value).map fun error => { v with error := some error }
  | .id =>
      if v.id.isSome then .error (.duplicateField "id")
      else (nextValue Id.fromJson value).map fun id => { v with id := some id }
  | .jsonrpc =>
      if v.jsonrpc.isSome then .error (.duplicateField "jsonrpc")
      else (nextValue (Json.asOption TwoPointZero.fromJson) value).map fun jsonrpc => { v with jsonrpc := some jsonrpc }
  | .ignore => .ok v

/-- The response, when there are no more members. -/
def finish (v : Visited) : Except VisitError Response :=
  match v.id with
  | none => .error (.missingField "id")
  | some id =>
      match v.jsonrpc, v.result, v.error with
      | _, some _, some _ => .error (.duplicateField "result and error are mutually exclusive")
      | some jsonrpc, some result, none => .ok { jsonrpc, payload := .success result, id }
      | some jsonrpc, none, some err => .ok { jsonrpc, payload := .error err, id }
      | none, some result, _ => .ok { jsonrpc := none, payload := .success result, id }
      | none, _, some err => .ok { jsonrpc := none, payload := .error err, id }
      | _, none, none => .error (.missingField "result/error")

/-- The loop of `visit_map`. -/
def visitMap : Visited → List (String × Json) → Except VisitError Response
  | v, [] => v.finish
  | v, (key, value) :: rest =>
      match v.visit key value with
      | .ok v => visitMap v rest
      | .error e => .error e

end Visited

/-- The hand-written deserializer. -/
def Response.deserialize : Json → Except VisitError Response
  | .obj members => Visited.visitMap .new members
  | _ => .error .invalidType

/-! ## One member at a time -/

/-- What the loop makes of one of the members that it knows. -/
def slot {α : Type} (read : Json → Option α) (name : String) : Option α → List (String × Json) → Option (Option α)
  | kept, [] => some kept
  | kept, (key, value) :: rest =>
      if key = name then
        match kept with
        | some _ => none
        | none => (read value).bind fun a => slot read name (some a) rest
      else slot read name kept rest

section Slots

variable {α : Type} (read : Json → Option α) (name : String)

theorem slot_some (a : α) (members : List (String × Json)) :
    slot read name (some a) members = if (members.filter (·.1 = name)).length = 0 then some (some a) else none := by
  induction members with
  | nil => rfl
  | cons member rest ih =>
      obtain ⟨key, value⟩ := member
      by_cases same : key = name
      · simp [slot, same]
      · rw [slot, if_neg same, ih, List.filter_cons_of_neg (by simpa using same)]

/-- A member may be given once. -/
theorem slot_none (members : List (String × Json)) :
    slot read name none members =
      if (members.filter (·.1 = name)).length ≤ 1 then
        (members.lookup name).elim (some none) fun value => (read value).map some
      else none := by
  induction members with
  | nil => rfl
  | cons member rest ih =>
      obtain ⟨key, value⟩ := member
      by_cases same : key = name
      · subst same
        rw [slot, if_pos rfl, List.filter_cons_of_pos (by simp), List.length_cons, List.lookup_cons_self]
        by_cases once : (rest.filter (·.1 = key)).length = 0
        · rw [if_pos (by omega)]
          cases taken : read value <;> simp [slot_some, once, taken]
        · rw [if_neg (by omega)]
          cases read value <;> simp [slot_some, once]
      · have missed : (name == key) = false := beq_false_of_ne (Ne.symm same)
        rw [slot, if_neg same, ih, List.filter_cons_of_neg (by simpa using same), List.lookup_cons, missed]

end Slots

theorem toOption_error {α : Type} (e : VisitError) : (.error e : Except VisitError α).toOption = none := rfl

/-- The names of the fields. -/
theorem Field.ofStr_cases (key : String) :
    (key = "jsonrpc" ∨ key = "result" ∨ key = "error" ∨ key = "id") ∨
      (key ≠ "jsonrpc" ∧ key ≠ "result" ∧ key ≠ "error" ∧ key ≠ "id") ∧ ofStr key = .ignore := by
  unfold ofStr
  split <;> simp_all

/-- The loop reads the four members independently of one another. -/
theorem Visited.toOption_visitMap (v : Visited) (members : List (String × Json)) :
    (v.visitMap members).toOption =
      (slot (Json.asOption TwoPointZero.fromJson) "jsonrpc" v.jsonrpc members).bind fun jsonrpc =>
        (slot some "result" v.result members).bind fun result =>
          (slot ErrorObject.fromJson "error" v.error members).bind fun error =>
            (slot Id.fromJson "id" v.id members).bind fun id =>
              (finish { jsonrpc, result, error, id }).toOption := by
  induction members generalizing v with
  | nil => rfl
  | cons member rest ih =>
      obtain ⟨key, value⟩ := member
      rcases Field.ofStr_cases key with (rfl | rfl | rfl | rfl) | ⟨⟨jsonrpc, result, error, id⟩, ignored⟩
      · cases kept : v.jsonrpc <;> cases read : Json.asOption TwoPointZero.fromJson value <;>
          simp [visitMap, visit, Field.ofStr, kept, read, nextValue, slot, ih, Except.map, toOption_error]
      · cases kept : v.result <;>
          simp [visitMap, visit, Field.ofStr, kept, nextValue, slot, ih, Except.map, toOption_error]
      · cases kept : v.error <;> cases read : ErrorObject.fromJson value <;>
          simp [visitMap, visit, Field.ofStr, kept, read, nextValue, slot, ih, Except.map, toOption_error]
      · cases kept : v.id <;> cases read : Id.fromJson value <;>
          simp [visitMap, visit, Field.ofStr, kept, read, nextValue, slot, ih, Except.map, toOption_error]
      · simp [visitMap, visit, ignored, slot, ih, jsonrpc, result, error, id]

/-- What comes of the loop. -/
theorem Response.toOption_deserialize (value : Json) : (deserialize value).toOption = fromJson value := by
  cases value with
  | obj members =>
      rw [deserialize, Visited.toOption_visitMap]
      simp only [Visited.new, slot_none, fromJson, List.all_cons, List.all_nil, Bool.and_true, Bool.and_eq_true,
        decide_eq_true_eq]
      by_cases jsonrpc : (members.filter (·.1 = "jsonrpc")).length ≤ 1
      case neg => simp only [jsonrpc, if_false, Option.bind_none, false_and]
      by_cases result : (members.filter (·.1 = "result")).length ≤ 1
      case neg => simp only [result, if_false, Option.bind_none, Option.bind_fun_none, false_and, and_false]
      by_cases error : (members.filter (·.1 = "error")).length ≤ 1
      case neg => simp only [error, if_false, Option.bind_none, Option.bind_fun_none, false_and, and_false]
      by_cases id : (members.filter (·.1 = "id")).length ≤ 1
      case neg => simp only [id, if_false, Option.bind_none, Option.bind_fun_none, and_false]
      simp only [jsonrpc, result, error, id, if_true, and_self, Json.optionField]
      clear jsonrpc result error id
      cases members.lookup "jsonrpc" <;> cases members.lookup "result" <;> cases members.lookup "error" <;>
        cases members.lookup "id" <;> simp [Visited.finish, toOption_error]
      -- What is left has an id and one of the two payloads: the readers decide.
      case none.none.some.some error id =>
          cases ErrorObject.fromJson error <;> cases Id.fromJson id <;> rfl
      case none.some.none.some result id => cases Id.fromJson id <;> rfl
      case some.none.some.some jsonrpc error id =>
          cases Json.asOption TwoPointZero.fromJson jsonrpc <;> cases ErrorObject.fromJson error <;>
            cases Id.fromJson id <;> rfl
      case some.some.none.some jsonrpc result id =>
          cases Json.asOption TwoPointZero.fromJson jsonrpc <;> cases Id.fromJson id <;> rfl
  | _ => rfl

/-! ## The grammar -/

def Response.fieldNames : List String := ["jsonrpc", "result", "error", "id"]

/-- The members of a response, in any order and with others among them. -/
structure Response.Accepted (members : List (String × Json)) : Prop where
  once : ∀ name ∈ fieldNames, (members.filter (·.1 = name)).length ≤ 1
  id : ∃ value, ("id", value) ∈ members ∧ value.IsId
  payload :
    ((∃ value, ("result", value) ∈ members) ∧ ¬ ∃ value, ("error", value) ∈ members) ∨
      ((¬ ∃ value, ("result", value) ∈ members) ∧
        ∃ value, ("error", value) ∈ members ∧ ∃ e, ErrorObject.fromJson value = some e)
  jsonrpc : ∀ value, ("jsonrpc", value) ∈ members → value = .null ∨ value = .str "2.0"

/-- A member that is given once is the one that is found. -/
theorem Json.lookup_eq_some_iff {name : String} {members : List (String × Json)}
    (single : (members.filter (·.1 = name)).length ≤ 1) (value : Json) :
    members.lookup name = some value ↔ (name, value) ∈ members := by
  have kept : (name, value) ∈ members ↔ (name, value) ∈ members.filter (·.1 = name) := by simp
  rw [lookup_eq_filter, kept]
  generalize found : members.filter (·.1 = name) = entries at single
  match entries with
  | [] => simp
  | [(key, other)] =>
      have same : key = name := by
        have mem : (key, other) ∈ members.filter (·.1 = name) := by simp [found]
        simpa using List.of_mem_filter mem
      simp [same, eq_comm]

theorem TwoPointZero.asOption_isSome_iff (value : Json) :
    (Json.asOption fromJson value).isSome ↔ value = .null ∨ value = .str "2.0" := by
  cases value with
  | null => simp [Json.asOption]
  | _ => simp [Json.asOption, fromJson_isSome_iff]

/-- The grammar in terms of the members that are found. -/
theorem Response.accepted_iff (members : List (String × Json)) :
    Accepted members ↔
      (∀ name ∈ fieldNames, (members.filter (·.1 = name)).length ≤ 1) ∧
        ((members.lookup "id").bind Id.fromJson).isSome ∧
        (Json.optionField TwoPointZero.fromJson (members.lookup "jsonrpc")).isSome ∧
        ((members.lookup "result").isSome ∧ members.lookup "error" = none ∨
          members.lookup "result" = none ∧ ((members.lookup "error").bind ErrorObject.fromJson).isSome) := by
  constructor
  · rintro ⟨once, ⟨id, given, isId⟩, payload, jsonrpc⟩
    have found (name : String) (h : name ∈ fieldNames) := Json.lookup_eq_some_iff (once name h)
    refine ⟨once, ?_, ?_, ?_⟩
    · rw [(found "id" (by simp [fieldNames]) id).mpr given, Option.bind_some, Id.fromJson_isSome_iff]
      exact isId
    · cases read : members.lookup "jsonrpc" with
      | none => rfl
      | some version =>
          rw [Json.optionField, TwoPointZero.asOption_isSome_iff]
          exact jsonrpc version ((found "jsonrpc" (by simp [fieldNames]) version).mp read)
    · simp only [← found "result" (by simp [fieldNames]), ← found "error" (by simp [fieldNames]), ← Option.isSome_iff_exists,
        Option.not_isSome_iff_eq_none] at payload
      rcases payload with success | ⟨missing, value, given, read⟩
      · exact .inl success
      · rw [given, Option.bind_some]
        exact .inr ⟨missing, read⟩
  · rintro ⟨once, id, jsonrpc, payload⟩
    have found (name : String) (h : name ∈ fieldNames) := Json.lookup_eq_some_iff (once name h)
    refine ⟨once, ?_, ?_, ?_⟩
    · cases given : members.lookup "id" with
      | none => simp [given] at id
      | some value =>
          rw [given, Option.bind_some, Id.fromJson_isSome_iff] at id
          exact ⟨value, (found "id" (by simp [fieldNames]) value).mp given, id⟩
    · simp only [← found "result" (by simp [fieldNames]), ← found "error" (by simp [fieldNames]), ← Option.isSome_iff_exists,
        Option.not_isSome_iff_eq_none]
      rcases payload with success | ⟨missing, read⟩
      · exact .inl success
      · obtain ⟨e, read⟩ := Option.isSome_iff_exists.mp read
        obtain ⟨value, given, read⟩ := Option.bind_eq_some_iff.mp read
        exact .inr ⟨missing, value, given, Option.isSome_of_eq_some read⟩
    · intro version given
      rw [(found "jsonrpc" (by simp [fieldNames]) version).mpr given, Json.optionField,
        TwoPointZero.asOption_isSome_iff] at jsonrpc
      exact jsonrpc

theorem Response.fromJson_isSome_iff (members : List (String × Json)) :
    (fromJson (.obj members)).isSome ↔ Accepted members := by
  rw [accepted_iff, fromJson]
  by_cases once : ∀ name ∈ fieldNames, (members.filter (·.1 = name)).length ≤ 1
  · rw [if_pos (by simpa [fieldNames] using once), and_iff_right once]
    cases (members.lookup "id").bind Id.fromJson <;>
      cases Json.optionField TwoPointZero.fromJson (members.lookup "jsonrpc") <;>
      cases members.lookup "result" <;> cases given : members.lookup "error" <;> simp
    case some.some.none.some error => cases ErrorObject.fromJson error <;> simp
  · rw [if_neg (by simpa [fieldNames] using once)]
    exact ⟨fun read => absurd read (by simp), fun accepted => absurd accepted.1 once⟩

/-- The members that the visitor knows. -/
def Response.known (members : List (String × Json)) : List (String × Json) :=
  members.filter (Field.ofStr ·.1 ≠ .ignore)

theorem Response.filter_known {name : String} (h : name ∈ fieldNames)
    (members : List (String × Json)) : (known members).filter (·.1 = name) = members.filter (·.1 = name) := by
  rw [known, List.filter_filter]
  refine List.filter_congr fun member _ => ?_
  simp only [fieldNames, List.mem_cons, List.not_mem_nil, or_false] at h
  by_cases same : member.1 = name
  · rcases h with rfl | rfl | rfl | rfl <;> simp [same, Field.ofStr]
  · simp [same]

/-- Neither the order of the members nor the members that it does not know matter. -/
theorem Response.fromJson_congr {members members' : List (String × Json)}
    (same : (known members).Perm (known members')) : fromJson (.obj members) = fromJson (.obj members') := by
  have filtered (name : String) (h : name ∈ fieldNames) :
      (members.filter (·.1 = name)).Perm (members'.filter (·.1 = name)) := by
    rw [← filter_known h members, ← filter_known h members']
    exact same.filter _
  have length (name : String) (h : name ∈ fieldNames) := (filtered name h).length_eq
  rw [fromJson, fromJson]
  by_cases once : ∀ name ∈ fieldNames, (members'.filter (·.1 = name)).length ≤ 1
  · have found (name : String) (h : name ∈ fieldNames) : members.lookup name = members'.lookup name :=
      Json.lookup_perm (filtered name h) (once name h)
    have once' : ∀ name ∈ fieldNames, (members.filter (·.1 = name)).length ≤ 1 := by
      intro name h
      rw [length name h]
      exact once name h
    rw [if_pos (by simpa [fieldNames] using once'), if_pos (by simpa [fieldNames] using once),
      found "jsonrpc" (by simp [fieldNames]), found "id" (by simp [fieldNames]), found "result" (by simp [fieldNames]),
      found "error" (by simp [fieldNames])]
  · have twice : ¬ ∀ name ∈ fieldNames, (members.filter (·.1 = name)).length ≤ 1 := by
      intro once'
      refine once fun name h => ?_
      rw [← length name h]
      exact once' name h
    rw [if_neg (by simpa [fieldNames] using twice), if_neg (by simpa [fieldNames] using once)]

theorem Response.exists_ok_iff (value : Json) : (∃ rp, deserialize value = .ok rp) ↔ (fromJson value).isSome := by
  rw [← toOption_deserialize]
  cases deserialize value <;> simp [Except.toOption]

/-- The decoder accepts its grammar, and what it decodes depends on the known members alone. -/
theorem Response.deserialize_grammar (value : Json) :
    ((∃ rp, deserialize value = .ok rp) ↔ ∃ members, value = .obj members ∧ Accepted members) ∧
      ∀ members members', (known members).Perm (known members') →
        (deserialize (.obj members)).toOption = (deserialize (.obj members')).toOption := by
  constructor
  · rw [exists_ok_iff]
    cases value with
    | obj members => simp [fromJson_isSome_iff]
    | _ => simp [fromJson]
  · intro members members' same
    rw [toOption_deserialize, toOption_deserialize, fromJson_congr same]

/-- The id may come first or last, and there may be more than the visitor knows. -/
theorem Response.deserialize_grammar_reordered :
    (deserialize (.obj [("id", .int 1), ("result", .null), ("jsonrpc", .str "2.0")])).toOption =
      (deserialize (.obj [("jsonrpc", .str "2.0"), ("result", .null), ("note", .null), ("id", .int 1)])).toOption :=
  (deserialize_grammar .null).2 _ _ (List.Perm.swap _ _ _ |>.trans (List.Perm.cons _ (List.Perm.swap _ _ _)) |>.trans
    (List.Perm.swap _ _ _))

end Jsonrpsee
