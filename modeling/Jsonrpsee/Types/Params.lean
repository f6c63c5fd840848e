import Jsonrpsee.Lib.Decimal
import Jsonrpsee.Types.Json

/-! # Request and subscription identifiers -/

namespace Jsonrpsee

/-- JSON-RPC v2 marker type: the string `2.0`. -/
inductive TwoPointZero where
  | mk
  deriving Repr, DecidableEq

def TwoPointZero.fromJson : Json → Option TwoPointZero
  | .str "2.0" => some .mk
  | _ => none

/-- Id of a subscription, communicated by the server. -/
inductive SubscriptionId where
  | num (n : UInt64)
  | str (s : String)
  deriving Repr, DecidableEq

namespace SubscriptionId

def toJson : SubscriptionId → Json
  | .num n => .int n.toNat
  | .str s => .str s

/-- The untagged reading: the first variant that accepts the value. -/
def fromJson : Json → Option SubscriptionId
  | .str s => some (.str s)
  | value => value.asU64.map .num

end SubscriptionId

/-- A request that failed because of an invalid request id. -/
inductive InvalidRequestId where
  /-- The request ID was parsed as valid ID but not a pending request. -/
  | notPendingRequest (id : String)
  /-- The request ID was already assigned to a pending call. -/
  | occupied (id : String)
  /-- The request ID format was invalid. -/
  | invalid (id : String)
  deriving Repr, DecidableEq

/-- Request id. -/
inductive Id where
  | null
  | number (n : UInt64)
  | str (s : String)
  deriving Repr, DecidableEq

/-- `str::parse::<u64>`. -/
def parseU64 (text : String) : Option UInt64 :=
  (Decimal.parse (2 ^ 64) text.toList).map UInt64.ofNat

namespace Id

def toJson : Id → Json
  | .null => .null
  | .number n => .int n.toNat
  | .str s => .str s

def fromJson : Json → Option Id
  | .null => some .null
  | .str s => some (.str s)
  | value => value.asU64.map .number

/-- `Display`. -/
def toString : Id → String
  | .null => "null"
  | .number n => Nat.repr n.toNat
  | .str s => s

/-- Extract the underlying number from the ID. -/
def tryParseInnerAsNumber : Id → Except InvalidRequestId UInt64
  | .null => .error (.invalid "null")
  | .number num => .ok num
  | .str s =>
      match parseU64 s with
      | some num => .ok num
      | none => .error (.invalid s)

theorem fromJson_toJson (id : Id) : fromJson id.toJson = some id := by
  cases id with
  | null | str => rfl
  | number n =>
      have inRange : (n.toNat : Int) < 2 ^ 64 := by exact_mod_cast n.toNat_lt
      simp only [toJson, fromJson, Json.asU64, Int.natCast_nonneg, inRange, and_self, if_true,
        Int.toNat_natCast, UInt64.ofNat_toNat, Option.map_some]

end Id

theorem SubscriptionId.fromJson_toJson (id : SubscriptionId) : fromJson id.toJson = some id := by
  cases id with
  | str => rfl
  | num n =>
      have inRange : (n.toNat : Int) < 2 ^ 64 := by exact_mod_cast n.toNat_lt
      simp only [toJson, fromJson, Json.asU64, Int.natCast_nonneg, inRange, and_self, if_true,
        Int.toNat_natCast, UInt64.ofNat_toNat, Option.map_some]

/-- The values that are ids: `null`, a string, or a number that fits a `u64`. -/
def Json.IsId : Json → Prop
  | .null | .str _ => True
  | .int n => 0 ≤ n ∧ n < 2 ^ 64
  | .bool _ | .float _ | .arr _ | .obj _ => False

theorem Id.fromJson_isSome_iff (value : Json) : (Id.fromJson value).isSome ↔ value.IsId := by
  cases value with
  | int n =>
      by_cases inRange : 0 ≤ n ∧ n < 2 ^ 64 <;> simp [fromJson, Json.asU64, Json.IsId, inRange]
  | _ => simp [fromJson, Json.asU64, Json.IsId]

theorem TwoPointZero.fromJson_isSome_iff (value : Json) :
    (TwoPointZero.fromJson value).isSome ↔ value = .str "2.0" := by
  unfold TwoPointZero.fromJson
  split <;> simp_all

theorem parseU64_repr (n : UInt64) : parseU64 (Nat.repr n.toNat) = some n := by
  rw [parseU64, Decimal.parse_repr n.toNat_lt, Option.map_some, UInt64.ofNat_toNat]

end Jsonrpsee
