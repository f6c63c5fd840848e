import Jsonrpsee.Types.Response

/-! # Request ids of a client

One wrapping counter per client feeds every request id. A batch draws a single
number and uses the range that starts there.
-/

namespace Jsonrpsee

/-- The errors of registering a method. -/
inductive RegisterMethodError where
  | alreadyRegistered (method : String)
  | subscriptionNameConflict (method : String)
  deriving Repr, DecidableEq

/-- Error type of the clients. A `serde_json::Error` and a transport error are
    kept by their text. -/
inductive Error where
  /-- JSON-RPC error which can occur when a JSON-RPC call fails. -/
  | call (e : ErrorObject)
  /-- Networking error or error on the low-level protocol layer. -/
  | transport (text : String)
  /-- The background task has been terminated. -/
  | restartNeeded (e : Error)
  | parseError (text : String)
  | invalidSubscriptionId
  | invalidRequestId (e : InvalidRequestId)
  | custom (text : String)
  | emptyBatchRequest
  | registerMethod (e : RegisterMethodError)
  deriving Repr

/-- `Range<u64>`, exclusive at `stop`. -/
structure Range where
  start : UInt64
  stop : UInt64
  deriving Repr, DecidableEq

namespace Range

/-- How many numbers the range iterates over. -/
def size (range : Range) : Nat := range.stop.toNat - range.start.toNat

/-- The numbers of the range, in order. -/
def numbers (range : Range) : List UInt64 :=
  (List.range range.size).map fun offset => UInt64.ofNat (range.start.toNat + offset)

/-- The range of the ids of a batch. -/
def ofLen (start : UInt64) (len : Nat) : Range :=
  { start, stop := UInt64.ofNat (start.toNat + len) }

/-- The `Debug` text. -/
def debug (range : Range) : String :=
  Nat.repr range.start.toNat ++ ".." ++ Nat.repr range.stop.toNat

end Range

/-- JSON-RPC request object id data type. -/
inductive IdKind where
  | string
  | number
  deriving Repr, DecidableEq

/-- Generate an `Id` from number. -/
def IdKind.intoId (kind : IdKind) (id : UInt64) : Id :=
  match kind with
  | .number => .number id
  | .string => .str (Nat.repr id.toNat)

/-- Keep track of request IDs. -/
structure RequestIdManager where
  currentId : UInt64
  idKind : IdKind
  deriving Repr, DecidableEq

/-- Get the next request ID; `fetch_add` wraps. -/
def RequestIdManager.nextRequestId (ids : RequestIdManager) : Id × RequestIdManager :=
  (ids.idKind.intoId ids.currentId, { ids with currentId := ids.currentId + 1 })

/-- Generate a range of IDs to be used in a batch request. -/
def generateBatchIdRange (id : Id) (len : Nat) : Except Error Range :=
  match id.tryParseInnerAsNumber with
  | .error e => .error (.invalidRequestId e)
  | .ok start =>
      if start.toNat + len < 2 ^ 64 then .ok (.ofLen start len)
      else .error (.custom "BatchID range wrapped; restart the client or try again later")

/-- The slot of a response id: `checked_sub` of the batch's first id, as a `usize`. -/
def slotOf (start id : UInt64) : Option Nat :=
  if start ≤ id then some (id.toNat - start.toNat) else none

/-- Both kinds of id carry their number through the wire. -/
@[simp] theorem IdKind.tryParse_intoId (kind : IdKind) (n : UInt64) :
    (kind.intoId n).tryParseInnerAsNumber = .ok n := by
  cases kind with
  | number => rfl
  | string => simp only [intoId, Id.tryParseInnerAsNumber, parseU64_repr]

theorem IdKind.intoId_injective (kind : IdKind) {m n : UInt64}
    (same : kind.intoId m = kind.intoId n) : m = n := by
  have parsed := congrArg Id.tryParseInnerAsNumber same
  simpa only [tryParse_intoId, Except.ok.injEq] using parsed

/-- A batch range that does not wrap has the batch's length and starts at the
    drawn number. -/
theorem generateBatchIdRange_intoId (kind : IdKind) (n : UInt64) (len : Nat) :
    generateBatchIdRange (kind.intoId n) len =
      if n.toNat + len < 2 ^ 64 then .ok (.ofLen n len)
      else .error (.custom "BatchID range wrapped; restart the client or try again later") := by
  simp only [generateBatchIdRange, IdKind.tryParse_intoId]

section OfLen

variable {start : UInt64} {len : Nat} (fits : start.toNat + len < 2 ^ 64)

include fits

theorem Range.size_ofLen : (Range.ofLen start len).size = len := by
  simp only [size, ofLen, UInt64.toNat_ofNat_of_lt' fits]
  omega

theorem Range.start_lt_ofLen (nonempty : 0 < len) :
    (Range.ofLen start len).start < (Range.ofLen start len).stop := by
  rw [UInt64.lt_iff_toNat_lt, ofLen, UInt64.toNat_ofNat_of_lt' fits]
  exact Nat.lt_add_of_pos_right nonempty

/-- The ids of a batch follow its first id. -/
theorem Range.numbers_ofLen :
    (Range.ofLen start len).numbers =
      (List.range len).map fun offset => UInt64.ofNat (start.toNat + offset) := by
  rw [numbers, size_ofLen fits]
  rfl

end OfLen

end Jsonrpsee
