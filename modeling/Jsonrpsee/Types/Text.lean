import Jsonrpsee.Types.Response

/-! # JSON texts

The compact texts that `serde_json` writes. A `Box<RawValue>` that the server
builds is kept together with the value it denotes: its limits are about the
text, and what a peer reads is the value.
-/

namespace Jsonrpsee

namespace Json

/-- A lower-case hexadecimal digit. -/
def hexDigit (n : Nat) : Char := if n < 10 then Char.ofNat (48 + n) else Char.ofNat (87 + n)

/-- The characters that stand for one character of a string. -/
def escape (c : Char) : List Char :=
  if c.toNat = 34 then ['\\', c]
  else if c.toNat = 92 then ['\\', c]
  else if c.toNat = 8 then ['\\', 'b']
  else if c.toNat = 9 then ['\\', 't']
  else if c.toNat = 10 then ['\\', 'n']
  else if c.toNat = 12 then ['\\', 'f']
  else if c.toNat = 13 then ['\\', 'r']
  else if c.toNat < 32 then ['\\', 'u', '0', '0', hexDigit (c.toNat / 16), hexDigit (c.toNat % 16)]
  else [c]

def quote (s : String) : String := "\x22" ++ String.ofList (s.toList.flatMap escape) ++ "\x22"

mutual

/-- `serde_json::to_string`. -/
def render : Json → String
  | .null => "null"
  | .bool true => "true"
  | .bool false => "false"
  | .int n => toString n
  | .float literal => literal
  | .str s => quote s
  | .arr elems => "[" ++ renderElems elems ++ "]"
  | .obj members => "\x7b" ++ renderMembers members ++ "\x7d"

def renderElems : List Json → String
  | [] => ""
  | [elem] => render elem
  | elem :: rest => render elem ++ "," ++ renderElems rest

def renderMembers : List (String × Json) → String
  | [] => ""
  | [member] => renderMember member
  | member :: rest => renderMember member ++ "," ++ renderMembers rest

def renderMember : String × Json → String
  | (name, value) => quote name ++ ":" ++ render value

end

end Json

/-- A `Box<RawValue>` with the value that its text denotes. -/
structure RawText where
  text : String
  value : Json
  deriving Repr

/-- `serde_json::value::to_raw_value`. -/
def RawText.ofJson (value : Json) : RawText := { text := value.render, value }

/-! ## Serializing responses -/

namespace ErrorCode

/-- Returns integer code value. -/
def code : ErrorCode → Int
  | .parseError => -32700
  | .oversizedRequest => -32007
  | .invalidRequest => -32600
  | .methodNotFound => -32601
  | .serverIsBusy => -32009
  | .invalidParams => -32602
  | .internalError => -32603
  | .serverError code => code

/-- Returns the message for the given error code. -/
def message : ErrorCode → String
  | .parseError => "Parse error"
  | .oversizedRequest => "Request is too big"
  | .invalidRequest => "Invalid request"
  | .methodNotFound => "Method not found"
  | .serverIsBusy => "Server is busy, try again later"
  | .invalidParams => "Invalid params"
  | .internalError => "Internal error"
  | .serverError _ => "Server error"

end ErrorCode

namespace ErrorObject

/-- `From<ErrorCode>`. -/
def ofCode (code : ErrorCode) : ErrorObject := { code, message := code.message, data := none }

/-- Create a new `ErrorObjectOwned` whose data is a text. -/
def owned (code : Int) (message data : String) : ErrorObject :=
  { code := .ofInt code, message, data := some (.str data) }

/-- The derived serializer. Absent data is skipped. -/
def toJson (e : ErrorObject) : Json :=
  .obj ([("code", .int e.code.code), ("message", .str e.message)] ++
    (e.data.map fun data => ("data", data)).toList)

end ErrorObject

/-- A helper error of the server: the limit that was exceeded is its data. -/
def exceeded (code : Int) (message : String) (limit : Nat) : ErrorObject :=
  .owned code message ("Exceeded max limit of " ++ Nat.repr limit)

def rejectTooManySubscriptions : Nat → ErrorObject := exceeded (-32006) "Too many subscriptions on the connection"

def rejectTooBigBatchRequest : Nat → ErrorObject := exceeded (-32010) "The batch request was too large"

def rejectTooBigBatchResponse : Nat → ErrorObject := exceeded (-32011) "The batch response was too large"

/-- The hand-written serializer. -/
def Response.toJson (rp : Response) : Json :=
  .obj ((rp.jsonrpc.map fun _ => ("jsonrpc", .str "2.0")).toList ++
    [("id", rp.id.toJson),
      match rp.payload with
      | .error e => ("error", e.toJson)
      | .success result => ("result", result)])

end Jsonrpsee
