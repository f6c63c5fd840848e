import Jsonrpsee.Lib.MultiMap
import Jsonrpsee.Server.HttpHelpers
import Jsonrpsee.Types.Codec

/-! # Methods behind GET requests

The proxy turns a GET request for one of its paths into a call of a method, and takes the
result or the error out of the response. Everything else passes. The parser of JSON is one
that keeps the texts of the parts of an object.
-/

namespace Jsonrpsee

namespace Server

/-! ## Requests and responses -/

inductive HttpMethod where
  | get
  | post
  | other (name : String)
  deriving Repr, DecidableEq

structure HyperUri where
  scheme : Option String
  authority : Option String
  path : String
  query : Option String
  deriving Repr, DecidableEq

abbrev HyperHeaders := MultiMap String HeaderValue

structure HyperRequest where
  method : HttpMethod
  uri : HyperUri
  headers : HyperHeaders
  body : List Frame
  extensions : Extensions

structure HyperResponse where
  status : Nat
  headers : HyperHeaders
  body : List Frame
  extensions : Extensions

/-- The bytes of a text. -/
def utf8 (text : String) : List UInt8 := text.toByteArray.data.toList

def fromTemplate (status : Nat) (body contentType : String) : HyperResponse :=
  { status
    headers := MultiMap.empty.insert "content-type" (utf8 contentType)
    body := [.data (utf8 body)]
    extensions := ∅ }

/-- Create a valid JSON response. -/
def okResponse (body : String) : HyperResponse := fromTemplate 200 body "application/json; charset=utf-8"

/-! ## The layer -/

inductive ProxyGetRequestError where
  | duplicatedPath (path : String)
  | invalidPath (path : String)
  deriving Repr, DecidableEq

namespace ProxyGetRequestLayer

def insertPairs (methods : Table String String) :
    List (String × String) → Except ProxyGetRequestError (Table String String)
  | [] => .ok methods
  | (path, method) :: rest =>
      if path.toList.head? ≠ some '/' then .error (.invalidPath path)
      else
        match methods.lookup path with
        -- What `insert` gives back is the method that the path had.
        | some old => .error (.duplicatedPath old)
        | none => insertPairs (methods.insert path method) rest

/-- The request `GET /path` is redirected to the provided method. -/
def new (pairs : List (String × String)) : Except ProxyGetRequestError (Table String String) := insertPairs ∅ pairs

end ProxyGetRequestLayer

/-! ## Reading the response -/

/-- A JSON value with the texts of its parts. -/
inductive Shallow where
  | obj (members : List (String × RawText))
  | arr (elems : List RawText)
  | scalar

/-- The derived deserializer of a struct with one field that has to be there. -/
def Shallow.field (name : String) : Shallow → Option RawText
  | .obj members =>
      match members.filter (·.1 = name) with
      | [member] => some member.2
      | _ => none
  | .arr [elem] => some elem
  | .arr _ | .scalar => none

/-- The loop over the frames. Trailers are no data. -/
def collectFrames (bytes : List UInt8) : List Frame → Except String (List UInt8)
  | [] => .ok bytes
  | .data data :: rest => collectFrames (bytes ++ data) rest
  | .trailers :: _ => .error "trailers"
  | .error :: _ => .error "body"

namespace ProxyGetRequest

variable (shallow : List UInt8 → Option Shallow)

def successResponse (bytes : List UInt8) : Option RawText := (shallow bytes).bind (Shallow.field "result")

def errorResponse (bytes : List UInt8) : Option ErrorObject :=
  ((shallow bytes).bind (Shallow.field "error")).bind fun error => ErrorObject.fromJson error.value

def internalProxyError (bytes : List UInt8) : HyperResponse :=
  let error := (errorResponse shallow bytes).getD (.ofCode .internalError)
  fromTemplate 500 error.toJson.render "application/json; charset=utf-8"

/-- What is made of the response of the inner service. -/
def stripResponse (res : HyperResponse) : Except String HyperResponse := do
  let bytes ← collectFrames [] res.body
  let response :=
    match successResponse shallow bytes with
    | some result => okResponse result.text
    | none => internalProxyError shallow bytes
  .ok { response with extensions := response.extensions.extend res.extensions }

def applicationJson : HeaderValue := utf8 "application/json"

/-- The request that calls a method, in place of a GET request. -/
def callRequest (method : String) (req : HyperRequest) : HyperRequest :=
  { method := .post
    uri := { scheme := none, authority := none, path := "/", query := req.uri.query }
    headers := (req.headers.insert "content-type" applicationJson).insert "accept" applicationJson
    body := [.data (Request.toJson { id := .number 0, method, params := none }).bytes]
    extensions := req.extensions }

variable {σ : Type}

def call (methods : Table String String) (inner : HyperRequest → σ → Except String HyperResponse × σ)
    (req : HyperRequest) (world : σ) : Except String HyperResponse × σ :=
  match methods.lookup req.uri.path, req.method with
  | some method, .get =>
      let (res, world) := inner (callRequest method req) world
      (res.bind (stripResponse shallow), world)
  | _, _ => inner req world

end ProxyGetRequest

/-! ## The table of paths -/

namespace ProxyGetRequestLayer

variable {methods methods' : Table String String} {pairs : List (String × String)}

theorem insertPairs_cons (path method : String) (rest : List (String × String)) :
    (∃ methods', insertPairs methods ((path, method) :: rest) = .ok methods') ↔
      path.toList.head? = some '/' ∧ methods.lookup path = none ∧
        ∃ methods', insertPairs (methods.insert path method) rest = .ok methods' := by
  rw [insertPairs]
  by_cases slash : path.toList.head? = some '/'
  · rw [if_neg (not_not.mpr slash)]
    cases methods.lookup path <;> simp [slash]
  · rw [if_pos slash]
    simp [slash]

theorem insertPairs_ok_iff :
    (∃ methods', insertPairs methods pairs = .ok methods') ↔
      (∀ pair ∈ pairs, pair.1.toList.head? = some '/') ∧ (pairs.map Prod.fst).Nodup ∧
        ∀ pair ∈ pairs, methods.lookup pair.1 = none := by
  induction pairs generalizing methods with
  | nil => simp [insertPairs]
  | cons pair rest ih =>
      obtain ⟨path, method⟩ := pair
      have free : (∀ pair ∈ rest, (methods.insert path method).lookup pair.1 = none) ↔
          path ∉ rest.map Prod.fst ∧ ∀ pair ∈ rest, methods.lookup pair.1 = none := by
        simp only [Table.lookup_insert_ite, List.mem_map, not_exists, not_and]
        constructor
        · intro all
          refine ⟨fun pair member same => ?_, fun pair member => ?_⟩
          · have taken := all pair member
            rw [if_pos same] at taken
            cases taken
          · have none := all pair member
            split at none
            · cases none
            · exact none
        · rintro ⟨fresh, all⟩ pair member
          rw [if_neg (fresh pair member), all pair member]
      rw [insertPairs_cons, ih, free]
      simp only [List.forall_mem_cons, List.map_cons, List.nodup_cons]
      tauto

theorem lookup_insertPairs (inserted : insertPairs methods pairs = .ok methods') (path method : String) :
    methods'.lookup path = some method ↔ (path, method) ∈ pairs ∨ methods.lookup path = some method := by
  induction pairs generalizing methods with
  | nil =>
      cases inserted
      simp
  | cons pair rest ih =>
      obtain ⟨path', method'⟩ := pair
      rw [insertPairs] at inserted
      split at inserted
      · cases inserted
      cases free : methods.lookup path' with
      | some old =>
          rw [free] at inserted
          cases inserted
      | none =>
          rw [free] at inserted
          rw [ih inserted, Table.lookup_insert_ite, List.mem_cons, Prod.mk.injEq]
          by_cases same : path = path'
          · subst same
            simp [free, or_comm, eq_comm]
          · simp [same]

/-- A layer is made of paths that start with `/` and are distinct, and looks each of them up. -/
theorem new_ok_iff (pairs : List (String × String)) :
    (∃ methods, new pairs = .ok methods) ↔
      (∀ pair ∈ pairs, pair.1.toList.head? = some '/') ∧ (pairs.map Prod.fst).Nodup := by
  rw [new, insertPairs_ok_iff]
  simp

theorem lookup_new {pairs : List (String × String)} {methods : Table String String} (built : new pairs = .ok methods)
    (path method : String) : methods.lookup path = some method ↔ (path, method) ∈ pairs := by
  rw [lookup_insertPairs built]
  simp

end ProxyGetRequestLayer

/-! ## Serialized responses -/

inductive SerializedPayload where
  | result (raw : RawText)
  /-- Its text may be any text of the error object. -/
  | error (text : String) (e : ErrorObject)

/-- The member with the payload. -/
def SerializedPayload.member : SerializedPayload → String × RawText
  | .result raw => ("result", raw)
  | .error text e => ("error", { text, value := e.toJson })

/-- A JSON-RPC response, by the texts of its members. Their order is free. -/
structure SerializedResponse where
  before : List (String × RawText)
  payload : SerializedPayload
  after : List (String × RawText)
  /-- There is no second payload. -/
  others : ∀ member ∈ before ++ after, member.1 ≠ "result" ∧ member.1 ≠ "error"
  /-- The code of an error is an `i32`. -/
  inRange : ∀ text e, payload = .error text e → e.code.InRange

namespace SerializedResponse

variable (rp : SerializedResponse)

def members : List (String × RawText) := rp.before ++ rp.payload.member :: rp.after

def text : String :=
  "\x7b" ++ ",".intercalate (rp.members.map fun member => Json.quote member.1 ++ ":" ++ member.2.text) ++ "\x7d"

/-- The parser finds the members of the text. -/
def Reads (shallow : List UInt8 → Option Shallow) : Prop := shallow (utf8 rp.text) = some (.obj rp.members)

/-- What the server writes for a response. -/
def ofResponse (jsonrpc : Option TwoPointZero) (id : Id) (payload : ResponsePayload)
    (inRange : ∀ e, payload = .error e → e.code.InRange) : SerializedResponse :=
  { before := (jsonrpc.map fun _ => ("jsonrpc", RawText.ofJson (.str "2.0"))).toList ++ [("id", .ofJson id.toJson)]
    payload :=
      match payload with
      | .success result => .result (.ofJson result)
      | .error e => .error e.toJson.render e
    after := []
    others := by cases jsonrpc <;> simp
    inRange := by
      intro text e same
      cases payload with
      | success result => cases same
      | error e' =>
          cases same
          exact inRange e rfl }

theorem renderMembers_eq (members : List (String × Json)) :
    Json.renderMembers members =
      ",".intercalate (members.map fun member => Json.quote member.1 ++ ":" ++ member.2.render) := by
  induction members with
  | nil => rfl
  | cons member rest ih =>
      obtain ⟨name, value⟩ := member
      cases rest with
      | nil => rw [Json.renderMembers, Json.renderMember, List.map_singleton, String.intercalate_singleton]
      | cons next rest =>
          rw [List.map_cons, String.intercalate_cons_of_ne_nil (by simp), ← ih, Json.renderMembers, Json.renderMember]
          exact List.cons_ne_nil next rest

theorem text_ofResponse (jsonrpc : Option TwoPointZero) (id : Id) (payload : ResponsePayload)
    (inRange : ∀ e, payload = .error e → e.code.InRange) :
    (ofResponse jsonrpc id payload inRange).text = (Response.toJson { jsonrpc, payload, id }).render := by
  rw [Response.toJson, Json.render, renderMembers_eq, text]
  cases payload <;> cases jsonrpc <;> rfl

variable {rp}

theorem filter_other {name : String} {members : List (String × RawText)}
    (others : ∀ member ∈ members, member.1 ≠ name) : members.filter (·.1 = name) = [] := by
  rw [List.filter_eq_nil_iff]
  intro member listed
  simpa using others member listed

theorem filter_members {name : String} (known : name = "result" ∨ name = "error") :
    rp.members.filter (·.1 = name) = if rp.payload.member.1 = name then [rp.payload.member] else [] := by
  have foreign : ∀ member ∈ rp.before ++ rp.after, member.1 ≠ name := by
    intro member listed
    rcases known with rfl | rfl
    · exact (rp.others member listed).1
    · exact (rp.others member listed).2
  have before := filter_other fun member listed => foreign member (List.mem_append_left _ listed)
  have after := filter_other fun member listed => foreign member (List.mem_append_right _ listed)
  rw [members, List.filter_append, before, List.nil_append, List.filter_cons, after]
  split <;> rename_i same <;> simp at same <;> simp [same]

end SerializedResponse

/-! ## What the client of the proxy gets -/

namespace ProxyGetRequest

variable {shallow : List UInt8 → Option Shallow} {rp : SerializedResponse}

theorem successResponse_result (reads : rp.Reads shallow) {raw : RawText} (payload : rp.payload = .result raw) :
    successResponse shallow (utf8 rp.text) = some raw := by
  have found := @SerializedResponse.filter_members rp "result" (.inl rfl)
  rw [payload, SerializedPayload.member, if_pos rfl] at found
  rw [successResponse, reads, Option.bind_some, Shallow.field, found]

/-- An error is no success, whatever its data contains. -/
theorem successResponse_error (reads : rp.Reads shallow) {text : String} {e : ErrorObject}
    (payload : rp.payload = .error text e) : successResponse shallow (utf8 rp.text) = none := by
  have found := @SerializedResponse.filter_members rp "result" (.inl rfl)
  rw [payload, SerializedPayload.member, if_neg (show ¬ "error" = "result" by decide)] at found
  rw [successResponse, reads, Option.bind_some, Shallow.field, found]

theorem errorResponse_error (reads : rp.Reads shallow) {text : String} {e : ErrorObject}
    (payload : rp.payload = .error text e) : errorResponse shallow (utf8 rp.text) = some e.reread := by
  have found := @SerializedResponse.filter_members rp "error" (.inr rfl)
  rw [payload, SerializedPayload.member, if_pos rfl] at found
  rw [errorResponse, reads, Option.bind_some, Shallow.field, found]
  exact ErrorObject.fromJson_toJson (rp.inRange text e payload)

/-- A body that comes in data frames only is put together again. -/
theorem collectFrames_data (bytes : List UInt8) (pieces : List (List UInt8)) :
    collectFrames bytes (pieces.map .data) = .ok (bytes ++ pieces.flatten) := by
  induction pieces generalizing bytes with
  | nil => simp [collectFrames]
  | cons piece rest ih => rw [List.map_cons, collectFrames, ih, List.append_assoc, List.flatten_cons]

/-- The template that is filled with a payload. -/
def replyFor : SerializedPayload → HyperResponse
  | .result raw => okResponse raw.text
  | .error _ e => fromTemplate 500 e.reread.toJson.render "application/json; charset=utf-8"

/-- The reply for a response that has come. -/
theorem stripResponse_eq {res : HyperResponse} {pieces : List (List UInt8)} (body : res.body = pieces.map .data)
    (whole : pieces.flatten = utf8 rp.text) (reads : rp.Reads shallow) :
    stripResponse shallow res =
      .ok { replyFor rp.payload with extensions := (replyFor rp.payload).extensions.extend res.extensions } := by
  rw [stripResponse, body, collectFrames_data, List.nil_append, whole]
  cases payload : rp.payload with
  | result raw =>
      simp only [bind, Except.bind, successResponse_result reads payload]
      rfl
  | error text e =>
      simp only [bind, Except.bind, successResponse_error reads payload, internalProxyError,
        errorResponse_error reads payload]
      rfl

/-- Proxying is transparent. A layer is made exactly of distinct paths that start with `/`. A GET request for one of
    them becomes one call of its method, and the response to it is stripped; any other request passes with its
    response. -/
theorem proxy_transparent (shallow : List UInt8 → Option Shallow) (pairs : List (String × String)) :
    ((∃ methods, ProxyGetRequestLayer.new pairs = .ok methods) ↔
      (∀ pair ∈ pairs, pair.1.toList.head? = some '/') ∧ (pairs.map Prod.fst).Nodup) ∧
    ∀ (methods : Table String String), ProxyGetRequestLayer.new pairs = .ok methods →
      ∀ (σ : Type) (inner : HyperRequest → σ → Except String HyperResponse × σ) (req : HyperRequest) (world : σ),
        (∀ method, (req.uri.path, method) ∈ pairs → req.method = .get →
          ∃ forwarded : HyperRequest,
            forwarded.method = .post ∧
            forwarded.body = [.data (Request.toJson { id := .number 0, method, params := none }).bytes] ∧
            forwarded.headers.getAll "content-type" = [applicationJson] ∧
            (call shallow methods inner req world).2 = (inner forwarded world).2 ∧
            ∀ (rp : SerializedResponse) (res : HyperResponse) (pieces : List (List UInt8)),
              (inner forwarded world).1 = .ok res → res.body = pieces.map .data → pieces.flatten = utf8 rp.text →
                rp.Reads shallow →
                ∃ reply, (call shallow methods inner req world).1 = .ok reply ∧
                  (∀ raw, rp.payload = .result raw → reply.status = 200 ∧ reply.body = [.data (utf8 raw.text)]) ∧
                  ∀ text e, rp.payload = .error text e →
                    ∃ e' : ErrorObject, reply.status = 500 ∧ reply.body = [.data e'.toJson.bytes] ∧
                      e'.code.code = e.code.code ∧ e'.message = e.message ∧ e'.data = e.data.bind Json.nonNull) ∧
        ((req.method ≠ .get ∨ ∀ method, (req.uri.path, method) ∉ pairs) →
          call shallow methods inner req world = inner req world) := by
  refine ⟨ProxyGetRequestLayer.new_ok_iff pairs, fun methods built σ inner req world => ⟨?_, ?_⟩⟩
  · intro method listed get
    have found := (ProxyGetRequestLayer.lookup_new built req.uri.path method).mpr listed
    have called : call shallow methods inner req world =
        ((inner (callRequest method req) world).1.bind (stripResponse shallow),
          (inner (callRequest method req) world).2) := by
      simp only [call, found, get]
    refine ⟨callRequest method req, rfl, rfl, ?_, by rw [called], ?_⟩
    · simp [callRequest, MultiMap.getAll_insert]
    · intro rp res pieces answered body whole reads
      have stripped := stripResponse_eq body whole reads
      refine ⟨_, by rw [called, answered]; exact stripped, ?_, ?_⟩
      · intro raw payload
        rw [payload]
        exact ⟨rfl, rfl⟩
      · intro text e payload
        rw [payload]
        exact ⟨e.reread, rfl, rfl, ErrorCode.code_ofInt _, rfl, rfl⟩
  · intro passes
    rw [call]
    split
    · rename_i method found get
      have listed := (ProxyGetRequestLayer.lookup_new built req.uri.path method).mp found
      rcases passes with other | unlisted
      · exact absurd get other
      · exact absurd listed (unlisted method)
    · rfl

/-- A response whose result has a member `error`. -/
def healthResponse : SerializedResponse :=
  .ofResponse (some .mk) (.number 0) (.success (.obj [("error", .null)])) fun _ same => nomatch same

/-- It counts its calls, and answers in two frames. -/
def healthService (_ : HyperRequest) (calls : Nat) : Except String HyperResponse × Nat :=
  let bytes := utf8 healthResponse.text
  let body := [bytes.take 9, bytes.drop 9].map Frame.data
  (.ok { status := 200, headers := .empty, body, extensions := ∅ }, calls + 1)

/-- The parser at the text of the response. -/
def readsHealth (bytes : List UInt8) : Option Shallow :=
  if bytes = utf8 healthResponse.text then some (.obj healthResponse.members) else none

def getHealth : HyperRequest :=
  { method := .get
    uri := { scheme := none, authority := none, path := "/health", query := none }
    headers := .empty
    body := []
    extensions := ∅ }

theorem proxy_transparent_health :
    ∃ methods reply, ProxyGetRequestLayer.new [("/health", "system_health")] = .ok methods ∧
      call readsHealth methods healthService getHealth 0 = (.ok reply, 1) ∧ reply.status = 200 ∧
      reply.body = [.data (utf8 "\x7b\x22error\x22:null\x7d")] := by
  obtain ⟨made, proxied⟩ := proxy_transparent readsHealth [("/health", "system_health")]
  obtain ⟨methods, built⟩ := made.mpr ⟨by simp, by simp⟩
  obtain ⟨forwarded, -, -, -, world, replies⟩ :=
    (proxied methods built Nat healthService getHealth 0).left "system_health" (by simp [getHealth]) rfl
  obtain ⟨reply, called, ok, -⟩ := replies healthResponse _ _ rfl rfl (by simp) (if_pos rfl)
  obtain ⟨status, body⟩ := ok (.ofJson (.obj [("error", .null)])) rfl
  exact ⟨methods, reply, built, Prod.ext called world, status, body⟩

end ProxyGetRequest

end Server

end Jsonrpsee
