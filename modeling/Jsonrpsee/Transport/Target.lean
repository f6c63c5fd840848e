import Mathlib.Data.List.Basic
import Jsonrpsee.Lib.Outcome
import Jsonrpsee.Macros.Params

/-! # Targets of WebSocket connections

A target is taken from a URL, and redirects change it. Path and query are kept in one
text, and a relative redirect looks for the last slash of that text. The parser of URLs
belongs to another crate; what it gives is a `Url`.
-/

namespace Jsonrpsee

namespace Transport

open Macros

/-! ## URLs -/

/-- The parts of a `url::Url` that are read here. -/
structure Url where
  scheme : Text
  host : Option Text
  /-- None for the default port of the scheme. -/
  port : Option UInt16
  path : Text
  query : Option Text
  username : Text
  password : Option Text
  deriving DecidableEq

/-- What the parser of URLs takes care of: the path of a URL with such a scheme is absolute, and what ends it
    does not occur in it. -/
structure Url.Valid (url : Url) : Prop where
  absolute : url.scheme = "ws".toList ∨ url.scheme = "wss".toList → url.path.head? = some '/'
  path : ∀ c ∈ url.path, c ≠ '?' ∧ c ≠ '#'

inductive UrlParseError where
  | relativeUrlWithoutBase
  | other (text : Text)
  deriving DecidableEq

/-- The functions of the crates `url` and `base64`. -/
structure Crates where
  parse : Text → Except UrlParseError Url
  encode : Text → Text

/-- Error that can happen during the WebSocket handshake. -/
inductive WsHandshakeError where
  /-- Failed to load system certs. -/
  | certificateStore (e : String)
  /-- Invalid URL. -/
  | url (text : Text)
  /-- Error when opening the TCP socket. -/
  | io (e : String)
  /-- Error in the transport layer. -/
  | transport (e : String)
  /-- Server rejected the handshake. -/
  | rejected (statusCode : UInt16)
  /-- Server redirected to other location. -/
  | redirected (statusCode : UInt16) (location : Text)
  /-- Timeout while trying to connect. -/
  | timeout
  /-- Failed to resolve IP addresses for this hostname. -/
  | resolutionFailed (e : String)
  /-- Couldn't find any IP address for this hostname. -/
  | noAddressFound (host : Text)
  deriving DecidableEq

/-! ## Targets -/

/-- WebSocket stream mode. -/
inductive Mode where
  | plain
  | tls
  deriving Repr, DecidableEq

/-- Represents a verified remote WebSocket address. -/
structure Target where
  host : Text
  /-- The Host request header specifies the host and port number of the server to which the request is being sent. -/
  hostHeader : Text
  mode : Mode
  /-- The path and query parts from an URL. -/
  pathAndQuery : Text
  /-- Optional username and password from an URL. -/
  basicAuth : Option Text
  deriving DecidableEq

/-- `HeaderValue::from_str`: visible ASCII and tabs. -/
def headerValue (text : Text) : Option Text :=
  if text.all fun c => (32 ≤ c.toNat && c.toNat < 127) || c == '\t' then some text else none

def Mode.ofScheme (scheme : Text) : Except WsHandshakeError Mode :=
  if scheme = "ws".toList then .ok .plain
  else if scheme = "wss".toList then .ok .tls
  else .error (.url ("`".toList ++ scheme ++ "` not supported, expects 'ws' or 'wss'".toList))

def Url.pathAndQuery (url : Url) : Text := url.path ++ url.query.elim [] ('?' :: ·)

/-- The authorization for the password of a URL; `encode` is `base64`. -/
def Url.basicAuth (encode : Text → Text) (url : Url) : Except WsHandshakeError (Option Text) :=
  match url.password with
  | some pwd =>
      match headerValue ("Basic ".toList ++ encode (url.username ++ ':' :: pwd)) with
      | some val => .ok (some val)
      | none => .error (.url "Header value `authorization basic user:pwd` invalid".toList)
  | none => .ok none

def Url.hostHeader (url : Url) (host : Text) : Text :=
  match url.port with
  | some port => host ++ ':' :: (Nat.repr port.toNat).toList
  | none => host

namespace Target

def tryFrom (encode : Text → Text) (url : Url) : Except WsHandshakeError Target := do
  let mode ← Mode.ofScheme url.scheme
  match url.host with
  | none => .error (.url "Invalid host".toList)
  | some host => do
      let basicAuth ← url.basicAuth encode
      .ok { host, hostHeader := url.hostHeader host, mode, pathAndQuery := url.pathAndQuery, basicAuth }

/-- `str::rfind`: where a character occurs last. -/
def rfind (c : Char) : Text → Option Nat
  | [] => none
  | first :: rest =>
      match rfind c rest with
      | some offset => some (offset + 1)
      | none => if first = c then some 0 else none

/-- The redirection to a relative URI such as `/foo/bar.html` or `cake.html`. -/
def relativeRedirect (target : Target) (location : Text) : Except WsHandshakeError Target :=
  -- Replace the entire path and query if the location starts with `/` or `//`.
  if location.head? = some '/' then .ok { target with pathAndQuery := location }
  else
    match rfind '/' target.pathAndQuery with
    | some offset => .ok { target with pathAndQuery := target.pathAndQuery.take (offset + 1) ++ location }
    | none =>
        .error (.url ("path_and_query: ".toList ++ location ++
          "; this is a bug it must contain `/` please open issue".toList))

/-- Relative redirects, one after the other. -/
def relativeRedirects (target : Target) : List Text → Except WsHandshakeError Target
  | [] => .ok target
  | location :: rest => do (← target.relativeRedirect location).relativeRedirects rest

end Target

/-! ## The merge of RFC 3986 -/

/-- The path of a reference ends where its query or its fragment begins. -/
def isPathChar (c : Char) : Bool := c ≠ '?' && c ≠ '#'

def pathOf (reference : Text) : Text := reference.takeWhile isPathChar

/-- The query and the fragment. -/
def behindPath (reference : Text) : Text := reference.dropWhile isPathChar

/-- All but the last segment of a path. -/
def directory (path : Text) : Text := (path.reverse.dropWhile (· ≠ '/')).reverse

/-- The reference's path is appended to all but the last segment of the base's path. -/
def merge (base location : Text) : Text := directory (pathOf base) ++ location

/-! ## The last slash -/

namespace Target

theorem rfind_eq_none {c : Char} {text : Text} (absent : c ∉ text) : rfind c text = none := by
  induction text with
  | nil => rfl
  | cons first rest ih =>
      rw [rfind, ih fun member => absent (List.mem_cons_of_mem _ member)]
      exact if_neg fun same => absent (by rw [same]; exact List.mem_cons_self)

theorem rfind_last {c : Char} (before : Text) {after : Text} (absent : c ∉ after) :
    rfind c (before ++ c :: after) = some before.length := by
  induction before with
  | nil =>
      rw [List.nil_append, rfind, rfind_eq_none absent]
      exact if_pos rfl
  | cons first rest ih =>
      rw [List.cons_append, rfind, ih]
      rfl

end Target

theorem exists_last {c : Char} {text : Text} (member : c ∈ text) :
    ∃ before after, text = before ++ c :: after ∧ c ∉ after := by
  obtain ⟨before, after, split, absent⟩ := List.eq_append_cons_of_mem (List.mem_reverse.mpr member)
  refine ⟨after.reverse, before.reverse, ?_, fun again => absent (List.mem_reverse.mp again)⟩
  rw [← List.reverse_reverse text, split]
  simp

theorem directory_last (before : Text) {after : Text} (absent : '/' ∉ after) :
    directory (before ++ '/' :: after) = before ++ ['/'] := by
  have skipped : ∀ c ∈ after.reverse, decide (c ≠ '/') = true := by
    intro c member
    rw [decide_eq_true_iff]
    rintro rfl
    exact absent (List.mem_reverse.mp member)
  have reversed : (before ++ '/' :: after).reverse = after.reverse ++ '/' :: before.reverse := by simp
  rw [directory, reversed, List.dropWhile_append_of_pos skipped]
  simp

theorem length_directory_le (path : Text) : (directory path).length ≤ path.length := by
  rw [directory, List.length_reverse, ← @List.length_reverse _ path]
  exact (List.dropWhile_sublist _).length_le

theorem pathOf_append_behindPath (reference : Text) : pathOf reference ++ behindPath reference = reference :=
  List.takeWhile_append_dropWhile

theorem slash_mem_pathOf {reference : Text} (absolute : reference.head? = some '/') : '/' ∈ pathOf reference := by
  obtain ⟨rest, rfl⟩ := List.head?_eq_some_iff.mp absolute
  rw [pathOf, List.takeWhile_cons_of_pos rfl]
  exact List.mem_cons_self

/-! ## Redirects of a target -/

namespace Target

variable {target : Target} {location : Text}

/-- The text in front of the last slash is kept, wherever that slash is. -/
theorem relativeRedirect_last (relative : location.head? ≠ some '/') {before after : Text}
    (split : target.pathAndQuery = before ++ '/' :: after) (absent : '/' ∉ after) :
    target.relativeRedirect location = .ok { target with pathAndQuery := before ++ '/' :: location } := by
  have kept : (before ++ '/' :: after).take (before.length + 1) ++ location = before ++ '/' :: location := by
    rw [List.take_length_add_append, List.append_assoc]
    rfl
  rw [relativeRedirect, if_neg relative, split, rfind_last before absent]
  simp only [kept]

/-- The location is merged with the path as long as there is no slash behind the path. -/
theorem relativeRedirect_merge_iff (absolute : target.pathAndQuery.head? = some '/')
    (relative : location.head? ≠ some '/') :
    target.relativeRedirect location = .ok { target with pathAndQuery := merge target.pathAndQuery location } ↔
      '/' ∉ behindPath target.pathAndQuery := by
  have whole := pathOf_append_behindPath target.pathAndQuery
  obtain ⟨before, after, path, absent⟩ := exists_last (slash_mem_pathOf absolute)
  constructor
  · intro merged behind
    -- The slash behind the path is found, and more than the path is kept.
    obtain ⟨left, right, rest, absent'⟩ := exists_last behind
    have split : target.pathAndQuery = (pathOf target.pathAndQuery ++ left) ++ '/' :: right := by
      rw [List.append_assoc, ← rest, whole]
    rw [relativeRedirect_last relative split absent'] at merged
    have texts := congrArg List.length (congrArg pathAndQuery (Except.ok.inj merged))
    have short := length_directory_le (pathOf target.pathAndQuery)
    simp only [merge, List.length_append, List.length_cons] at texts
    omega
  · intro none
    have split : target.pathAndQuery = before ++ '/' :: (after ++ behindPath target.pathAndQuery) := by
      rw [← List.cons_append, ← List.append_assoc, ← path, whole]
    have absent' : '/' ∉ after ++ behindPath target.pathAndQuery := by
      rw [List.mem_append]
      exact not_or.mpr ⟨absent, none⟩
    rw [relativeRedirect_last relative split absent', merge, path, directory_last before absent, List.append_assoc,
      List.singleton_append]

/-- A redirect leaves an absolute path. -/
theorem relativeRedirect_absolute {next : Target} (absolute : target.pathAndQuery.head? = some '/')
    (redirected : target.relativeRedirect location = .ok next) : next.pathAndQuery.head? = some '/' := by
  unfold relativeRedirect at redirected
  split at redirected
  · rename_i slash
    cases redirected
    exact slash
  · split at redirected
    · cases redirected
      obtain ⟨rest, path⟩ := List.head?_eq_some_iff.mp absolute
      simp [path]
    · cases redirected

theorem relativeRedirects_absolute {locations : List Text} {next : Target}
    (absolute : target.pathAndQuery.head? = some '/') (redirected : target.relativeRedirects locations = .ok next) :
    next.pathAndQuery.head? = some '/' := by
  induction locations generalizing target with
  | nil =>
      cases redirected
      exact absolute
  | cons location rest ih =>
      obtain ⟨between, first, redirected⟩ := Except.bind_eq_ok_iff.mp redirected
      exact ih (relativeRedirect_absolute absolute first) redirected

/-! ## Targets that come from URLs -/

variable {encode : Text → Text} {url : Url}

theorem ofScheme_cases {scheme : Text} {mode : Mode} (known : Mode.ofScheme scheme = .ok mode) :
    scheme = "ws".toList ∧ mode = .plain ∨ scheme = "wss".toList ∧ mode = .tls := by
  unfold Mode.ofScheme at known
  split at known
  · cases known
    exact .inl ⟨‹_›, rfl⟩
  · split at known
    · cases known
      exact .inr ⟨‹_›, rfl⟩
    · cases known

theorem tryFrom_cases (made : tryFrom encode url = .ok target) :
    (url.scheme = "ws".toList ∧ target.mode = .plain ∨ url.scheme = "wss".toList ∧ target.mode = .tls) ∧
      url.host = some target.host ∧ url.hostHeader target.host = target.hostHeader ∧
      target.pathAndQuery = url.pathAndQuery ∧ url.basicAuth encode = .ok target.basicAuth := by
  obtain ⟨mode, scheme, made⟩ := Except.bind_eq_ok_iff.mp made
  cases host : url.host with
  | none =>
      rw [host] at made
      cases made
  | some h =>
      rw [host] at made
      obtain ⟨basicAuth, auth, same⟩ := Except.bind_eq_ok_iff.mp made
      cases same
      exact ⟨ofScheme_cases scheme, rfl, rfl, rfl, auth⟩

end Target

namespace Url

variable {url : Url}

/-- The path of the text is the path of the URL. -/
theorem pathOf_pathAndQuery (valid : url.Valid) : pathOf url.pathAndQuery = url.path := by
  have kept : ∀ c ∈ url.path, isPathChar c = true := by
    intro c member
    simpa [isPathChar] using valid.path c member
  rw [pathAndQuery, pathOf, List.takeWhile_append_of_pos kept]
  cases url.query with
  | none => simp
  | some query => simp [isPathChar]

theorem behindPath_pathAndQuery (valid : url.Valid) :
    behindPath url.pathAndQuery = url.query.elim [] ('?' :: ·) := by
  have whole := pathOf_append_behindPath url.pathAndQuery
  rw [pathOf_pathAndQuery valid] at whole
  exact List.append_cancel_left whole

theorem slash_behindPath_iff (valid : url.Valid) :
    '/' ∉ behindPath url.pathAndQuery ↔ ∀ query, url.query = some query → '/' ∉ query := by
  rw [behindPath_pathAndQuery valid]
  cases url.query with
  | none => simp
  | some query => simp

end Url

namespace Target

/-- A relative redirect is resolved against the path as long as the current query has no slash: for the target of a
    URL, and for what any redirects before have made of it. -/
theorem redirect_resolves_iff {encode : Text → Text} {url : Url} {target : Target} (valid : url.Valid)
    (made : tryFrom encode url = .ok target) :
    (∀ location : Text, location.head? ≠ some '/' →
      (target.relativeRedirect location = .ok { target with pathAndQuery := directory url.path ++ location } ↔
        ∀ query, url.query = some query → '/' ∉ query)) ∧
    ∀ (earlier : List Text) (current : Target) (location : Text),
      target.relativeRedirects earlier = .ok current → location.head? ≠ some '/' →
        (current.relativeRedirect location = .ok { current with pathAndQuery := merge current.pathAndQuery location } ↔
          '/' ∉ behindPath current.pathAndQuery) := by
  obtain ⟨scheme, -, -, pathAndQuery, -⟩ := tryFrom_cases made
  have absolute : target.pathAndQuery.head? = some '/' := by
    obtain ⟨rest, path⟩ := List.head?_eq_some_iff.mp (valid.absolute (scheme.imp And.left And.left))
    rw [pathAndQuery, Url.pathAndQuery, path]
    rfl
  constructor
  · intro location relative
    have merged := relativeRedirect_merge_iff absolute relative
    rwa [merge, pathAndQuery, Url.pathOf_pathAndQuery valid, Url.slash_behindPath_iff valid] at merged
  · intro earlier current location reached relative
    exact relativeRedirect_merge_iff (relativeRedirects_absolute absolute reached) relative

/-- `ws://h/a?x=1`. -/
def plainQuery : Url :=
  { scheme := "ws".toList
    host := some "h".toList
    port := none
    path := "/a".toList
    query := some "x=1".toList
    username := []
    password := none }

def plainTarget (pathAndQuery : Text) : Target :=
  { host := "h".toList
    hostHeader := "h".toList
    mode := .plain
    pathAndQuery
    basicAuth := none }

theorem plainQuery_redirect :
    (plainTarget "/a?x=1".toList).relativeRedirect "cake.html".toList = .ok (plainTarget "/cake.html".toList) := by
  have valid : plainQuery.Valid := { absolute := fun _ => by decide, path := by simp [plainQuery] }
  have made : tryFrom (fun text => text) plainQuery = .ok (plainTarget "/a?x=1".toList) := by decide +kernel
  refine ((redirect_resolves_iff valid made).1 "cake.html".toList (by simp)).mpr ?_
  intro query same
  cases same
  decide

/-- The slash of a query takes the place of the last slash of the path. -/
theorem query_slash_redirect :
    ∃ (url : Url) (target : Target), url.Valid ∧ tryFrom (fun text => text) url = .ok target ∧
      target.relativeRedirect "cake.html".toList = .ok { target with pathAndQuery := "/a?x=/cake.html".toList } ∧
      target.relativeRedirect "cake.html".toList ≠
        .ok { target with pathAndQuery := directory url.path ++ "cake.html".toList } := by
  refine ⟨{ plainQuery with query := some "x=/b".toList }, plainTarget "/a?x=/b".toList, ?_, ?_⟩
  · exact { absolute := fun _ => by decide, path := by simp [plainQuery] }
  · decide +kernel

end Target

end Transport

end Jsonrpsee
