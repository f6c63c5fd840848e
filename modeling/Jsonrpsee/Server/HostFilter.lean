import Jsonrpsee.Server.HttpHelpers

/-! # The host filter

A request names its authority in the `Host` header, in its URI, or in both. The filter
lets it through when the authority is on the whitelist. The parser of URIs and the router
that looks up a host come from other crates and are parameters.
-/

namespace Jsonrpsee

namespace Server

/-! ## Authorities -/

/-- Port pattern. -/
inductive Port where
  /-- No port specified. -/
  | default
  /-- Port specified as a wildcard pattern. -/
  | any
  /-- Fixed numeric port. -/
  | fixed (port : UInt16)
  deriving Repr, DecidableEq

/-- The authority of a URI. -/
structure Authority where
  host : String
  port : Port
  deriving Repr, DecidableEq

inductive AuthorityError where
  | invalidUri
  | invalidPort (e : String)
  | missingHost
  deriving Repr, DecidableEq

/-- The authority as the parser of URIs gives it. It is ASCII. -/
structure UriAuthority where
  asStr : String
  host : String
  deriving Repr, DecidableEq

structure Uri where
  scheme : Option String
  authority : Option UriAuthority
  deriving Repr, DecidableEq

/-- `str::split_once`: what follows the separator. -/
def splitOnce (separator : Char) : List Char → Option (List Char)
  | [] => none
  | c :: rest => if c = separator then some rest else splitOnce separator rest

def defaultPort (scheme : Option String) : Option UInt16 :=
  if scheme = some "http" ∨ scheme = some "ws" then some 80
  else if scheme = some "https" ∨ scheme = some "wss" then some 443
  else if scheme = some "ftp" then some 21
  else none

/-- The part of an HTTP request that the filter reads. -/
structure HttpHead where
  headers : HeaderMap
  uri : Uri

namespace Authority

variable (parseUri : String → Option Uri)

def innerFromStr (value : String) : Except AuthorityError Authority :=
  match parseUri value with
  | none => .error .invalidUri
  | some uri =>
      match uri.authority with
      | none => .error .missingHost
      | some authority =>
          let host := authority.host
          -- After the host segment, the authority may contain a port.
          match splitOnce ':' (authority.asStr.toList.drop host.length) with
          | none => .ok { host, port := .default }
          | some maybePort =>
              if maybePort = ['*'] then .ok { host, port := .any }
              else
                match Decimal.parse (2 ^ 16) maybePort with
                | none => .error (.invalidPort (Decimal.parseError (2 ^ 16) maybePort).text)
                | some port =>
                    -- Omit default port to allow both requests with and without the default port.
                    let port := UInt16.ofNat port
                    .ok { host, port := if defaultPort uri.scheme = some port then .default else .fixed port }

/-- Attempts to parse the authority from a HTTP request. -/
def fromHttpRequest (request : HttpHead) : Option Authority :=
  let hostHeader := (readHeaderValue request.headers "host").map (innerFromStr parseUri)
  let uri := request.uri.authority.map fun authority => innerFromStr parseUri authority.asStr
  match hostHeader, uri with
  | some (.ok a1), some (.ok a2) => if a1 = a2 then some a1 else none
  | some (.ok a), _ => some a
  | _, some (.ok a) => some a
  | _, _ => none

end Authority

/-! ## The whitelist -/

/-- Whether a port of the whitelist admits the port of a request. -/
def Port.admits : Port → Port → Bool
  | .any, _ => true
  | .default, .default => true
  | .fixed p1, .fixed p2 => p1 = p2
  | _, _ => false

/-- How patterns are matched, and which of the patterns that match a path is the most
    specific one. -/
structure RouteRecognizer where
  isMatch : String → String → Bool
  mostSpecific : List String → String → Option String

/-- One of the patterns that match is found when there is one. -/
structure RouteRecognizer.Lawful (recognizer : RouteRecognizer) : Prop where
  found : ∀ {patterns path pattern}, recognizer.mostSpecific patterns path = some pattern →
    pattern ∈ patterns ∧ recognizer.isMatch pattern path = true
  missed : ∀ {patterns path}, recognizer.mostSpecific patterns path = none →
    ∀ pattern ∈ patterns, recognizer.isMatch pattern path = false

/-- The routes in the order in which they were added. -/
structure Router where
  routes : List (String × List Port)

namespace Router

def new : Router := { routes := [] }

def add (router : Router) (route : String) (handler : List Port) : Router :=
  { routes := router.routes ++ [(route, handler)] }

def recognize (recognizer : RouteRecognizer) (router : Router) (path : String) : Option (List Port) :=
  (recognizer.mostSpecific (router.routes.map Prod.fst) path).bind fun route => router.routes.lookup route

end Router

/-- Represent the URL patterns that is whitelisted. -/
structure WhitelistedHosts where
  router : Router

namespace WhitelistedHosts

/-- Ensure that no ports are "overwritten" since it's possible add the same hostname
    with several port numbers. -/
def addAuthority (hosts : Std.TreeMap String (List Port)) (auth : Authority) : Std.TreeMap String (List Port) :=
  hosts.alter auth.host fun ports => some (ports.elim [auth.port] (· ++ [auth.port]))

def uniqHosts (list : List Authority) : Std.TreeMap String (List Port) := list.foldl addAuthority ∅

def fromList (list : List Authority) : WhitelistedHosts :=
  { router := (uniqHosts list).toList.foldl (fun router entry => router.add entry.1 entry.2) .new }

def recognize (recognizer : RouteRecognizer) (hosts : WhitelistedHosts) (other : Authority) : Bool :=
  match hosts.router.recognize recognizer other.host with
  | some ports => ports.any fun port => port.admits other.port
  | none => false

end WhitelistedHosts

/-! ## The middleware -/

/-- Enables host filtering and allow only the specified hosts. -/
def HostFilterLayer.new (parseUri : String → Option Uri) (allowOnly : List String) :
    Except AuthorityError (Option WhitelistedHosts) :=
  (allowOnly.mapM (Authority.innerFromStr parseUri)).map fun list => some (.fromList list)

/-- What becomes of a request: the inner service gets it, or the filter answers. -/
inductive Filtered (ρ : Type) where
  | inner (response : ρ)
  | answered (response : HttpResponse)

def HostFilter.call {ρ : Type} (parseUri : String → Option Uri) (recognizer : RouteRecognizer)
    (filter : Option WhitelistedHosts) (inner : HttpHead → ρ) (request : HttpHead) : Filtered ρ :=
  match Authority.fromHttpRequest parseUri request with
  | none => .answered { status := 400, body := (errorText (.ofCode .parseError)).text }
  | some authority =>
      if filter.all fun hosts => hosts.recognize recognizer authority then .inner (inner request)
      else .answered { status := 403, body := "Provided Host header is not whitelisted.\n" }

/-! ## The two sources -/

/-- What a request says about its authority at one place. -/
inductive Source where
  | absent
  | malformed
  | authority (a : Authority)
  deriving DecidableEq

def Source.ofParsed : Except AuthorityError Authority → Source
  | .ok a => .authority a
  | .error _ => .malformed

section Sources

variable (parseUri : String → Option Uri) (request : HttpHead)

/-- The `Host` header. One that is repeated or not a text is malformed. -/
def hostSource : Source :=
  if request.headers.getAll "host" = [] then .absent
  else
    match readHeaderValue request.headers "host" with
    | none => .malformed
    | some value => .ofParsed (Authority.innerFromStr parseUri value)

/-- The authority of the URI. -/
def uriSource : Source :=
  match request.uri.authority with
  | none => .absent
  | some authority => .ofParsed (Authority.innerFromStr parseUri authority.asStr)

/-- A source is present, the sources that are present agree on an authority, and the
    whitelist has it. -/
def Admitted (recognizer : RouteRecognizer) (hosts : WhitelistedHosts) : Prop :=
  ∃ a, (hostSource parseUri request = .authority a ∨ uriSource parseUri request = .authority a) ∧
    (hostSource parseUri request = .absent ∨ hostSource parseUri request = .authority a) ∧
    (uriSource parseUri request = .absent ∨ uriSource parseUri request = .authority a) ∧
    hosts.recognize recognizer a = true

variable {parseUri request}

theorem ofParsed_eq_authority_iff {parsed : Except AuthorityError Authority} {a : Authority} :
    Source.ofParsed parsed = .authority a ↔ parsed = .ok a := by
  cases parsed <;> simp [Source.ofParsed]

theorem hostSource_eq_authority_iff {a : Authority} : hostSource parseUri request = .authority a ↔
    (readHeaderValue request.headers "host").map (Authority.innerFromStr parseUri) = some (.ok a) := by
  unfold hostSource
  by_cases missing : request.headers.getAll "host" = []
  · simp [missing, readHeaderValue]
  · rw [if_neg missing]
    cases readHeaderValue request.headers "host" with
    | none => simp
    | some value => simp [ofParsed_eq_authority_iff]

theorem uriSource_eq_authority_iff {a : Authority} : uriSource parseUri request = .authority a ↔
    (request.uri.authority.map fun authority => Authority.innerFromStr parseUri authority.asStr) = some (.ok a) := by
  unfold uriSource
  cases request.uri.authority with
  | none => simp
  | some authority => simp [ofParsed_eq_authority_iff]

/-- The authority of a request is one that a source names and no source contradicts. A
    malformed source does not contradict. -/
theorem fromHttpRequest_eq_some_iff {a : Authority} :
    Authority.fromHttpRequest parseUri request = some a ↔
      (hostSource parseUri request = .authority a ∨ uriSource parseUri request = .authority a) ∧
        (∀ b, hostSource parseUri request = .authority b → b = a) ∧
        ∀ b, uriSource parseUri request = .authority b → b = a := by
  simp only [hostSource_eq_authority_iff, uriSource_eq_authority_iff]
  unfold Authority.fromHttpRequest
  generalize (readHeaderValue request.headers "host").map (Authority.innerFromStr parseUri) = hostHeader
  generalize (request.uri.authority.map fun authority => Authority.innerFromStr parseUri authority.asStr) = uri
  rcases hostHeader with _ | e | a1 <;> rcases uri with _ | e' | a2 <;> simp
  · constructor
    · rintro ⟨rfl, rfl⟩
      simp
    · rintro ⟨_, rfl, rfl⟩
      simp

section Decision

variable {ρ : Type} (recognizer : RouteRecognizer) (inner : HttpHead → ρ)

/-- A request is forwarded when it has an authority that the whitelist, if there is one, has. -/
theorem call_forwards_iff (filter : Option WhitelistedHosts) :
    HostFilter.call parseUri recognizer filter inner request = .inner (inner request) ↔
      ∃ a, Authority.fromHttpRequest parseUri request = some a ∧
        ∀ hosts ∈ filter, hosts.recognize recognizer a = true := by
  unfold HostFilter.call
  cases Authority.fromHttpRequest parseUri request with
  | none => simp
  | some a => cases filter <;> simp

end Decision

variable (parseUri request)

/-- One source is malformed, and the whitelist has what the other one says. -/
def HalfMalformed (recognizer : RouteRecognizer) (hosts : WhitelistedHosts) : Prop :=
  ∃ a, hosts.recognize recognizer a = true ∧
    (hostSource parseUri request = .malformed ∧ uriSource parseUri request = .authority a ∨
      hostSource parseUri request = .authority a ∧ uriSource parseUri request = .malformed)

/-- The request names an authority, and not two. -/
def NamesOne : Prop :=
  ∃ a, (hostSource parseUri request = .authority a ∨ uriSource parseUri request = .authority a) ∧
    (∀ b, hostSource parseUri request = .authority b → b = a) ∧ ∀ b, uriSource parseUri request = .authority b → b = a

theorem call_enabled {ρ : Type} (recognizer : RouteRecognizer) (inner : HttpHead → ρ) (hosts : WhitelistedHosts) :
    (HostFilter.call parseUri recognizer (some hosts) inner request = .inner (inner request) ↔
      Admitted parseUri request recognizer hosts) ↔ ¬ HalfMalformed parseUri request recognizer hosts := by
  simp only [call_forwards_iff, fromHttpRequest_eq_some_iff, Admitted, HalfMalformed, Option.mem_some_iff, forall_eq']
  cases hostSource parseUri request <;> cases uriSource parseUri request <;> simp
  rintro rfl recognized
  exact ⟨rfl, recognized⟩

/-- With a whitelist the filter decides as it should exactly when no malformed source is
    passed over for the other one. Without one it forwards exactly the requests that name
    one authority. -/
theorem hostFilter_forwards {ρ : Type} (recognizer : RouteRecognizer) (inner : HttpHead → ρ) :
    (∀ hosts, (HostFilter.call parseUri recognizer (some hosts) inner request = .inner (inner request) ↔
        Admitted parseUri request recognizer hosts) ↔ ¬ HalfMalformed parseUri request recognizer hosts) ∧
    (HostFilter.call parseUri recognizer none inner request = .inner (inner request) ↔ NamesOne parseUri request) := by
  refine ⟨call_enabled parseUri request recognizer inner, ?_⟩
  simp only [call_forwards_iff, fromHttpRequest_eq_some_iff, NamesOne, Option.not_mem_none, false_implies,
    implies_true, and_true]

end Sources

/-! ## The lookup -/

namespace WhitelistedHosts

/-- The patterns of the whitelist, in the order of the router. -/
def patterns (list : List Authority) : List String := (uniqHosts list).keys

theorem routes_foldl (entries : List (String × List Port)) (router : Router) :
    (entries.foldl (fun router entry => router.add entry.1 entry.2) router).routes = router.routes ++ entries := by
  induction entries generalizing router with
  | nil => simp
  | cons entry rest ih =>
      rw [List.foldl_cons, ih]
      simp [Router.add]

theorem routes_fromList (list : List Authority) : (fromList list).router.routes = (uniqHosts list).toList := by
  rw [fromList, routes_foldl]
  rfl

theorem getElem?_addAuthority (hosts : Std.TreeMap String (List Port)) (auth : Authority) (host : String) :
    (addAuthority hosts auth)[host]? =
      if auth.host = host then some (hosts[auth.host]?.elim [auth.port] (· ++ [auth.port])) else hosts[host]? := by
  rw [addAuthority, Std.TreeMap.getElem?_alter]
  simp only [Std.LawfulEqCmp.compare_eq_iff_eq]

/-- The ports that the list gives for a host, in its order. -/
def portsOf (host : String) (list : List Authority) : List Port := (list.filter (·.host = host)).map Authority.port

theorem getElem?_foldl (list : List Authority) (hosts : Std.TreeMap String (List Port)) (host : String) :
    (list.foldl addAuthority hosts)[host]? =
      if portsOf host list = [] then hosts[host]? else some (hosts[host]?.getD [] ++ portsOf host list) := by
  induction list generalizing hosts with
  | nil => rfl
  | cons auth rest ih =>
      rw [List.foldl_cons, ih, getElem?_addAuthority]
      by_cases same : auth.host = host
      · have ports : portsOf host (auth :: rest) = auth.port :: portsOf host rest := by simp [portsOf, same]
        rw [ports, if_pos same, same]
        by_cases last : portsOf host rest = [] <;> cases hosts[host]? <;> simp [last]
      · have ports : portsOf host (auth :: rest) = portsOf host rest := by simp [portsOf, same]
        rw [ports, if_neg same]

theorem getElem?_uniqHosts (list : List Authority) (host : String) :
    (uniqHosts list)[host]? = if portsOf host list = [] then none else some (portsOf host list) := by
  rw [uniqHosts, getElem?_foldl]
  simp

theorem portsOf_eq_nil_iff {host : String} {list : List Authority} :
    portsOf host list = [] ↔ ∀ auth ∈ list, auth.host ≠ host := by
  simp [portsOf]

theorem mem_patterns_iff {list : List Authority} {host : String} :
    host ∈ patterns list ↔ ∃ auth ∈ list, auth.host = host := by
  rw [patterns, Std.TreeMap.mem_keys, Std.TreeMap.mem_iff_isSome_getElem?, getElem?_uniqHosts]
  by_cases none : portsOf host list = []
  · rw [if_pos none]
    rw [portsOf_eq_nil_iff] at none
    simpa using none
  · rw [if_neg none]
    rw [portsOf_eq_nil_iff] at none
    simpa using none

theorem lookup_eq_find? (entries : List (String × List Port)) (host : String) :
    entries.lookup host = (entries.find? (compare ·.1 host == .eq)).map Prod.snd := by
  induction entries with
  | nil => rfl
  | cons entry rest ih =>
      obtain ⟨key, ports⟩ := entry
      rw [List.lookup_cons, List.find?_cons]
      by_cases same : key = host
      · simp [same]
      · have other : (host == key) = false := beq_false_of_ne (Ne.symm same)
        have different : (compare key host == .eq) = false := by simp [same]
        rw [other, different, ih]

/-- A key is looked up in the list of the entries as in the map. -/
theorem lookup_toList (hosts : Std.TreeMap String (List Port)) (host : String) :
    hosts.toList.lookup host = hosts[host]? := by
  rw [lookup_eq_find?]
  cases found : hosts.toList.find? (compare ·.1 host == .eq) with
  | none =>
      rw [Std.TreeMap.find?_toList_eq_none_iff_not_mem, Std.TreeMap.mem_iff_isSome_getElem?] at found
      rw [Option.map_none, Option.not_isSome_iff_eq_none.mp found]
  | some entry => simp [(Std.TreeMap.find?_toList_eq_some_iff_getKey?_eq_some_and_getElem?_eq_some.mp found).2]

/-- The whitelist has an authority when an entry with the most specific pattern does. -/
theorem recognize_iff (recognizer : RouteRecognizer) (list : List Authority) (a : Authority) :
    (fromList list).recognize recognizer a = true ↔
      ∃ entry ∈ list, recognizer.mostSpecific (patterns list) a.host = some entry.host ∧
        entry.port.admits a.port = true := by
  unfold recognize Router.recognize
  rw [routes_fromList, Std.TreeMap.map_fst_toList_eq_keys]
  change _ ↔ ∃ entry ∈ list, recognizer.mostSpecific (uniqHosts list).keys a.host = some entry.host ∧ _
  cases recognizer.mostSpecific (uniqHosts list).keys a.host with
  | none => simp
  | some host =>
      rw [Option.bind_some, lookup_toList, getElem?_uniqHosts]
      by_cases none : portsOf host list = []
      · rw [if_pos none]
        rw [portsOf_eq_nil_iff] at none
        simp only [Bool.false_eq_true, Option.some.injEq, false_iff, not_exists, not_and]
        intro entry member same
        exact absurd same.symm (none entry member)
      · rw [if_neg none]
        simp only [portsOf, List.any_map, List.any_eq_true, List.mem_filter, decide_eq_true_eq, Option.some.injEq,
          Function.comp_apply, and_assoc, @eq_comm _ host]

/-! ## The union -/

/-- An entry of the list has a pattern that matches the host and a port that admits the port. -/
def Listed (recognizer : RouteRecognizer) (list : List Authority) (a : Authority) : Prop :=
  ∃ entry ∈ list, recognizer.isMatch entry.host a.host = true ∧ entry.port.admits a.port = true

theorem listed_of_recognize {recognizer : RouteRecognizer} (lawful : recognizer.Lawful) {list : List Authority}
    {a : Authority} (h : (fromList list).recognize recognizer a = true) : Listed recognizer list a := by
  obtain ⟨entry, member, chosen, admits⟩ := (recognize_iff recognizer list a).mp h
  exact ⟨entry, member, (lawful.found chosen).2, admits⟩

/-- The patterns do not depend on the order of the list. -/
theorem patterns_perm {list list' : List Authority} (same : list.Perm list') : patterns list = patterns list' := by
  have members : ∀ host, host ∈ patterns list ↔ host ∈ patterns list' := by
    intro host
    rw [mem_patterns_iff, mem_patterns_iff]
    simp only [same.mem_iff]
  have perm : (patterns list).Perm (patterns list') :=
    (List.perm_ext_iff_of_nodup Std.TreeMap.nodup_keys Std.TreeMap.nodup_keys).mpr members
  refine perm.eq_of_pairwise ?_ Std.TreeMap.ordered_keys Std.TreeMap.ordered_keys
  intro host host' _ _ lt gt
  exact absurd gt (by simp [Std.OrientedCmp.gt_of_lt lt])

/-- An entry that has the host and the port is shadowed by a more specific pattern with
    other ports only. -/
def Shadowed (recognizer : RouteRecognizer) (list : List Authority) (a : Authority) : Prop :=
  ∃ pattern, recognizer.mostSpecific (patterns list) a.host = some pattern ∧
    (∃ entry ∈ list, entry.host ≠ pattern ∧ recognizer.isMatch entry.host a.host = true ∧
      entry.port.admits a.port = true) ∧
    ∀ entry ∈ list, entry.host = pattern → entry.port.admits a.port = false

theorem recognize_eq_listed_iff {recognizer : RouteRecognizer} (lawful : recognizer.Lawful) (list : List Authority)
    (a : Authority) :
    ((fromList list).recognize recognizer a = true ↔ Listed recognizer list a) ↔ ¬ Shadowed recognizer list a := by
  constructor
  · rintro union ⟨pattern, chosen, ⟨entry, member, _, isMatch, admits⟩, refused⟩
    have recognized := union.mpr ⟨entry, member, isMatch, admits⟩
    obtain ⟨other, member', chosen', admits'⟩ := (recognize_iff recognizer list a).mp recognized
    rw [chosen, Option.some.injEq] at chosen'
    rw [refused other member' chosen'.symm] at admits'
    cases admits'
  · intro clear
    refine ⟨listed_of_recognize lawful, ?_⟩
    rintro ⟨entry, member, isMatch, admits⟩
    cases chosen : recognizer.mostSpecific (patterns list) a.host with
    | none =>
        -- The pattern of the entry matches, so the router finds one.
        have missed := lawful.missed chosen entry.host (mem_patterns_iff.mpr ⟨entry, member, rfl⟩)
        rw [isMatch] at missed
        cases missed
    | some pattern =>
        rw [recognize_iff, chosen]
        by_contra refused
        have refused' : ∀ other ∈ list, other.host = pattern → other.port.admits a.port = false := by
          intro other member' same
          by_contra admits'
          exact refused ⟨other, member', by rw [same], by simpa using admits'⟩
        have different : entry.host ≠ pattern := by
          intro same
          rw [refused' entry member same] at admits
          cases admits
        exact clear ⟨pattern, chosen, ⟨entry, member, different, isMatch, admits⟩, refused'⟩

/-- The whitelist is the union of its entries exactly where none is shadowed. The order of
    the list does not matter, and a further entry takes an authority away only by shadowing. -/
theorem recognize_union {recognizer : RouteRecognizer} (lawful : recognizer.Lawful) (list : List Authority)
    (a : Authority) :
    (((fromList list).recognize recognizer a = true ↔ Listed recognizer list a) ↔ ¬ Shadowed recognizer list a) ∧
    (∀ list', list.Perm list' → (fromList list').recognize recognizer a = (fromList list).recognize recognizer a) ∧
    ∀ entry, (fromList list).recognize recognizer a = true → ¬ Shadowed recognizer (entry :: list) a →
      (fromList (entry :: list)).recognize recognizer a = true := by
  refine ⟨recognize_eq_listed_iff lawful list a, ?_, ?_⟩
  · intro list' same
    rw [Bool.eq_iff_iff, recognize_iff, recognize_iff, patterns_perm same]
    simp only [same.mem_iff]
  · intro entry before clear
    obtain ⟨other, member, isMatch, admits⟩ := listed_of_recognize lawful before
    exact ((recognize_eq_listed_iff lawful _ a).mpr clear).mpr ⟨other, List.mem_cons_of_mem _ member, isMatch, admits⟩

end WhitelistedHosts

/-! ## Literal hosts and wildcards -/

/-- The router on patterns without segments: a literal, or a wildcard for any path. The
    literal is the more specific one. -/
def hostRouter : RouteRecognizer :=
  { isMatch := fun pattern path => pattern = path || (pattern.toList.head? = some '*' && path ≠ "")
    mostSpecific := fun patterns path =>
      (patterns.find? (· = path)).or
        (patterns.filter fun pattern => pattern.toList.head? = some '*' && path ≠ "").getLast? }

theorem hostRouter_lawful : hostRouter.Lawful := by
  constructor
  · intro patterns path pattern chosen
    rcases Option.or_eq_some_iff.mp chosen with literal | ⟨_, wildcard⟩
    · have same : pattern = path := by simpa using List.find?_some literal
      exact ⟨List.mem_of_find?_eq_some literal, by simp [hostRouter, same]⟩
    · have kept := List.mem_filter.mp (List.mem_of_getLast? wildcard)
      refine ⟨kept.1, ?_⟩
      rw [hostRouter, Bool.or_eq_true]
      exact .inr kept.2
  · intro patterns path missed pattern member
    obtain ⟨literal, wildcard⟩ := Option.or_eq_none_iff.mp missed
    have different := List.find?_eq_none.mp literal pattern member
    rw [List.getLast?_eq_none_iff, List.filter_eq_nil_iff] at wildcard
    rw [hostRouter, Bool.or_eq_false_iff]
    exact ⟨by simpa using different, by simpa using wildcard pattern member⟩

/-- The parser on authorities without user information. -/
def parseAuthority (text : String) : Option Uri :=
  some { scheme := none, authority := some { asStr := text, host := String.ofList (text.toList.takeWhile (· ≠ ':')) } }

def hostHeader (host : String) : HeaderMap := [("host", host.toList.map fun c => UInt8.ofNat c.toNat)]

/-- A header with an invalid port is passed over for the URI. -/
theorem hostFilter_invalid_port :
    ¬ ∀ (parseUri : String → Option Uri) (recognizer : RouteRecognizer) (hosts : WhitelistedHosts)
        (request : HttpHead),
      HostFilter.call parseUri recognizer (some hosts) HttpHead.headers request = .inner request.headers ↔
        Admitted parseUri request recognizer hosts := by
  intro decides
  let request : HttpHead :=
    { headers := hostHeader "example.com:99999"
      uri := { scheme := none, authority := some { asStr := "example.com", host := "example.com" } } }
  let hosts := WhitelistedHosts.fromList [{ host := "example.com", port := .default }]
  refine (call_enabled parseAuthority request hostRouter HttpHead.headers hosts).mp
    (decides parseAuthority hostRouter hosts request) ?_
  refine ⟨{ host := "example.com", port := .default }, ?_, .inl ⟨?_, ?_⟩⟩
  all_goals decide +kernel

/-- A wildcard with the right port does not help where a literal has another one. -/
theorem recognize_shadowed :
    ¬ ∀ (recognizer : RouteRecognizer), recognizer.Lawful → ∀ (list : List Authority) (a : Authority),
      (WhitelistedHosts.fromList list).recognize recognizer a = true ↔ WhitelistedHosts.Listed recognizer list a := by
  intro union
  let wildcard : Authority := { host := "*.example.com", port := .fixed 8080 }
  let literal : Authority := { host := "a.example.com", port := .fixed 9090 }
  let asked : Authority := { host := "a.example.com", port := .fixed 8080 }
  have recognized := (union hostRouter hostRouter_lawful [wildcard, literal] asked).mpr
    ⟨wildcard, by simp, by decide +kernel, by decide⟩
  have refused : (WhitelistedHosts.fromList [wildcard, literal]).recognize hostRouter asked = false := by
    decide +kernel
  rw [refused] at recognized
  cases recognized

/-- Two entries of one host. -/
theorem recognize_union_ports :
    (WhitelistedHosts.fromList
      [{ host := "parity.io", port := .fixed 443 }, { host := "parity.io", port := .fixed 9944 }]).recognize hostRouter
        { host := "parity.io", port := .fixed 9944 } = true := by
  refine ((WhitelistedHosts.recognize_union hostRouter_lawful _ _).1.mpr ?_).mpr ?_
  · rintro ⟨pattern, chosen, ⟨entry, member, different, _⟩, _⟩
    have literal : hostRouter.mostSpecific (WhitelistedHosts.patterns
        [{ host := "parity.io", port := .fixed 443 }, { host := "parity.io", port := .fixed 9944 }]) "parity.io" =
          some "parity.io" := by decide +kernel
    obtain rfl := Option.some.inj (literal.symm.trans chosen)
    simp only [List.mem_cons, List.not_mem_nil, or_false] at member
    rcases member with rfl | rfl <;> exact different rfl
  · exact ⟨{ host := "parity.io", port := .fixed 9944 }, by simp, by decide +kernel, by decide⟩

end Server

end Jsonrpsee
