import Jsonrpsee.Server.Http

/-! # The headers and the body of an HTTP request

A body comes in frames, and the network decides where it is cut. What a body is read as
depends on more than its bytes: the first data frame alone decides whether it is a
message. The size of a body is checked twice, from the header and while it is read, and
the two checks do not report the same error.
-/

namespace Jsonrpsee

namespace Server

/-! ## Headers -/

/-- The bytes of a header. They need not be a text. -/
abbrev HeaderValue := List UInt8

/-- The headers in the order in which they came. The names are in lower case. -/
abbrev HeaderMap := List (String × HeaderValue)

namespace HeaderValue

def isVisibleAscii (byte : UInt8) : Bool := (32 ≤ byte && byte < 127) || byte == 9

def toStr (value : HeaderValue) : Option String :=
  if value.all isVisibleAscii then some (String.ofList (value.map fun byte => Char.ofNat byte.toNat)) else none

end HeaderValue

def HeaderMap.getAll (headers : HeaderMap) (name : String) : List HeaderValue :=
  (headers.filter (·.1 = name)).map Prod.snd

/-- Returns a string value when there is exactly one value for the given header. -/
def readHeaderValue (headers : HeaderMap) (name : String) : Option String :=
  match headers.getAll name with
  | [value] => value.toStr
  | _ => none

/-- Read the `Content-Length` HTTP Header. Must fit into a `u32`; returns `None`
    otherwise. -/
def readHeaderContentLength (headers : HeaderMap) : Option Nat :=
  (readHeaderValue headers "content-length").bind fun length => Decimal.parse (2 ^ 32) length.toList

/-- What the server uses of a request. -/
def HttpRequest.fromParts (isPost : Bool) (headers : HeaderMap) (body : List Frame) (extensions : Extensions) :
    HttpRequest :=
  { isPost
    contentType := (headers.getAll "content-type").head?.bind HeaderValue.toStr
    contentLength := readHeaderContentLength headers
    body
    extensions }

/-! ## Frames -/

def Frame.data? : Frame → Option (List UInt8)
  | .data bytes => some bytes
  | .trailers | .error => none

/-- The stream of the body has no error of its own. -/
def Frame.Readable (body : List Frame) : Prop := ∀ frame ∈ body, frame ≠ .error

def Frame.dataFrames (body : List Frame) : List (List UInt8) := body.filterMap Frame.data?

/-- The bytes of a body, however they are cut. -/
def Frame.payload (body : List Frame) : List UInt8 := (dataFrames body).flatten

/-- The single or batch request that the first bytes announce, and where it starts. -/
def messageStart (data : List UInt8) : Option (Bool × Nat) :=
  match firstNonWhitespace data with
  | some (123, idx) => some (true, idx)
  | some (91, idx) => some (false, idx)
  | _ => none

/-- The first data frame, if there is one, is within the limit and announces nothing. -/
def TurnedAway (maxBodySize : Nat) (body : List Frame) : Prop :=
  ∀ data ∈ (Frame.dataFrames body).head?, data.length ≤ maxBodySize ∧ messageStart data = none

instance (maxBodySize : Nat) (body : List Frame) : Decidable (TurnedAway maxBodySize body) :=
  inferInstanceAs (Decidable (∀ data ∈ (Frame.dataFrames body).head?, _))

theorem firstNonWhitespace_append {data : List UInt8} {found : UInt8 × Nat} (rest : List UInt8)
    (h : firstNonWhitespace data = some found) : firstNonWhitespace (data ++ rest) = some found := by
  rw [firstNonWhitespace] at h
  rw [firstNonWhitespace, List.take_append, List.zipIdx_append, List.find?_append, h, Option.some_or]

theorem firstNonWhitespace_lt {data : List UInt8} {byte : UInt8} {idx : Nat}
    (h : firstNonWhitespace data = some (byte, idx)) : idx < data.length := by
  have member := List.mem_of_find?_eq_some h
  have inside := (List.mem_zipIdx member).2.1
  rw [List.length_take] at inside
  omega

theorem messageStart_found {data : List UInt8} {single : Bool} {idx : Nat}
    (h : messageStart data = some (single, idx)) : ∃ byte, firstNonWhitespace data = some (byte, idx) := by
  unfold messageStart at h
  split at h
  · rename_i found
    cases h
    exact ⟨_, found⟩
  · rename_i found
    cases h
    exact ⟨_, found⟩
  · cases h

/-- The frames that follow do not change what the first one announces. -/
theorem messageStart_append {data : List UInt8} {start : Bool × Nat} (rest : List UInt8)
    (h : messageStart data = some start) : messageStart (data ++ rest) = some start := by
  obtain ⟨single, idx⟩ := start
  obtain ⟨byte, found⟩ := messageStart_found h
  rw [messageStart, firstNonWhitespace_append rest found, ← found]
  exact h

/-! ## What a body is read as -/

section Reading

variable {body : List Frame}

theorem Frame.Readable.tail {frame : Frame} (readable : Readable (frame :: body)) : Readable body :=
  fun other member => readable other (List.mem_cons_of_mem _ member)

/-- Once something has been received, the rest is appended to it. -/
theorem readFrames_started (readable : Frame.Readable body) {received : List UInt8} (started : received ≠ [])
    (remaining : Nat) (single : Bool) :
    readFrames remaining received (some single) body =
      if (Frame.payload body).length ≤ remaining then .ok (received ++ Frame.payload body, single)
      else .error .stream := by
  induction body generalizing received remaining with
  | nil => simp [readFrames, Frame.payload, Frame.dataFrames, started]
  | cons frame rest ih =>
      cases frame with
      | error => exact absurd rfl (readable .error List.mem_cons_self)
      | trailers => exact ih readable.tail started remaining
      | data data =>
          have cut : Frame.payload (.data data :: rest) = data ++ Frame.payload rest := rfl
          rw [readFrames, cut, List.length_append]
          by_cases large : data.length > remaining
          · rw [if_pos large, if_neg (by omega)]
          · rw [if_neg large, if_neg (by simpa using started), ih readable.tail (by simp [started])]
            by_cases within : (Frame.payload rest).length ≤ remaining - data.length
            · rw [if_pos within, if_pos (by omega), List.append_assoc]
            · rw [if_neg within, if_neg (by omega)]

/-- A message that the first data frame announces is read to its end. -/
theorem readFrames_announced (readable : Frame.Readable body) {data : List UInt8} {idx remaining : Nat}
    (small : data.length ≤ remaining) (inside : idx < data.length) (single : Bool) :
    readFrames (remaining - data.length) (data.drop idx) (some single) body =
      if (data ++ Frame.payload body).length ≤ remaining then .ok ((data ++ Frame.payload body).drop idx, single)
      else .error .stream := by
  have started : data.drop idx ≠ [] := by
    rw [ne_eq, List.drop_eq_nil_iff]
    omega
  rw [readFrames_started readable started, List.length_append, List.drop_append_of_le_length (by omega)]
  by_cases within : (Frame.payload body).length ≤ remaining - data.length
  · rw [if_pos within, if_pos (by omega)]
  · rw [if_neg within, if_neg (by omega)]

/-- The first data frame, when it is within the limit, decides. -/
theorem readFrames_data (readable : Frame.Readable body) {data : List UInt8} {remaining : Nat}
    (small : data.length ≤ remaining) :
    readFrames remaining [] none (.data data :: body) =
      (messageStart data).elim (.error .malformed) fun start =>
        if (data ++ Frame.payload body).length ≤ remaining then
          .ok ((data ++ Frame.payload body).drop start.2, start.1)
        else .error .stream := by
  rw [readFrames, if_neg (Nat.not_lt.mpr small), messageStart]
  cases found : firstNonWhitespace data with
  | none => rfl
  | some entry =>
      obtain ⟨byte, idx⟩ := entry
      have inside := firstNonWhitespace_lt found
      by_cases brace : byte = 123
      · subst brace
        exact readFrames_announced readable small inside true
      · by_cases bracket : byte = 91
        · subst bracket
          exact readFrames_announced readable small inside false
        · simp [brace, bracket]

/-- What a readable body is read as: turned away by its first data frame, or read to its end. -/
theorem readFrames_eq (readable : Frame.Readable body) (maxBodySize : Nat) :
    (TurnedAway maxBodySize body ∧ readFrames maxBodySize [] none body = .error .malformed) ∨
    (¬ TurnedAway maxBodySize body ∧ maxBodySize < (Frame.payload body).length ∧
      readFrames maxBodySize [] none body = .error .stream) ∨
    (¬ TurnedAway maxBodySize body ∧ (Frame.payload body).length ≤ maxBodySize ∧
      ∃ start, messageStart (Frame.payload body) = some start ∧
        readFrames maxBodySize [] none body = .ok ((Frame.payload body).drop start.2, start.1)) := by
  induction body with
  | nil => exact .inl ⟨by simp [TurnedAway, Frame.dataFrames], rfl⟩
  | cons frame rest ih =>
      cases frame with
      | error => exact absurd rfl (readable .error List.mem_cons_self)
      | trailers => exact ih readable.tail
      | data data =>
          have turned : TurnedAway maxBodySize (.data data :: rest) ↔
              data.length ≤ maxBodySize ∧ messageStart data = none := by
            simp [TurnedAway, Frame.dataFrames, Frame.data?]
          have cut : Frame.payload (.data data :: rest) = data ++ Frame.payload rest := rfl
          rw [turned, cut]
          by_cases small : data.length ≤ maxBodySize
          · rw [readFrames_data readable.tail small]
            cases announces : messageStart data with
            | none => exact .inl ⟨⟨small, rfl⟩, rfl⟩
            | some start =>
                simp only [reduceCtorEq, and_false, not_false_eq_true, true_and, false_and, false_or, Option.elim]
                by_cases within : (data ++ Frame.payload rest).length ≤ maxBodySize
                · rw [if_pos within]
                  exact .inr ⟨within, start, messageStart_append _ announces, rfl⟩
                · rw [if_neg within]
                  exact .inl ⟨Nat.lt_of_not_le within, rfl⟩
          · refine .inr (.inl ⟨fun turnedAway => small turnedAway.1, ?_, ?_⟩)
            · rw [List.length_append]
              omega
            · rw [readFrames, if_pos (Nat.lt_of_not_le small)]

end Reading

/-- Two ways to cut the same bytes are read alike exactly when the header already tells
    that the body is too large, or the first data frames agree on turning it away. -/
theorem readBody_framing (headers : HeaderMap) (maxBodySize : Nat) {body body' : List Frame}
    (readable : Frame.Readable body) (readable' : Frame.Readable body')
    (same : Frame.payload body = Frame.payload body') :
    readBody (readHeaderContentLength headers) body maxBodySize =
        readBody (readHeaderContentLength headers) body' maxBodySize ↔
      maxBodySize < (readHeaderContentLength headers).getD 0 ∨
        (TurnedAway maxBodySize body ↔ TurnedAway maxBodySize body') := by
  unfold readBody
  by_cases announced : (readHeaderContentLength headers).getD 0 > maxBodySize
  · simp [announced]
  · simp only [announced, if_false, false_or]
    have one := readFrames_eq readable maxBodySize
    have other := readFrames_eq readable' maxBodySize
    rw [same] at one
    rcases one with ⟨turned, one⟩ | ⟨turned, large, one⟩ | ⟨turned, within, start, starts, one⟩
    · rw [one]
      rcases other with ⟨turned', other⟩ | ⟨turned', large', other⟩ | ⟨turned', within', start', starts', other⟩
      all_goals simp [other, turned, turned']
    · rw [one]
      rcases other with ⟨turned', other⟩ | ⟨turned', large', other⟩ | ⟨turned', within', start', starts', other⟩
      · simp [other, turned, turned']
      · simp [other, turned, turned']
      · omega
    · rw [one]
      rcases other with ⟨turned', other⟩ | ⟨turned', large', other⟩ | ⟨turned', within', start', starts', other⟩
      · simp [other, turned, turned']
      · omega
      · rw [starts] at starts'
        cases starts'
        simp [other, turned, turned']

/-- One frame and the same frame after an empty one. -/
theorem readBody_empty_frame :
    ¬ ∀ (headers : HeaderMap) (maxBodySize : Nat) (body body' : List Frame), Frame.Readable body →
      Frame.Readable body' → Frame.payload body = Frame.payload body' →
      readBody (readHeaderContentLength headers) body maxBodySize =
        readBody (readHeaderContentLength headers) body' maxBodySize := by
  intro framing
  have same := framing [] 16 [.data [], .data [123, 125]] [.data [123, 125]] (by simp [Frame.Readable])
    (by simp [Frame.Readable]) rfl
  cases same

/-- A frame of trailers in front and a cut in the middle do not matter. -/
theorem readBody_framing_split :
    readBody (readHeaderContentLength []) [.trailers, .data [32, 123], .data [125]] 16 =
      readBody (readHeaderContentLength []) [.data [32, 123, 125]] 16 := by
  have readable : Frame.Readable [.trailers, .data [32, 123], .data [125]] := by simp [Frame.Readable]
  have readable' : Frame.Readable [.data [32, 123, 125]] := by simp [Frame.Readable]
  exact (readBody_framing [] 16 readable readable' rfl).mpr (.inr (by decide))

/-! ## Bodies over the limit -/

theorem readFrames_ne_tooLarge (remaining : Nat) (received : List UInt8) (isSingle : Option Bool)
    (body : List Frame) : readFrames remaining received isSingle body ≠ .error .tooLarge := by
  fun_induction readFrames remaining received isSingle body <;> simp_all

/-- Only the header makes a body too large. -/
theorem readBody_tooLarge_iff (contentLength : Option Nat) (body : List Frame) (maxBodySize : Nat) :
    readBody contentLength body maxBodySize = .error .tooLarge ↔ maxBodySize < contentLength.getD 0 := by
  unfold readBody
  by_cases announced : contentLength.getD 0 > maxBodySize
  · simp [announced]
  · rw [if_neg announced]
    exact ⟨fun large => absurd large (readFrames_ne_tooLarge _ _ _ _), fun large => absurd large announced⟩

/-- The header is given once, fits a `u32` and exceeds the limit. -/
def AnnouncedTooLarge (headers : HeaderMap) (maxBodySize : Nat) : Prop :=
  ∃ value text length, headers.getAll "content-length" = [value] ∧ value.toStr = some text ∧
    Decimal.parse (2 ^ 32) text.toList = some length ∧ maxBodySize < length

theorem announcedTooLarge_iff (headers : HeaderMap) (maxBodySize : Nat) :
    maxBodySize < (readHeaderContentLength headers).getD 0 ↔ AnnouncedTooLarge headers maxBodySize := by
  constructor
  · intro large
    cases read : readHeaderContentLength headers with
    | none => simp [read] at large
    | some length =>
        rw [read, Option.getD_some] at large
        obtain ⟨text, given, parsed⟩ := Option.bind_eq_some_iff.mp read
        unfold readHeaderValue at given
        split at given
        · rename_i value once
          exact ⟨value, text, length, once, given, parsed, large⟩
        · cases given
  · rintro ⟨value, text, length, once, given, parsed, large⟩
    have read : readHeaderContentLength headers = some length := by
      rw [readHeaderContentLength, readHeaderValue, once]
      exact (congrArg (Option.bind · _) given).trans parsed
    rw [read]
    exact large

section Oversized

variable {σ : Type} (serde : SerdeJson) (headers : HeaderMap) (body : List Frame) (extensions : Extensions)
  (batchConfig : BatchRequestConfig) (maxRequestSize : Nat) (service : RpcService σ) (world : σ)

/-- A body is reported as oversized exactly when the header announces that it is. -/
theorem oversized_body (json : isJson (HttpRequest.fromParts true headers body extensions).contentType = true) :
    (readBody (readHeaderContentLength headers) body maxRequestSize = .error .tooLarge ∧
      callWithService serde (.fromParts true headers body extensions) batchConfig maxRequestSize service world =
        ({ status := 413, body := (errorText (rejectTooBigRequest maxRequestSize)).text }, world)) ↔
      AnnouncedTooLarge headers maxRequestSize := by
  rw [← announcedTooLarge_iff, ← readBody_tooLarge_iff]
  refine ⟨And.left, fun tooLarge => ⟨tooLarge, ?_⟩⟩
  have read : readBody (HttpRequest.fromParts true headers body extensions).contentLength
      (HttpRequest.fromParts true headers body extensions).body maxRequestSize = .error .tooLarge := tooLarge
  simp only [callWithService, json, read, if_true]
  rfl

/-- Otherwise the limit is met while the body is read, and that is an internal error. -/
theorem oversized_body_unannounced
    (json : isJson (HttpRequest.fromParts true headers body extensions).contentType = true)
    (readable : Frame.Readable body) (large : maxRequestSize < (Frame.payload body).length)
    (kept : ¬ TurnedAway maxRequestSize body) (silent : ¬ AnnouncedTooLarge headers maxRequestSize) :
    callWithService serde (.fromParts true headers body extensions) batchConfig maxRequestSize service world =
      ({ status := 500, body := (errorText (.ofCode .internalError)).text }, world) := by
  have read : readBody (HttpRequest.fromParts true headers body extensions).contentLength
      (HttpRequest.fromParts true headers body extensions).body maxRequestSize = .error .stream := by
    rw [← announcedTooLarge_iff] at silent
    rw [readBody]
    refine (if_neg silent).trans ?_
    rcases readFrames_eq readable maxRequestSize with ⟨turned, _⟩ | ⟨_, _, read⟩ | ⟨_, within, _⟩
    · exact absurd turned kept
    · exact read
    · omega
  simp only [callWithService, json, read, if_true]
  rfl

end Oversized

/-- The header of a JSON body, and a length. -/
def jsonHeaders (contentLength : List String) : HeaderMap :=
  ("content-type", "application/json".toList.map fun c => UInt8.ofNat c.toNat) ::
    contentLength.map fun length => ("content-length", length.toList.map fun c => UInt8.ofNat c.toNat)

/-- A length that is given twice is not read. -/
example : readHeaderContentLength (jsonHeaders ["3"]) = some 3 ∧
    readHeaderContentLength (jsonHeaders ["3", "3"]) = none := by decide +kernel

/-- Without a length, a body of two bytes is over a limit of one byte and answered with an
    internal error. -/
theorem oversized_body_silent :
    ¬ ∀ (serde : SerdeJson) (headers : HeaderMap) (body : List Frame) (extensions : Extensions)
        (batchConfig : BatchRequestConfig) (maxRequestSize : Nat) (service : RpcService Unit),
      isJson (HttpRequest.fromParts true headers body extensions).contentType = true → Frame.Readable body →
      maxRequestSize < (Frame.payload body).length → (messageStart (Frame.payload body)).isSome →
      readBody (readHeaderContentLength headers) body maxRequestSize = .error .tooLarge ∧
        callWithService serde (.fromParts true headers body extensions) batchConfig maxRequestSize service () =
          ({ status := 413, body := (errorText (rejectTooBigRequest maxRequestSize)).text }, ()) := by
  intro reported
  let service : RpcService Unit := { methods := ∅, maxResponseBodySize := 0, connId := 0, cfg := .onlyCalls }
  have tooLarge := (reported (.only .null) (jsonHeaders []) [.data [123, 125]] ∅ .disabled 1 service (by decide +kernel)
    (by simp [Frame.Readable]) (by decide) (by decide)).1
  have read : readBody (readHeaderContentLength (jsonHeaders [])) [.data [123, 125]] 1 = .error .stream := by
    decide +kernel
  rw [read] at tooLarge
  cases tooLarge

/-- A header that says so is enough, whatever the body. -/
theorem oversized_body_announced :
    let service : RpcService Unit := { methods := ∅, maxResponseBodySize := 0, connId := 0, cfg := .onlyCalls }
    callWithService (.only .null) (.fromParts true (jsonHeaders ["2"]) [.data [123, 125]] ∅) .disabled 1 service () =
      ({ status := 413, body := (errorText (rejectTooBigRequest 1)).text }, ()) :=
  ((oversized_body (.only .null) (jsonHeaders ["2"]) [.data [123, 125]] ∅ .disabled 1
    { methods := ∅, maxResponseBodySize := 0, connId := 0, cfg := .onlyCalls } () (by decide +kernel)).mpr
    ((announcedTooLarge_iff _ _).mp (by decide +kernel))).2

end Server

end Jsonrpsee
