import KizunaLink.Hls.M3u8
import KizunaLink.Hls.Reader
import KizunaLink.Lib.Checked

/-!
# Fetching one HLS segment

Model of `fetch_segment_into` (media/sources/youtube/hls/fetcher.rs).  The server
answers each attempt as it likes: with a failure of the transport, or with any
status, headers and body, which may break off between two chunks.  The slice of a
full body is checked like every slice.

`reqwest::Error` is known by what the code asks of it: whether it is a timeout or a
failed connection, and the first I/O error in its chain of causes.
-/

set_option autoImplicit false

namespace KizunaLink.Hls

open KizunaLink.Lib KizunaLink.Source List Option

def maxHlsSegmentBytes : Nat := 32 * 1024 * 1024

def maxTransientRetries : Nat := 2

inductive IoErrorKind where
  | unexpectedEof
  | timedOut
  | connectionReset
  | connectionAborted
  | brokenPipe
  | other
  deriving DecidableEq, Repr

structure TransportError where
  text : String
  isTimeout : Bool := false
  isConnect : Bool := false
  io : Option IoErrorKind := none
  deriving DecidableEq, Repr

inductive BodyReadError where
  | tooLarge (max : Nat)
  | transport (error : TransportError)

namespace BodyReadError

def isTransient : BodyReadError → Bool
  | .tooLarge _ => false
  | .transport error => error.isTimeout || error.isConnect || error.io.any (· ≠ .other)

def text : BodyReadError → String
  | .tooLarge max => "HLS fetch: body exceeds " ++ toString max ++ " bytes"
  | .transport error => "HLS fetch: body read failed: " ++ error.text

end BodyReadError

/-- A response with its body, chunk by chunk; a failure of the transport ends the body. -/
structure SegmentAnswer where
  response : Response
  body : List (Except TransportError Bytes)

def readChunks (max : Nat) (out : Bytes) :
    List (Except TransportError Bytes) → Except BodyReadError Bytes
  | [] => .ok out
  | .error error :: _ => .error (.transport error)
  | .ok chunk :: rest =>
    if max - out.length < chunk.length then .error (.tooLarge max)
    else readChunks max (out ++ chunk) rest

def readBodyCapped (answer : SegmentAnswer) (max : Nat) : Except BodyReadError Bytes :=
  if answer.response.contentLength.any (max < ·) then .error (.tooLarge max)
  else readChunks max [] answer.body

def rangeEnd : Option ByteRange → Except String (Option Nat)
  | none => .ok none
  | some range =>
    if range.length = 0 then .error "empty HLS range"
    else if 2 ^ 64 ≤ range.offset + (range.length - 1) then .error "HLS range overflow"
    else .ok (some (range.offset + (range.length - 1)))

def rangeHeader (range : Option ByteRange) (last : Option Nat) : Option String :=
  match range, last with
  | some range, some last => some ("bytes=" ++ toString range.offset ++ "-" ++ toString last)
  | _, _ => none

/-- How a body is read: its cap, the length it must have, and the part to take of it. -/
structure BodyPlan where
  cap : Nat
  expectedLen : Option Nat
  part : Option (Nat × Nat)

variable (canonicalReason : Nat → Option String)

/-- The checks of status and interval before any of the body is read.  An ignored range is
answered with the whole resource. -/
def planBody (range : Option ByteRange) (response : Response) : Except String BodyPlan :=
  let failed := "HLS fetch failed " ++ statusText canonicalReason response.status
  match range with
  | some range =>
    if response.status = 206 then do
      let _ ← validateContentRange response range.offset (some range.length)
      pure ⟨range.length, some range.length, none⟩
    else if response.status = 200 then
      match response.contentLength with
      | none => .error "HLS fetch: ignored Range without Content-Length"
      | some fullLen =>
        let requestedEnd := range.offset + range.length - 1
        if maxHlsSegmentBytes < fullLen ∨ fullLen ≤ requestedEnd then
          .error "HLS fetch: unsafe full-body Range fallback"
        else .ok ⟨maxHlsSegmentBytes, some fullLen, some (range.offset, requestedEnd)⟩
    else .error failed
  | none =>
    if response.status ≠ 200 then .error failed
    else .ok ⟨maxHlsSegmentBytes, response.contentLength, none⟩

def isRetryable (status : Nat) : Bool :=
  status == 429 || status == 500 || status == 502 || status == 503 || status == 504

/-- The output is touched once, when the whole body has been read and checked. -/
def commit (plan : BodyPlan) (bytes out : Bytes) : Checked (Except String Unit × Bytes) :=
  match plan.part with
  | some (start, last) => do
      let part ← slice bytes start (last + 1)
      pure (.ok (), out ++ part)
  | none => pure (.ok (), out ++ bytes)

/-- One attempt goes on with the next one or leaves with a result; both with the output. -/
def fetchAttempt (range : Option ByteRange) (attempt : Nat)
    (answer : Except TransportError SegmentAnswer) (out : Bytes) :
    Checked (Turn Bytes (Except String Unit × Bytes)) :=
  match answer with
  | .error error =>
    if attempt < maxTransientRetries ∧ (error.isTimeout || error.isConnect) = true then
      pure (.next out)
    else pure (.done (.error error.text, out))
  | .ok answer =>
    if isRetryable answer.response.status = true ∧ attempt < maxTransientRetries then
      pure (.next out)
    else
      match planBody canonicalReason range answer.response with
      | .error problem => pure (.done (.error problem, out))
      | .ok plan =>
        match readBodyCapped answer plan.cap with
        | .error error =>
          if attempt < maxTransientRetries ∧ error.isTransient = true then
            pure (.next out)
          else pure (.done (.error error.text, out))
        | .ok bytes =>
          match plan.expectedLen.filter (bytes.length ≠ ·) with
          | some expectedLen =>
            if bytes.length < expectedLen ∧ attempt < maxTransientRetries then
              pure (.next out)
            else
              pure (.done (.error
                ("HLS fetch: incomplete or inconsistent body (" ++
                  toString bytes.length ++ " of " ++ toString expectedLen ++
                  " bytes)"), out))
          | none => do
              let committed ← commit plan bytes out
              pure (.done committed)

def fetchAttempts (canonicalReason : Nat → Option String) (range : Option ByteRange)
    (server : Nat → Except TransportError SegmentAnswer) :
    List Nat → Bytes → Checked (Except String Unit × Bytes)
  | [], out => pure (.error "HLS fetch: retry budget exhausted", out)
  | attempt :: rest, out => do
      match ← fetchAttempt canonicalReason range attempt (server attempt) out with
      | .next out => fetchAttempts canonicalReason range server rest out
      | .done result => pure result

/-- The server's answer to an attempt may depend on the Range header. -/
def fetchSegmentInto (range : Option ByteRange)
    (server : Nat → Option String → Except TransportError SegmentAnswer) (out : Bytes) :
    Checked (Except String Unit × Bytes) :=
  match rangeEnd range with
  | .error problem => pure (.error problem, out)
  | .ok last =>
    if range.any (maxHlsSegmentBytes < ·.length) then
      pure (.error "HLS fetch: requested range exceeds segment limit", out)
    else
      fetchAttempts canonicalReason range
        (fun attempt => server attempt (rangeHeader range last))
        (List.range (maxTransientRetries + 1)) out

def wholeBody : List (Except TransportError Bytes) → Option Bytes
  | [] => some []
  | .error _ :: _ => none
  | .ok chunk :: rest => (wholeBody rest).map (chunk ++ ·)

/-- What an answer contributes to the segment: all of its body when no range was asked for,
all of the body that it declares to be the range, or the range out of the whole resource. -/
inductive Contributes (answer : SegmentAnswer) : Option ByteRange → Bytes → Prop where
  | whole {body : Bytes} (status : answer.response.status = 200)
      (arrived : wholeBody answer.body = some body)
      (length : ∀ count ∈ answer.response.contentLength, body.length = count) :
      Contributes answer none body
  | declared {range : ByteRange} {body : Bytes} {total : Option Nat}
      (status : answer.response.status = 206)
      (header : answer.response.contentRange.bind parseContentRange =
        some (range.offset, range.offset + range.length - 1, total))
      (arrived : wholeBody answer.body = some body) (length : body.length = range.length) :
      Contributes answer (some range) body
  | cut {range : ByteRange} {body : Bytes} (status : answer.response.status = 200)
      (arrived : wholeBody answer.body = some body)
      (length : answer.response.contentLength = some body.length)
      (inside : range.offset + range.length ≤ body.length) :
      Contributes answer (some range) ((body.drop range.offset).take range.length)

/-- The answer tells the truth about a resource: what it sends as the resource, or as an
interval of it, is the beginning of that, and the length it gives is the right one. -/
structure SegmentAnswer.Truthful (answer : SegmentAnswer) (resource : Bytes) : Prop where
  full : answer.response.status = 200 → ∀ body ∈ wholeBody answer.body,
    body <+: resource ∧ ∀ count ∈ answer.response.contentLength, count = resource.length
  part : answer.response.status = 206 → ∀ body ∈ wholeBody answer.body,
    ∀ first last total,
      answer.response.contentRange.bind parseContentRange = some (first, last, total) →
      body <+: (resource.drop first).take (last - first + 1)

namespace Contributes

variable {answer : SegmentAnswer} {range : ByteRange} {bytes : Bytes}

theorem length_eq (contributes : Contributes answer (some range) bytes) :
    bytes.length = range.length := by
  cases contributes with
  | declared status header arrived length => exact length
  | cut status arrived length inside =>
    rw [length_take, length_drop]
    omega

theorem interval (contributes : Contributes answer (some range) bytes) (asked : 0 < range.length)
    {resource : Bytes} (truthful : answer.Truthful resource) :
    bytes = (resource.drop range.offset).take range.length ∧
      range.offset + range.length ≤ resource.length := by
  cases contributes with
  | declared status header arrived length =>
    have isPrefix := truthful.part status bytes arrived _ _ _ header
    rw [show range.offset + range.length - 1 - range.offset + 1 = range.length by omega]
      at isPrefix
    have shorter := isPrefix.length_le
    rw [length_take, length_drop] at shorter
    refine ⟨isPrefix.eq_of_length_le ?_, by omega⟩
    rw [length_take, length_drop]
    omega
  | @cut _ body status arrived length inside =>
    obtain ⟨isPrefix, declared⟩ := truthful.full status body arrived
    have same : body = resource :=
      isPrefix.eq_of_length_le (Nat.le_of_eq (declared _ length).symm)
    rw [← same]
    exact ⟨rfl, inside⟩

end Contributes

variable (canonicalReason : Nat → Option String) {range : Option ByteRange}

theorem readChunks_ok {max : Nat} {body : List (Except TransportError Bytes)} {out bytes : Bytes}
    (read : readChunks max out body = .ok bytes) :
    ∃ arrived, wholeBody body = some arrived ∧ bytes = out ++ arrived := by
  induction body generalizing out with
  | nil =>
    cases read
    exact ⟨[], rfl, (append_nil _).symm⟩
  | cons chunk rest ih =>
    cases chunk with
    | error error => cases read
    | ok chunk =>
      rw [readChunks] at read
      obtain ⟨-, read⟩ := guard_ok read
      obtain ⟨arrived, whole, joined⟩ := ih read
      refine ⟨chunk ++ arrived, by rw [wholeBody, whole]; rfl, ?_⟩
      rw [joined, append_assoc]

theorem readBodyCapped_ok {answer : SegmentAnswer} {max : Nat} {bytes : Bytes}
    (read : readBodyCapped answer max = .ok bytes) : wholeBody answer.body = some bytes := by
  rw [readBodyCapped] at read
  split at read
  · cases read
  · obtain ⟨arrived, whole, rfl⟩ := readChunks_ok read
    exact whole

theorem validateContentRange_ok {response : Response} {range : ByteRange} {count : Nat}
    (valid : validateContentRange response range.offset (some range.length) = .ok count) :
    ∃ total, response.contentRange.bind parseContentRange =
      some (range.offset, range.offset + range.length - 1, total) := by
  unfold validateContentRange at valid
  split at valid
  · rename_i start last total _ parsed
    obtain ⟨forward, valid⟩ := guard_ok valid
    obtain ⟨matching, valid⟩ := guard_ok valid
    simp only [not_or, any_some, decide_eq_true_eq, ne_eq, not_not] at matching forward
    obtain ⟨rfl, _, length, _⟩ := matching
    have ends : last = range.offset + range.length - 1 := by omega
    exact ⟨total, by rw [parsed, ends]⟩
  · cases valid

theorem commit_ok {canonicalReason : Nat → Option String}
    (asked : ∀ wanted ∈ range, 0 < wanted.length) {answer : SegmentAnswer} {plan : BodyPlan}
    (planned : planBody canonicalReason range answer.response = .ok plan) {bytes : Bytes}
    (arrived : wholeBody answer.body = some bytes)
    (expected : ∀ count ∈ plan.expectedLen, bytes.length = count) (out : Bytes) :
    ∃ part, commit plan bytes out = .ok (.ok (), out ++ part) ∧
      Contributes answer range part := by
  cases range with
  | none =>
    obtain ⟨status, ⟨⟩⟩ := guard_ok planned
    exact ⟨bytes, rfl, .whole (not_not.mp status) arrived expected⟩
  | some range =>
    have positive := asked range rfl
    simp only [planBody] at planned
    split at planned
    · rename_i status
      obtain ⟨count, valid, planned⟩ := bind_ok planned
      cases planned
      obtain ⟨total, header⟩ := validateContentRange_ok valid
      exact ⟨bytes, rfl, .declared status header arrived (expected _ rfl)⟩
    · split at planned
      · rename_i status
        split at planned
        · cases planned
        · rename_i fullLen declared
          obtain ⟨safe, ⟨⟩⟩ := guard_ok planned
          have length : bytes.length = fullLen := expected fullLen rfl
          have inside : range.offset + range.length ≤ bytes.length := by omega
          refine ⟨_, ?_, .cut status arrived (by rw [declared, length]) inside⟩
          dsimp only [commit]
          rw [slice_ok (by omega) (by omega),
            show range.offset + range.length - 1 + 1 - range.offset = range.length by omega]
          rfl
      · cases planned

/-- A failure leaves the output, and a success appends what one of the answers sent
contributes. -/
def AllOrNothing (range : Option ByteRange) (sent : SegmentAnswer → Prop) (out : Bytes) :
    Except String Unit × Bytes → Prop
  | (.error _, after) => after = out
  | (.ok _, after) => ∃ answer part, sent answer ∧ Contributes answer range part ∧
      after = out ++ part

theorem AllOrNothing.mono {sent more : SegmentAnswer → Prop} {out : Bytes}
    {result : Except String Unit × Bytes} (outcome : AllOrNothing range sent out result)
    (also : ∀ answer, sent answer → more answer) : AllOrNothing range more out result := by
  obtain ⟨result, after⟩ := result
  cases result with
  | error problem => exact outcome
  | ok done =>
    obtain ⟨answer, part, isSent, contributes, appended⟩ := outcome
    exact ⟨answer, part, also answer isSent, contributes, appended⟩

theorem fetchAttempt_cases (asked : ∀ wanted ∈ range, 0 < wanted.length) (attempt : Nat)
    (answer : Except TransportError SegmentAnswer) (out : Bytes) :
    fetchAttempt canonicalReason range attempt answer out = .ok (.next out) ∨
      ∃ result, fetchAttempt canonicalReason range attempt answer out = .ok (.done result) ∧
        AllOrNothing range (fun sent => answer = .ok sent) out result := by
  unfold fetchAttempt
  split
  · split
    · exact .inl rfl
    · exact .inr ⟨_, rfl, rfl⟩
  · rename_i response
    split
    · exact .inl rfl
    · split
      · exact .inr ⟨_, rfl, rfl⟩
      · rename_i plan planned
        split
        · split
          · exact .inl rfl
          · exact .inr ⟨_, rfl, rfl⟩
        · rename_i bytes read
          split
          · split
            · exact .inl rfl
            · exact .inr ⟨_, rfl, rfl⟩
          · rename_i expected
            have exactly : ∀ count ∈ plan.expectedLen, bytes.length = count := by
              intro count present
              by_contra different
              rw [mem_def.mp present, filter_some_pos (by simpa using different)]
                at expected
              cases expected
            obtain ⟨part, committed, contributes⟩ :=
              commit_ok asked planned (readBodyCapped_ok read) exactly out
            rw [committed]
            exact .inr ⟨_, rfl, response, part, rfl, contributes, rfl⟩

theorem fetchAttempts_outcome (asked : ∀ wanted ∈ range, 0 < wanted.length)
    (server : Nat → Except TransportError SegmentAnswer) (attempts : List Nat) (out : Bytes) :
    ∃ result, fetchAttempts canonicalReason range server attempts out = .ok result ∧
      AllOrNothing range (fun sent => ∃ attempt ∈ attempts, server attempt = .ok sent) out
        result := by
  induction attempts with
  | nil => exact ⟨_, rfl, rfl⟩
  | cons attempt rest ih =>
    rcases fetchAttempt_cases canonicalReason asked attempt (server attempt) out with
      again | ⟨result, finished, outcome⟩
    · obtain ⟨result, fetched, outcome⟩ := ih
      refine ⟨result, by rw [fetchAttempts, again]; exact fetched, outcome.mono ?_⟩
      rintro answer ⟨later, member, answered⟩
      exact ⟨later, mem_cons_of_mem attempt member, answered⟩
    · refine ⟨result, by rw [fetchAttempts, finished]; rfl, outcome.mono ?_⟩
      intro answer answered
      exact ⟨attempt, mem_cons_self, answered⟩

theorem asked_of_rangeEnd {last : Option Nat} (inRange : rangeEnd range = .ok last) :
    ∀ wanted ∈ range, 0 < wanted.length := by
  intro wanted present
  rw [mem_def.mp present, rangeEnd] at inRange
  split at inRange
  · cases inRange
  · omega

theorem fetchSegmentInto_outcome (range : Option ByteRange)
    (server : Nat → Option String → Except TransportError SegmentAnswer) (out : Bytes) :
    ∃ result, fetchSegmentInto canonicalReason range server out = .ok result ∧
      AllOrNothing range (fun sent => ∃ attempt last, attempt ≤ maxTransientRetries ∧
        rangeEnd range = .ok last ∧ server attempt (rangeHeader range last) = .ok sent)
        out result := by
  unfold fetchSegmentInto
  split
  · exact ⟨_, rfl, rfl⟩
  · rename_i last inRange
    split
    · exact ⟨_, rfl, rfl⟩
    · obtain ⟨result, fetched, outcome⟩ := fetchAttempts_outcome canonicalReason
        (asked_of_rangeEnd inRange) (fun attempt => server attempt (rangeHeader range last))
        (List.range (maxTransientRetries + 1)) out
      refine ⟨result, fetched, outcome.mono ?_⟩
      rintro answer ⟨attempt, member, answered⟩
      exact ⟨attempt, last, Nat.le_of_lt_succ (mem_range.mp member), inRange, answered⟩

/-- For every range, every behaviour of the server and every output: a failure leaves the
output as it was, and a success appends, once, what one answer to the Range header that is
sent contributes.  With a range
these are as many bytes as were asked for, and if that answer tells the truth about a
resource, they are the requested interval of it. -/
theorem segment_all_or_nothing (canonicalReason : Nat → Option String) (range : Option ByteRange)
    (server : Nat → Option String → Except TransportError SegmentAnswer) (out : Bytes) :
    ∃ result after, fetchSegmentInto canonicalReason range server out = .ok (result, after) ∧
      (∀ problem, result = .error problem → after = out) ∧
      (result = .ok () → ∃ attempt last answer bytes, attempt ≤ maxTransientRetries ∧
        rangeEnd range = .ok last ∧ server attempt (rangeHeader range last) = .ok answer ∧
        Contributes answer range bytes ∧ after = out ++ bytes ∧
        ∀ wanted ∈ range, bytes.length = wanted.length ∧
          ∀ resource, answer.Truthful resource →
            bytes = (resource.drop wanted.offset).take wanted.length ∧
              wanted.offset + wanted.length ≤ resource.length) := by
  obtain ⟨⟨result, after⟩, fetched, outcome⟩ :=
    fetchSegmentInto_outcome canonicalReason range server out
  refine ⟨result, after, fetched, ?_, ?_⟩
  · rintro problem rfl
    exact outcome
  · rintro rfl
    obtain ⟨answer, bytes, ⟨attempt, last, bounded, inRange, answered⟩, contributes, appended⟩ :=
      outcome
    refine ⟨attempt, last, answer, bytes, bounded, inRange, answered, contributes, appended, ?_⟩
    intro wanted present
    rw [mem_def.mp present] at contributes
    have asked := asked_of_rangeEnd inRange wanted present
    exact ⟨contributes.length_eq, fun _ truthful => contributes.interval asked truthful⟩

end KizunaLink.Hls
