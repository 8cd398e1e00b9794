import KizunaLink.Source.Prefetcher

/-!
# Requests of the HTTP source

Model of `fetch_stream` in engine/source/http/mod.rs and of the check of the
Content-Range header in engine/source/range.rs.  A server answers a request with
any status and any headers, or sending fails with the text of the transport's
error.  Every failure reaches the prefetcher as a text; most of these texts
contain the URL, and one of them the offset.

The names of the status codes are the `http` crate's and enter as a parameter.
-/

set_option autoImplicit false

namespace KizunaLink.Source

open KizunaLink.Lib List

/-- A header that is missing or no text is `none`. -/
structure Response where
  status : Nat
  contentRange : Option String := none
  contentLength : Option Nat := none
  deriving DecidableEq, Repr

/-- `str::split_once` at a character. -/
def splitOnce (separator : Char) : List Char → Option (List Char × List Char)
  | [] => none
  | char :: rest =>
    if char = separator then some ([], rest)
    else (splitOnce separator rest).map fun (front, back) => (char :: front, back)

/-- `str::parse::<u64>` on the text's characters. -/
def parseDigits (chars : List Char) : Option Nat :=
  let digits :=
    match chars with
    | '+' :: rest => rest
    | chars => chars
  if digits ≠ [] ∧ digits.all Char.isDigit then
    let value := digits.foldl (fun value digit => value * 10 + (digit.toNat - '0'.toNat)) 0
    if value < 2 ^ 64 then some value else none
  else none

/-- The first and last offset and the complete length, `none` for `*`. -/
def parseContentRange (header : String) : Option (Nat × Nat × Option Nat) := do
  let (unit, interval) ← splitOnce ' ' header.toList
  if unit ≠ "bytes".toList then none
  let (span, total) ← splitOnce '/' interval
  let (start, last) ← splitOnce '-' span
  let start ← parseDigits start
  let last ← parseDigits last
  if total = "*".toList then some (start, last, none)
  else (parseDigits total).map fun total => (start, last, some total)

theorem parseDigits_toString {value : Nat} (fits : value < 2 ^ 64) :
    parseDigits (toString value).toList = some value := by
  have digits : ∀ char ∈ Nat.toDigits 10 value, char.isDigit = true :=
    fun char member => Nat.isDigit_of_mem_toDigits (by decide) (by decide) member
  have read : (Nat.toDigits 10 value).foldl
      (fun value digit => value * 10 + (digit.toNat - '0'.toNat)) 0 = value := by
    simp only [Nat.mul_comm _ 10]
    exact Nat.ofDigitChars_toDigits (by decide) (by decide)
  have unsigned : ∀ rest, Nat.toDigits 10 value = '+' :: rest → False := by
    intro rest same
    have plus := digits '+' (by rw [same]; exact mem_cons_self)
    cases plus
  rw [Nat.toString_eq_repr, Nat.toList_repr, parseDigits]
  · simp only [read, if_pos fits]
    exact if_pos ⟨Nat.toDigits_ne_nil, List.all_eq_true.mpr digits⟩
  · exact unsigned

theorem splitOnce_append {separator : Char} {front : List Char} (back : List Char)
    (free : separator ∉ front) :
    splitOnce separator (front ++ separator :: back) = some (front, back) := by
  induction front with
  | nil => exact if_pos rfl
  | cons char rest ih =>
    rw [mem_cons, not_or] at free
    rw [cons_append, splitOnce, if_neg (Ne.symm free.1), ih free.2]
    rfl

/-- A header as a server writes it that does not tell the complete length. -/
def contentRangeText (start last : Nat) : String :=
  "bytes " ++ toString start ++ "-" ++ toString last ++ "/*"

theorem not_mem_toString {char : Char} (none : char.isDigit = false) (value : Nat) :
    char ∉ (toString value).toList := by
  intro member
  rw [Nat.toString_eq_repr, Nat.toList_repr] at member
  rw [Nat.isDigit_of_mem_toDigits (by decide) (by decide) member] at none
  cases none

theorem parseContentRange_text {start last : Nat} (startFits : start < 2 ^ 64)
    (lastFits : last < 2 ^ 64) :
    parseContentRange (contentRangeText start last) = some (start, last, none) := by
  have unit : splitOnce ' ' (contentRangeText start last).toList =
      some ("bytes".toList, (toString start).toList ++ '-' ::
        ((toString last).toList ++ '/' :: "*".toList)) := by
    rw [← splitOnce_append _ (show ' ' ∉ "bytes".toList by decide)]
    simp [contentRangeText]
  have total : splitOnce '/' ((toString start).toList ++ '-' ::
      ((toString last).toList ++ '/' :: "*".toList)) =
      some ((toString start).toList ++ '-' :: (toString last).toList, "*".toList) := by
    rw [← cons_append, ← append_assoc]
    apply splitOnce_append
    simp only [mem_append, mem_cons, not_or]
    exact ⟨not_mem_toString rfl start, by decide, not_mem_toString rfl last⟩
  have span := splitOnce_append (toString last).toList
    (not_mem_toString (show '-'.isDigit = false from rfl) start)
  simp only [parseContentRange, unit, total, span, Option.bind_eq_bind, Option.bind_some,
    parseDigits_toString startFits, parseDigits_toString lastFits]
  rfl

def invalidContentRange : String := "invalid or mismatched Content-Range"

/-- The number of bytes the body must contain. -/
def validateContentRange (response : Response) (offset : Nat) (length : Option Nat) :
    Except String Nat :=
  match response.status, response.contentRange.bind parseContentRange with
  | 206, some (start, last, total) =>
    if last < start ∨ 2 ^ 64 ≤ last - start + 1 then .error invalidContentRange
    else
      let count := last - start + 1
      if start ≠ offset ∨ total.any (· ≤ last) ∨ length.any (· ≠ count) ∨
          response.contentLength.any (· ≠ count) then .error invalidContentRange
      else .ok count
  | _, _ => .error invalidContentRange

variable (canonicalReason : Nat → Option String)

def statusText (status : Nat) : String :=
  toString status ++ " " ++ (canonicalReason status).getD "<unknown status code>"

/-- The names of the statuses that occur in the concrete runs. -/
def reasons : Nat → Option String
  | 206 => some "Partial Content"
  | 416 => some "Range Not Satisfiable"
  | 503 => some "Service Unavailable"
  | _ => none

/-- The Range header's interval is computed before anything is sent. -/
def checkLimit (offset : Nat) : Option Nat → Except String Unit
  | none => .ok ()
  | some 0 => .error "empty HTTP range"
  | some (limit + 1) =>
    if 2 ^ 64 ≤ offset + limit then .error "HTTP range overflow" else .ok ()

def checkResponse (url : String) (offset : Nat) (limit : Option Nat) (response : Response) :
    Except String Response := do
  let status := statusText canonicalReason response.status
  if response.status < 200 ∨ 300 ≤ response.status then
    .error ("HTTP " ++ status ++ " for " ++ url)
  -- a bare 200 to a range request streams from byte 0
  if (limit.isSome ∨ 0 < offset) ∧ response.status = 200 then
    .error ("HTTP 200 OK ignored Range request for " ++ url ++ " (offset " ++
      toString offset ++ ")")
  if response.status = 206 then
    let _ ← validateContentRange response offset limit
  else if response.status ≠ 200 then
    .error ("unexpected HTTP status " ++ status ++ " for " ++ url)
  return response

def fetchStream (url : String) (offset : Nat) (limit : Option Nat)
    (answer : Except String Response) : Except String Response := do
  checkLimit offset limit
  let response ← answer
  checkResponse canonicalReason url offset limit response

inductive WireAct where
  | own (act : HttpAct)
  | answered (answer : Except String Response)

def WireAct.toHttp (url : String) (source : HttpSource) :
    WireAct → Option HttpAct
  | .own (.fetched _) => none
  | .own act => some act
  | .answered answer =>
    some (.fetched ((fetchStream canonicalReason url source.prefetcher.currentPos none
      answer).map fun _ => ()))

def wireSystem (url : String) (resource : Bytes) : System HttpSource WireAct :=
  ⟨fun source act =>
    (act.toHttp canonicalReason url source).bind ((httpSystem resource).step source)⟩

end KizunaLink.Source
