import KizunaLink.Lib.Result
import Mathlib.Data.List.Infix

/-!
# Readers of token streams

A reader takes what is left of a stream and returns its value with what it left
over.  It is exact when it knows where it stops by what it has read: the same
tokens give the same value whatever follows them, and fewer of them give an
error.  Exact readers compose, so a format that is read field by field rejects
every truncation of its fields.

A scanner does the same with an index into the whole data, and records every
index it looks at.  A scanner that follows a reader stays inside the data.
-/

set_option autoImplicit false

namespace KizunaLink.Lib

open List

universe u

variable {Token Problem Value Result : Type u}

abbrev Reader (Token Problem Value : Type u) := List Token → Except Problem (Value × List Token)

/-- The reader takes `used` and no more, and takes nothing less. -/
structure Reads (read : Reader Token Problem Value) (used : List Token) (value : Value) :
    Prop where
  whole : ∀ rest, read (used ++ rest) = .ok (value, rest)
  short : ∀ part, part <+: used → part.length < used.length →
    ∃ problem, read part = .error problem

def Exact (read : Reader Token Problem Value) : Prop :=
  ∀ stream value rest, read stream = .ok (value, rest) →
    ∃ used, stream = used ++ rest ∧ Reads read used value

theorem exact_pure (value : Value) :
    Exact fun stream : List Token =>
      (.ok (value, stream) : Except Problem (Value × List Token)) := by
  intro stream other rest success
  cases success
  refine ⟨[], rfl, fun _ => rfl, ?_⟩
  intro part _ shorter
  exact absurd shorter (Nat.not_lt_zero _)

theorem exact_error (problem : Problem) :
    Exact fun _ : List Token => (.error problem : Except Problem (Value × List Token)) := by
  intro stream value rest success
  cases success

theorem Exact.ite {first second : Reader Token Problem Value} (condition : Prop)
    [Decidable condition] (firstExact : Exact first) (secondExact : Exact second) :
    Exact fun stream => if condition then first stream else second stream := by
  by_cases holds : condition
  · simpa only [if_pos holds] using firstExact
  · simpa only [if_neg holds] using secondExact

/-- A proper prefix of two parts is a proper prefix of the first, or has all of it. -/
theorem prefix_append_cases {part first second : List Token} (isPrefix : part <+: first ++ second)
    (shorter : part.length < (first ++ second).length) :
    (part <+: first ∧ part.length < first.length) ∨
      ∃ tail, part = first ++ tail ∧ tail <+: second ∧ tail.length < second.length := by
  by_cases inFirst : part.length < first.length
  · left
    exact ⟨prefix_of_prefix_length_le isPrefix (prefix_append first second)
      (Nat.le_of_lt inFirst), inFirst⟩
  · right
    have covers : first <+: part :=
      prefix_of_prefix_length_le (prefix_append first second) isPrefix
        (Nat.le_of_not_lt inFirst)
    obtain ⟨tail, rfl⟩ := covers
    refine ⟨tail, rfl, (prefix_append_right_inj first).mp isPrefix, ?_⟩
    rw [length_append, length_append] at shorter
    omega

theorem Exact.bind {first : Reader Token Problem Value}
    {next : Value × List Token → Except Problem (Result × List Token)} (firstExact : Exact first)
    (nextExact : ∀ value, Exact fun stream => next (value, stream)) :
    Exact fun stream => first stream >>= next := by
  intro stream result rest success
  obtain ⟨⟨value, middle⟩, firstRead, nextRead⟩ := bind_ok success
  obtain ⟨head, rfl, headReads⟩ := firstExact stream value middle firstRead
  obtain ⟨tail, rfl, tailReads⟩ := nextExact value middle result rest nextRead
  refine ⟨head ++ tail, (append_assoc head tail rest).symm, fun other => ?_, ?_⟩
  · rw [append_assoc, headReads.whole]
    exact tailReads.whole other
  · intro part isPrefix shorter
    rcases prefix_append_cases isPrefix shorter with
      ⟨inHead, shortHead⟩ | ⟨left, rfl, inTail, shortTail⟩
    · obtain ⟨problem, failed⟩ := headReads.short part inHead shortHead
      exact ⟨problem, by rw [failed]; rfl⟩
    · obtain ⟨problem, failed⟩ := tailReads.short left inTail shortTail
      exact ⟨problem, by rw [headReads.whole]; exact failed⟩

/-- A prefix of what an exact reader accepted is accepted just when it holds all that was
used. -/
theorem Exact.accepts_prefix_iff {read : Reader Token Problem Value} (exact : Exact read)
    {stream rest part : List Token} {value : Value} (success : read stream = .ok (value, rest))
    (isPrefix : part <+: stream) :
    (∃ other, read part = .ok other) ↔ stream.length - rest.length ≤ part.length := by
  obtain ⟨used, rfl, reads⟩ := exact stream value rest success
  have length : (used ++ rest).length - rest.length = used.length := by simp
  rw [length]
  constructor
  · rintro ⟨other, accepted⟩
    by_contra shorter
    have inUsed : part <+: used :=
      prefix_of_prefix_length_le isPrefix (prefix_append used rest) (by omega)
    obtain ⟨problem, failed⟩ := reads.short part inUsed (by omega)
    rw [failed] at accepted
    cases accepted
  · intro enough
    have covers : used <+: part :=
      prefix_of_prefix_length_le (prefix_append used rest) isPrefix enough
    obtain ⟨left, rfl⟩ := covers
    exact ⟨(value, left), reads.whole left⟩

/-! ## Scanners -/

/-- `touched` are the indices that were looked at. -/
structure Cursor (Token : Type u) where
  data : List Token
  pos : Nat := 0
  touched : List Nat := []

def Cursor.left (cursor : Cursor Token) : List Token := cursor.data.drop cursor.pos

structure Cursor.Inside (cursor : Cursor Token) : Prop where
  pos : cursor.pos ≤ cursor.data.length
  touched : ∀ index ∈ cursor.touched, index < cursor.data.length

/-- A computation on a cursor; one that fails leaves the cursor where it stands. -/
def Scan (Token Problem Value : Type u) := Cursor Token → Except Problem Value × Cursor Token

namespace Scan

instance : Monad (Scan Token Problem) where
  pure value := fun cursor => (.ok value, cursor)
  bind first next := fun cursor =>
    match first cursor with
    | (.ok value, after) => next value after
    | (.error problem, after) => (.error problem, after)

def fail (problem : Problem) : Scan Token Problem Value := fun cursor => (.error problem, cursor)

/-- The next `count` tokens, looked up one by one; the end of the data is an error. -/
def readExact (atEnd : Problem) (count : Nat) : Scan Token Problem (List Token) := fun cursor =>
  if cursor.pos + count ≤ cursor.data.length then
    (.ok ((List.range' cursor.pos count).filterMap fun index => cursor.data[index]?),
      { cursor with
        pos := cursor.pos + count
        touched := cursor.touched ++ List.range' cursor.pos count })
  else (.error atEnd, { cursor with pos := cursor.data.length })

/-- Errors are replaced by a value. -/
def orElse (scan : Scan Token Problem Value) (value : Value) : Scan Token Problem Value :=
  fun cursor =>
    match scan cursor with
    | (.ok found, after) => (.ok found, after)
    | (.error _, after) => (.ok value, after)

/-- The scanner reads the same data to its end and looks at nothing outside. -/
def StaysInside (scan : Scan Token Problem Value) : Prop :=
  ∀ cursor, cursor.Inside → (scan cursor).2.Inside ∧ (scan cursor).2.data = cursor.data

/-- The scanner does to the cursor what the reader does to the tokens left. -/
structure Follows (scan : Scan Token Problem Value) (read : Reader Token Problem Value) :
    Prop where
  stays : scan.StaysInside
  ok : ∀ cursor value rest, cursor.Inside → read cursor.left = .ok (value, rest) →
    (scan cursor).1 = .ok value ∧ (scan cursor).2.left = rest
  error : ∀ cursor problem, cursor.Inside → read cursor.left = .error problem →
    (scan cursor).1 = .error problem

variable {first : Scan Token Problem Value} {next : Value → Scan Token Problem Result}

theorem follows_pure (value : Value) :
    Follows (pure value : Scan Token Problem Value) fun stream => .ok (value, stream) := by
  refine ⟨fun cursor inside => ⟨inside, rfl⟩, ?_, ?_⟩
  · intro cursor other rest _ success
    cases success
    exact ⟨rfl, rfl⟩
  · intro cursor problem _ failed
    cases failed

theorem follows_fail (problem : Problem) :
    Follows (fail problem : Scan Token Problem Value) fun _ => .error problem := by
  refine ⟨fun cursor inside => ⟨inside, rfl⟩, ?_, ?_⟩
  · intro cursor other rest _ success
    cases success
  · intro cursor other _ failed
    cases failed
    rfl

theorem Follows.ite {first second : Scan Token Problem Value}
    {readFirst readSecond : Reader Token Problem Value} (condition : Prop)
    [Decidable condition] (firstFollows : first.Follows readFirst)
    (secondFollows : second.Follows readSecond) :
    Follows (if condition then first else second) fun stream =>
      if condition then readFirst stream else readSecond stream := by
  by_cases holds : condition
  · simpa only [if_pos holds] using firstFollows
  · simpa only [if_neg holds] using secondFollows

theorem bind_of_ok {cursor : Cursor Token} {value : Value}
    (success : (first cursor).1 = .ok value) :
    (first >>= next) cursor = next value (first cursor).2 := by
  show (match first cursor with
    | (.ok value, after) => next value after
    | (.error problem, after) => (.error problem, after)) = _
  generalize first cursor = outcome at success
  obtain ⟨result, after⟩ := outcome
  cases success
  rfl

theorem bind_of_error {cursor : Cursor Token} {problem : Problem}
    (failed : (first cursor).1 = .error problem) :
    (first >>= next) cursor = (.error problem, (first cursor).2) := by
  show (match first cursor with
    | (.ok value, after) => next value after
    | (.error problem, after) => (.error problem, after)) = _
  generalize first cursor = outcome at failed
  obtain ⟨result, after⟩ := outcome
  cases failed
  rfl

theorem StaysInside.bind (firstStays : first.StaysInside)
    (nextStays : ∀ value, (next value).StaysInside) : (first >>= next).StaysInside := by
  intro cursor inside
  obtain ⟨firstInside, firstData⟩ := firstStays cursor inside
  cases outcome : (first cursor).1 with
  | error problem =>
    rw [bind_of_error outcome]
    exact ⟨firstInside, firstData⟩
  | ok value =>
    rw [bind_of_ok outcome]
    obtain ⟨nextInside, nextData⟩ := nextStays value _ firstInside
    exact ⟨nextInside, nextData.trans firstData⟩

theorem Follows.bind {readFirst : Reader Token Problem Value}
    {readNext : Value × List Token → Except Problem (Result × List Token)}
    (firstFollows : first.Follows readFirst)
    (nextFollows : ∀ value, (next value).Follows fun stream => readNext (value, stream)) :
    (first >>= next).Follows fun stream => readFirst stream >>= readNext := by
  refine ⟨firstFollows.stays.bind fun value => (nextFollows value).stays, ?_, ?_⟩
  · intro cursor result rest inside success
    obtain ⟨⟨value, middle⟩, firstRead, nextRead⟩ := bind_ok success
    obtain ⟨scanned, left⟩ := firstFollows.ok cursor value middle inside firstRead
    rw [bind_of_ok scanned]
    refine (nextFollows value).ok _ result rest (firstFollows.stays cursor inside).1 ?_
    rw [left]
    exact nextRead
  · intro cursor problem inside failed
    cases firstRead : readFirst cursor.left with
    | error other =>
      rw [firstRead] at failed
      cases failed
      rw [bind_of_error (firstFollows.error cursor problem inside firstRead)]
    | ok read =>
      obtain ⟨value, middle⟩ := read
      rw [firstRead] at failed
      obtain ⟨scanned, left⟩ := firstFollows.ok cursor value middle inside firstRead
      rw [bind_of_ok scanned]
      refine (nextFollows value).error _ problem (firstFollows.stays cursor inside).1 ?_
      rw [left]
      exact failed

theorem StaysInside.orElse {scan : Scan Token Problem Value} (stays : scan.StaysInside)
    (value : Value) : (scan.orElse value).StaysInside := by
  intro cursor inside
  have after := stays cursor inside
  simp only [Scan.orElse]
  generalize scan cursor = outcome at after
  obtain ⟨result, next⟩ := outcome
  cases result with
  | error _ | ok _ => exact after

/-- The lookups of `readExact` give the tokens from the position on. -/
theorem filterMap_getElem?_range' (data : List Token) (start count : Nat)
    (inside : start + count ≤ data.length) :
    ((List.range' start count).filterMap fun index => data[index]?) =
      (data.drop start).take count := by
  induction count generalizing start with
  | zero => simp
  | succ count ih =>
    have within : start < data.length := by omega
    rw [List.range'_succ, filterMap_cons, List.getElem?_eq_getElem within,
      ih (start + 1) (by omega), drop_eq_getElem_cons within, take_succ_cons]

theorem readExact_staysInside (atEnd : Problem) (count : Nat) :
    (readExact atEnd count : Scan Token Problem (List Token)).StaysInside := by
  intro cursor inside
  by_cases enough : cursor.pos + count ≤ cursor.data.length
  · rw [readExact, if_pos enough]
    refine ⟨⟨enough, ?_⟩, rfl⟩
    intro index member
    rcases mem_append.mp member with earlier | now
    · exact inside.touched index earlier
    · have bounds := List.mem_range'_1.mp now
      have below : index < cursor.data.length := by omega
      exact below
  · rw [readExact, if_neg enough]
    exact ⟨⟨Nat.le_refl _, inside.touched⟩, rfl⟩

theorem readExact_follows (atEnd : Problem) (count : Nat) :
    Follows (readExact atEnd count : Scan Token Problem (List Token)) fun stream =>
      if count ≤ stream.length then .ok (stream.take count, stream.drop count)
      else .error atEnd := by
  refine ⟨readExact_staysInside atEnd count, ?_, ?_⟩
  · intro cursor value rest inside success
    split at success
    case isTrue fits =>
      cases success
      have enough : cursor.pos + count ≤ cursor.data.length := by
        rw [Cursor.left, length_drop] at fits
        have start := inside.pos
        omega
      rw [readExact, if_pos enough]
      refine ⟨?_, ?_⟩
      · rw [filterMap_getElem?_range' _ _ _ enough]
        rfl
      · simp [Cursor.left]
    case isFalse => cases success
  · intro cursor problem inside failed
    split at failed
    case isTrue => cases failed
    case isFalse short =>
      cases failed
      have beyond : ¬ cursor.pos + count ≤ cursor.data.length := by
        rw [Cursor.left, length_drop] at short
        omega
      rw [readExact, if_neg beyond]

end Scan

end KizunaLink.Lib
