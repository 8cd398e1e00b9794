import KizunaLink.Deezer.Decryption

/-!
# The position that the reader reports

`seek(SeekFrom::Current(0))` takes the bytes that are ready and the raw ones off the
position behind the ready bytes.  But the raw bytes are not before that position, and
what a seek still has to skip is not counted.  So the report is right when neither is
there, and otherwise before the byte that the next read returns.
-/

set_option autoImplicit false

namespace KizunaLink.Deezer

open KizunaLink.Lib List Option

variable {crypt : DeezerCrypt} {data : List UInt8}

namespace DeezerReader

def offset (reader : DeezerReader) : Nat := reader.start + reader.delivered.length

theorem Reads.offset_eq {reader : DeezerReader} (reads : reader.Reads crypt data)
    (more : reader.offset < data.length) :
    reader.offset + reader.readyBuf.length = reader.pos + reader.skipPending := by
  have lengths := congrArg List.length reads.bytes
  simp only [length_append, length_drop, length_plaintext] at lengths
  rw [offset] at more ⊢
  rcases reads.placed with empty | inside
  · rw [empty, length_nil] at lengths ⊢
    omega
  · omega

theorem Reads.reported_eq_offset_iff {reader : DeezerReader} (reads : reader.Reads crypt data)
    (more : reader.offset < data.length) :
    reader.reported = reader.offset ↔
      reader.skipPending = 0 ∧ (reader.rawBuf = [] ∨ reader.pos = reader.readyBuf.length) := by
  have place := reads.offset_eq more
  have behind := reads.behind
  rw [reported, ← length_eq_zero_iff]
  omega

def setAnswer (reader : DeezerReader) (answer : Option Answer) : DeezerReader :=
  { reader with answer }

def unanswered (reader : DeezerReader) : DeezerReader := reader.setAnswer none

theorem eq_setAnswer_of_unanswered {reader other : DeezerReader}
    (same : reader.unanswered = other.unanswered) : reader = other.setAnswer reader.answer := by
  cases reader
  cases other
  simpa [unanswered, setAnswer] using same

variable (reader : DeezerReader) (answer : Option Answer)

theorem drainSkip_setAnswer :
    (reader.setAnswer answer).drainSkip = reader.drainSkip.setAnswer answer := by
  by_cases pending : 0 < reader.skipPending ∧ reader.readyBuf ≠ []
  · rw [drainSkip, drainSkip, if_pos pending]
    exact if_pos pending
  · rw [drainSkip, drainSkip, if_neg pending]
    exact if_neg pending

theorem takeFullChunks_setAnswer (turns : Nat) (reader : DeezerReader) :
    takeFullChunks crypt turns (reader.setAnswer answer) =
      (takeFullChunks crypt turns reader).setAnswer answer := by
  induction turns generalizing reader with
  | zero => rfl
  | succ turns ih =>
    by_cases full : chunkSize ≤ reader.rawBuf.length
    · rw [takeFullChunks, takeFullChunks, if_pos full]
      exact (if_pos full).trans (ih (reader.takeChunk crypt))
    · rw [takeFullChunks, takeFullChunks, if_neg full]
      exact if_neg full

theorem fetch_setAnswer (size count : Nat) :
    ((reader.setAnswer answer).fetch crypt data size count).unanswered =
      (reader.fetch crypt data size count).unanswered := by
  by_cases none : count = 0
  · rw [fetch, fetch, if_pos none, if_pos none]
    show unanswered (if reader.rawBuf = [] then _ else _) = _
    split <;> rfl
  · rw [fetch, fetch, if_neg none, if_neg none]
    show (takeFullChunks crypt _ ((reader.receive data count).setAnswer answer)).unanswered = _
    rw [takeFullChunks_setAnswer]
    rfl

theorem turn_setAnswer (size count : Nat) :
    ((reader.setAnswer answer).turn crypt data size count).map unanswered =
      (reader.turn crypt data size count).map unanswered := by
  simp only [turn, drainSkip_setAnswer]
  generalize reader.drainSkip = skipped
  show Option.map unanswered (if skipped.skipPending = 0 ∧ skipped.readyBuf ≠ [] then _
    else if SourceReads data skipped.sourcePos count then _ else _) = _
  split
  · rfl
  · split
    · exact congrArg some (skipped.fetch_setAnswer answer size count)
    · rfl

theorem failTurn_setAnswer :
    ((reader.setAnswer answer).failTurn).map unanswered = (reader.failTurn).map unanswered := by
  simp only [failTurn, drainSkip_setAnswer]
  generalize reader.drainSkip = skipped
  show Option.map unanswered (if skipped.skipPending = 0 ∧ skipped.readyBuf ≠ [] then _
    else _) = _
  split <;> rfl

theorem seek_setAnswer (whence : Whence) :
    ((reader.setAnswer answer).seek whence).unanswered = (reader.seek whence).unanswered := by
  cases whence with
  | start _ | fromEnd _ => rfl
  | current offset =>
    simp only [seek]
    split <;> rfl

theorem step_setAnswer (act : ReaderAct) :
    ((reader.setAnswer answer).step crypt data act).map unanswered =
      (reader.step crypt data act).map unanswered := by
  have also : (reader.setAnswer answer).reading = reader.reading := rfl
  cases act with
  | read size =>
    rw [step, step]
    by_cases idle : reader.reading = none
    · rw [if_pos idle, if_pos (also.trans idle)]
      rfl
    · rw [if_neg idle, if_neg (also ▸ idle)]
  | turn count =>
    rw [step, step, also]
    cases reader.reading with
    | none => rfl
    | some size => exact reader.turn_setAnswer answer size count
  | failTurn =>
    rw [step, step, also]
    cases reader.reading with
    | none => rfl
    | some size => exact reader.failTurn_setAnswer answer
  | seek whence =>
    rw [step, step]
    by_cases idle : reader.reading = none
    · rw [if_pos idle, if_pos (also.trans idle)]
      exact congrArg some (reader.seek_setAnswer answer whence)
    · rw [if_neg idle, if_neg (also ▸ idle)]

end DeezerReader

theorem run_unanswered (acts : List ReaderAct) {reader other : DeezerReader}
    (same : reader.unanswered = other.unanswered) :
    ((readerSystem crypt data).run reader acts).map DeezerReader.unanswered =
      ((readerSystem crypt data).run other acts).map DeezerReader.unanswered := by
  refine (readerSystem crypt data).run_view_eq DeezerReader.unanswered ?_ acts same
  intro first second act alike
  rw [DeezerReader.eq_setAnswer_of_unanswered alike]
  exact second.step_setAnswer first.answer act

theorem DeezerReader.step_extends {reader next : DeezerReader} {act : ReaderAct}
    (stays : ∀ target, act ≠ .seek (.start target))
    (stepped : reader.step crypt data act = some next) :
    next.start = reader.start ∧ reader.delivered <+: next.delivered := by
  have skip : reader.drainSkip.start = reader.start ∧
      reader.drainSkip.delivered = reader.delivered := by
    unfold drainSkip
    split <;> exact ⟨rfl, rfl⟩
  cases act with
  | read size =>
    obtain ⟨-, ⟨⟩⟩ := ite_none_right_eq_some.mp stepped
    exact ⟨rfl, prefix_rfl⟩
  | turn count =>
    obtain ⟨size, -, turned⟩ := bind_eq_some_iff.mp stepped
    simp only [turn] at turned
    split at turned
    · cases turned
      exact ⟨skip.1, skip.2 ▸ prefix_append _ _⟩
    · obtain ⟨-, ⟨⟩⟩ := ite_none_right_eq_some.mp turned
      unfold fetch
      split
      · split
        · exact ⟨skip.1, skip.2 ▸ prefix_rfl⟩
        · exact ⟨skip.1, skip.2 ▸ prefix_rfl⟩
      · have seen := @takeFullChunks_seen crypt (reader.drainSkip.receive data count).rawBuf.length
          (reader.drainSkip.receive data count)
        rw [seen.2.1, seen.2.2]
        exact ⟨skip.1, skip.2 ▸ prefix_rfl⟩
  | failTurn =>
    obtain ⟨size, -, failed⟩ := bind_eq_some_iff.mp stepped
    obtain ⟨-, ⟨⟩⟩ := ite_none_left_eq_some.mp failed
    exact ⟨skip.1, skip.2 ▸ prefix_rfl⟩
  | seek whence =>
    obtain ⟨-, ⟨⟩⟩ := ite_none_right_eq_some.mp stepped
    cases whence with
    | start target => exact absurd rfl (stays target)
    | current offset =>
      simp only [seek]
      split <;> exact ⟨rfl, prefix_rfl⟩
    | fromEnd offset => exact ⟨rfl, prefix_rfl⟩

theorem run_extends {acts : List ReaderAct} {reader next : DeezerReader}
    (stays : ∀ act ∈ acts, ∀ target, act ≠ .seek (.start target))
    (ran : (readerSystem crypt data).run reader acts = some next) :
    next.start = reader.start ∧ reader.delivered <+: next.delivered := by
  refine (readerSystem crypt data).run_invariant_of_forall
    (fun state => state.start = reader.start ∧ reader.delivered <+: state.delivered) ?_ acts
    stays ⟨rfl, prefix_rfl⟩ ran
  intro state act after holds stays stepped
  have more := DeezerReader.step_extends stays stepped
  exact ⟨more.1.trans holds.1, holds.2.trans more.2⟩

/-- What reads deliver next is the plaintext from `offset` on; the reader reports that offset
exactly when it has nothing to skip and no raw bytes (or nothing was taken from the start of
the track); and to ask changes nothing of what is delivered. -/
theorem position_reported_iff {acts : List ReaderAct} {reader : DeezerReader}
    (plain : PlainRest data) (ran : (readerSystem crypt data).run {} acts = some reader)
    (more : reader.offset < data.length) :
    (∀ later next, (∀ act ∈ later, ∀ target, act ≠ .seek (.start target)) →
      (readerSystem crypt data).run reader later = some next →
      ∃ bytes, next.delivered = reader.delivered ++ bytes ∧
        bytes <+: (plaintext crypt data).drop reader.offset) ∧
    ((reader.seek (.current 0)).answer = some (.position reader.offset) ↔
      reader.skipPending = 0 ∧ (reader.rawBuf = [] ∨ reader.pos = reader.readyBuf.length)) ∧
    ∀ later,
      ((readerSystem crypt data).run (reader.seek (.current 0)) later).map
          (fun next => (next.start, next.delivered)) =
        ((readerSystem crypt data).run reader later).map
          (fun next => (next.start, next.delivered)) := by
  have reads := run_reads plain ran
  refine ⟨?_, ?_, ?_⟩
  · intro later next stays continues
    obtain ⟨start, bytes, split⟩ := run_extends stays continues
    have all : (readerSystem crypt data).run {} (acts ++ later) = some next := by
      exact ((readerSystem crypt data).run_append acts later {} reader ran).trans continues
    refine ⟨bytes, split.symm, ?_⟩
    obtain ⟨rest, whole⟩ := (run_reads plain all).delivers.1
    refine ⟨rest, ?_⟩
    rw [DeezerReader.offset, ← drop_drop, ← start, ← whole, ← split, append_assoc, drop_left]
  · rw [← reads.reported_eq_offset_iff more]
    show some (Answer.position reader.reported) = some (.position reader.offset) ↔ _
    simp
  · intro later
    have same := @run_unanswered crypt data later (reader.seek (.current 0)) reader rfl
    have seen := congrArg (Option.map fun next => (next.start, next.delivered)) same
    simpa [Option.map_map, Function.comp_def, DeezerReader.unanswered, DeezerReader.setAnswer]
      using seen

/-- A full chunk was read; half of it was delivered. -/
theorem position_after_read : ∃ reader,
    (readerSystem shiftCrypt (List.replicate 4096 1)).run {}
      [.read 1024, .turn 2048, .turn 0] = some reader ∧
    (reader.seek (.current 0)).answer = some (.position 1024) := by
  have view : ((readerSystem shiftCrypt (List.replicate 4096 1)).run {}
      [.read 1024, .turn 2048, .turn 0]).map
        (fun reader => (reader.offset, reader.skipPending, reader.rawBuf)) =
          some (1024, 0, []) := by
    decide +kernel
  obtain ⟨reader, ran, seen⟩ := map_eq_some_iff.mp view
  obtain ⟨offset, skipped, empty⟩ : reader.offset = 1024 ∧ reader.skipPending = 0 ∧
      reader.rawBuf = [] := by
    simpa using seen
  have exact_iff := position_reported_iff (by decide +kernel) ran
    (by rw [offset, length_replicate]; decide)
  exact ⟨reader, ran, offset ▸ exact_iff.2.1.mpr ⟨skipped, .inl empty⟩⟩

/-- After a seek to offset 5 the reader reports offset 0, and the next read returns the byte at
offset 5. -/
theorem skip_not_counted :
    ((readerSystem shiftCrypt ((List.range 2048).map UInt8.ofNat)).run {}
      [.seek (.start 5), .seek (.current 0)]).map (fun reader => (reader.offset, reader.answer)) =
        some (5, some (.position 0)) ∧
    ((readerSystem shiftCrypt ((List.range 2048).map UInt8.ofNat)).run {}
      [.seek (.start 5), .seek (.current 0), .read 1, .turn 2048, .turn 0]).map
        (fun reader => reader.delivered) =
        some (((plaintext shiftCrypt ((List.range 2048).map UInt8.ofNat)).drop 5).take 1) := by
  constructor
  · decide +kernel
  · decide +kernel

end KizunaLink.Deezer
