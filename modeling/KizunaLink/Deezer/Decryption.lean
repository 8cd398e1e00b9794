import KizunaLink.Deezer.Reader

/-!
# What a Deezer track decrypts to

The reference plaintext decrypts each full chunk whose index is a multiple of three and
leaves all other bytes as they are.  The reader delivers it from every offset, however
the source splits its reads, as long as the rest behind the last full chunk is not in
the place of a chunk that is decrypted: such a rest is padded to a full chunk, decrypted,
and delivered with the padding.
-/

set_option autoImplicit false

namespace KizunaLink.Deezer

open KizunaLink.Lib List Option

/-! ## The reference plaintext -/

def plainBlock (crypt : DeezerCrypt) (index : Nat) (block : List UInt8) : List UInt8 :=
  if index % 3 = 0 then crypt.decrypt block else block

def plainFrom (crypt : DeezerCrypt) (first : Nat) (data : List UInt8) : List UInt8 :=
  (((blocks chunkSize data).zipIdx first).map fun numbered =>
    plainBlock crypt numbered.2 numbered.1).flatten ++ lastPart chunkSize data

def plaintext (crypt : DeezerCrypt) (data : List UInt8) : List UInt8 := plainFrom crypt 0 data

variable {pos : Nat} (first : Nat)

theorem chunkSize_pos : 0 < chunkSize := by decide

variable {crypt : DeezerCrypt} {data : List UInt8}

theorem length_plainBlock {block : List UInt8} (index : Nat) (full : block.length = chunkSize) :
    (plainBlock crypt index block).length = chunkSize := by
  unfold plainBlock
  split
  · exact crypt.length_decrypt block full
  · exact full

theorem decryptChunk_of_full {chunk : List UInt8} (index : Nat) (full : chunk.length = chunkSize) :
    crypt.decryptChunk index chunk = plainBlock crypt index chunk := by
  have padding : chunk.take chunkSize ++ List.replicate (chunkSize - chunk.length) 0 = chunk := by
    rw [full, Nat.sub_self, replicate_zero, append_nil, ← full, take_length]
  rw [DeezerCrypt.decryptChunk, plainBlock, padding]

theorem plainFrom_of_short (short : data.length < chunkSize) :
    plainFrom crypt first data = data := by
  rw [plainFrom, blocks_of_lt short, lastPart_of_lt short]
  rfl

theorem plainFrom_step (whole : chunkSize ≤ data.length) :
    plainFrom crypt first data =
      plainBlock crypt first (data.take chunkSize) ++
        plainFrom crypt (first + 1) (data.drop chunkSize) := by
  rw [plainFrom, blocks_step chunkSize_pos whole, lastPart_step chunkSize_pos whole, zipIdx_cons,
    map_cons, flatten_cons, append_assoc]
  rfl

theorem length_plainFrom : (plainFrom crypt first data).length = data.length := by
  induction data using blockInduction chunkSize_pos generalizing first with
  | short data short => rw [plainFrom_of_short first short]
  | step data whole ih =>
    rw [plainFrom_step first whole, length_append, ih,
      length_plainBlock first (length_take_of_le whole), length_drop]
    omega

theorem length_plaintext : (plaintext crypt data).length = data.length := length_plainFrom 0

theorem drop_plainFrom (first count : Nat) :
    (plainFrom crypt first data).drop (count * chunkSize) =
      plainFrom crypt (first + count) (data.drop (count * chunkSize)) := by
  induction count generalizing first data with
  | zero => simp
  | succ count ih =>
    rw [Nat.succ_mul, Nat.add_comm (count * chunkSize)]
    by_cases whole : chunkSize ≤ data.length
    · have size : (plainBlock crypt first (data.take chunkSize)).length = chunkSize :=
        length_plainBlock first (length_take_of_le whole)
      rw [plainFrom_step first whole, drop_append, drop_eq_nil_of_le (by omega), nil_append, size,
        Nat.add_sub_cancel_left, ih, drop_drop]
      congr 1
      omega
    · rw [drop_eq_nil_of_le (by rw [length_plainFrom]; omega),
        drop_eq_nil_of_le (by omega)]
      rfl

theorem drop_plaintext_aligned (aligned : chunkSize ∣ pos) :
    (plaintext crypt data).drop pos = plainFrom crypt (pos / chunkSize) (data.drop pos) := by
  obtain ⟨count, rfl⟩ := aligned
  rw [Nat.mul_comm, plaintext, drop_plainFrom, Nat.zero_add, Nat.mul_div_cancel _ chunkSize_pos]

theorem drop_plaintext_chunk (aligned : chunkSize ∣ pos) (whole : pos + chunkSize ≤ data.length) :
    (plaintext crypt data).drop pos =
      plainBlock crypt (pos / chunkSize) ((data.drop pos).take chunkSize) ++
        (plaintext crypt data).drop (pos + chunkSize) := by
  have next : (pos + chunkSize) / chunkSize = pos / chunkSize + 1 :=
    Nat.add_div_right pos chunkSize_pos
  rw [drop_plaintext_aligned aligned, plainFrom_step _ (by rw [length_drop]; omega),
    drop_plaintext_aligned ((Nat.dvd_add_right aligned).mpr (Nat.dvd_refl _)), next,
    drop_drop]

theorem drop_plaintext_last (aligned : chunkSize ∣ pos) (last : data.length < pos + chunkSize) :
    (plaintext crypt data).drop pos = data.drop pos := by
  rw [drop_plaintext_aligned aligned, plainFrom_of_short]
  rw [length_drop]
  have := chunkSize_pos
  omega

/-! ## What the reader still has to deliver -/

namespace DeezerReader

/-- The bytes that are left of the plaintext from `start` on are those that are ready, and the
plaintext from `pos` on, without those to be skipped. -/
structure Holds (crypt : DeezerCrypt) (data : List UInt8) (reader : DeezerReader) : Prop where
  source : reader.sourcePos = reader.pos + reader.rawBuf.length
  raw : reader.rawBuf <+: data.drop reader.pos
  aligned : chunkSize ∣ reader.pos ∨ data.length ≤ reader.pos
  placed : reader.readyBuf = [] ∨ reader.pos ≤ data.length
  behind : reader.readyBuf.length ≤ reader.pos
  bytes : (plaintext crypt data).drop reader.start =
    reader.delivered ++
      (reader.readyBuf ++ (plaintext crypt data).drop reader.pos).drop reader.skipPending

/-- Between two turns less than a chunk is raw, and a read that has returned no byte to a
buffer with room has reached the end of the plaintext. -/
structure Reads (crypt : DeezerCrypt) (data : List UInt8) (reader : DeezerReader) : Prop
    extends Holds crypt data reader where
  short : reader.rawBuf.length < chunkSize
  ended : ∀ size, reader.answer = some (.read size []) → 0 < size →
    reader.delivered = (plaintext crypt data).drop reader.start

variable (turns : Nat)

theorem reads_new : Reads crypt data {} where
  source := rfl
  raw := nil_prefix
  aligned := .inl (Nat.dvd_zero _)
  placed := .inl rfl
  behind := Nat.le_refl 0
  bytes := rfl
  short := chunkSize_pos
  ended size answered := by cases answered

variable {reader : DeezerReader}

theorem reads_restart (reader : DeezerReader) {alignedPos target : Nat}
    (aligned : chunkSize ∣ alignedPos) (before : alignedPos ≤ target) :
    Reads crypt data (reader.restart alignedPos target) where
  source := rfl
  raw := nil_prefix
  aligned := .inl aligned
  placed := .inl rfl
  behind := Nat.zero_le _
  bytes := by
    show (plaintext crypt data).drop target =
      [] ++ ([] ++ (plaintext crypt data).drop alignedPos).drop (target - alignedPos)
    rw [nil_append, nil_append, drop_drop, Nat.add_sub_cancel' before]
  short := chunkSize_pos
  ended size answered := by simp [restart] at answered

theorem Reads.reply (reads : Reads crypt data reader) {answer : Answer}
    (other : ∀ size, answer ≠ .read size []) :
    Reads crypt data { reader with answer := some answer } where
  toHolds := { reads.toHolds with }
  short := reads.short
  ended size answered := absurd (Option.some.inj answered) (other size)

theorem Reads.seek (reads : Reads crypt data reader) (whence : Whence) :
    Reads crypt data (reader.seek whence) := by
  cases whence with
  | start target =>
    exact reads_restart reader (Nat.dvd_mul_left _ _) (Nat.div_mul_le_self _ _)
  | current offset =>
    simp only [DeezerReader.seek]
    split
    · exact reads.reply (by simp)
    · exact reads.reply (by simp)
  | fromEnd offset => exact reads.reply (by simp)

theorem Holds.drainSkip (holds : Holds crypt data reader) : Holds crypt data reader.drainSkip := by
  unfold DeezerReader.drainSkip
  split
  · refine ⟨holds.source, holds.raw, holds.aligned, ?_, ?_, holds.bytes.trans ?_⟩
    · exact holds.placed.imp_left fun empty => by simp [empty]
    · exact (drop_suffix _ _).length_le.trans holds.behind
    have inside : min reader.skipPending reader.readyBuf.length ≤ reader.readyBuf.length := by omega
    have total : min reader.skipPending reader.readyBuf.length +
        (reader.skipPending - min reader.skipPending reader.readyBuf.length) =
          reader.skipPending := by omega
    show _ = reader.delivered ++
      (reader.readyBuf.drop _ ++ (plaintext crypt data).drop reader.pos).drop
        (reader.skipPending - min reader.skipPending reader.readyBuf.length)
    rw [← drop_append_of_le_length inside, drop_drop, total]
  · exact holds

theorem drainSkip_eq (reader : DeezerReader) :
    reader.drainSkip.readyBuf = [] ∨ reader.drainSkip.skipPending = 0 := by
  by_cases pending : 0 < reader.skipPending ∧ reader.readyBuf ≠ []
  · rw [drainSkip, if_pos pending]
    rcases Nat.le_total reader.readyBuf.length reader.skipPending with all | part
    · exact .inl (drop_eq_nil_of_le (by omega))
    · exact .inr (by show reader.skipPending - _ = 0; omega)
  · rw [drainSkip, if_neg pending]
    by_cases nothing : reader.readyBuf = []
    · exact .inl nothing
    · refine .inr (Nat.eq_zero_of_not_pos fun positive => pending ⟨positive, nothing⟩)

theorem Reads.drainSkip (reads : Reads crypt data reader) : Reads crypt data reader.drainSkip := by
  refine ⟨reads.toHolds.drainSkip, ?_, ?_⟩
  · unfold DeezerReader.drainSkip
    split <;> exact reads.short
  · unfold DeezerReader.drainSkip
    split <;> exact reads.ended

theorem Reads.supply (reads : Reads crypt data reader) (skipped : reader.skipPending = 0)
    (ready : reader.readyBuf ≠ []) (size : Nat) : Reads crypt data (reader.supply size) := by
  refine ⟨⟨reads.source, reads.raw, reads.aligned, reads.placed.imp_left fun empty => ?_, ?_,
    reads.bytes.trans ?_⟩, reads.short, ?_⟩
  · exact absurd empty ready
  · exact (drop_suffix _ _).length_le.trans reads.behind
  · show _ = (reader.delivered ++ reader.readyBuf.take _) ++
      (reader.readyBuf.drop _ ++ (plaintext crypt data).drop reader.pos).drop reader.skipPending
    rw [skipped, drop_zero, drop_zero, append_assoc, ← append_assoc (reader.readyBuf.take _),
      take_append_drop]
  · intro other answered positive
    have bytes : size = other ∧ reader.readyBuf.take (min size reader.readyBuf.length) = [] := by
      simpa [DeezerReader.supply] using answered
    have length : reader.readyBuf.length ≠ 0 := by simpa using ready
    have none := congrArg List.length bytes.2
    rw [length_take, length_nil] at none
    omega

theorem Holds.receive (holds : Holds crypt data reader) {count : Nat}
    (reads : SourceReads data reader.sourcePos count) :
    Holds crypt data (reader.receive data count) where
  source := by
    show reader.sourcePos + count =
      reader.pos + (reader.rawBuf ++ (data.drop reader.sourcePos).take count).length
    have fits := reads.2.1
    rw [length_append, length_take, length_drop, holds.source]
    rw [holds.source] at fits
    omega
  raw := by
    obtain ⟨rest, split⟩ := holds.raw
    have behind : data.drop reader.sourcePos = rest := by
      rw [holds.source, ← drop_drop, ← split, drop_left]
    show reader.rawBuf ++ (data.drop reader.sourcePos).take count <+: data.drop reader.pos
    rw [behind, ← split]
    exact (prefix_append_right_inj _).mpr (List.take_prefix _ _)
  aligned := holds.aligned
  placed := holds.placed
  behind := holds.behind
  bytes := holds.bytes

theorem Holds.takeChunk (holds : Holds crypt data reader)
    (full : chunkSize ≤ reader.rawBuf.length) : Holds crypt data (reader.takeChunk crypt) := by
  obtain ⟨rest, split⟩ := holds.raw
  have inside : reader.pos + chunkSize ≤ data.length := by
    have positive := chunkSize_pos
    have lengths := congrArg List.length split
    rw [length_append, length_drop] at lengths
    omega
  have aligned : chunkSize ∣ reader.pos := by
    have := chunkSize_pos
    exact holds.aligned.resolve_right (by omega)
  have chunk : (data.drop reader.pos).take chunkSize = reader.rawBuf.take chunkSize := by
    rw [← split, take_append_of_le_length full]
  have behind : data.drop (reader.pos + chunkSize) = reader.rawBuf.drop chunkSize ++ rest := by
    rw [← drop_drop, ← split, drop_append_of_le_length full]
  have length := length_take_of_le full
  have size : (plainBlock crypt (reader.pos / chunkSize) (reader.rawBuf.take chunkSize)).length =
      chunkSize := length_plainBlock _ length
  have decrypted : crypt.decryptChunk (reader.pos / chunkSize) (reader.rawBuf.take chunkSize) =
      plainBlock crypt (reader.pos / chunkSize) (reader.rawBuf.take chunkSize) :=
    decryptChunk_of_full _ length
  refine ⟨?_, ?_, .inl ((Nat.dvd_add_right aligned).mpr (Nat.dvd_refl _)), .inr inside, ?_,
    holds.bytes.trans ?_⟩
  · show reader.sourcePos = reader.pos + chunkSize + (reader.rawBuf.drop chunkSize).length
    rw [holds.source, length_drop]
    omega
  · show reader.rawBuf.drop chunkSize <+: data.drop (reader.pos + chunkSize)
    rw [behind]
    exact prefix_append _ _
  · show (reader.readyBuf ++ crypt.decryptChunk _ (reader.rawBuf.take chunkSize)).length ≤
      reader.pos + chunkSize
    rw [decrypted, length_append, size]
    exact Nat.add_le_add_right holds.behind _
  · show _ = reader.delivered ++ ((reader.readyBuf ++ crypt.decryptChunk _ _) ++
      (plaintext crypt data).drop (reader.pos + chunkSize)).drop reader.skipPending
    rw [decrypted, ← chunk, append_assoc, ← drop_plaintext_chunk aligned inside]

theorem Holds.takeFullChunks (holds : Holds crypt data reader) :
    Holds crypt data (takeFullChunks crypt turns reader) := by
  induction turns generalizing reader with
  | zero => exact holds
  | succ turns ih =>
    rw [takeFullChunks]
    split
    · rename_i full
      exact ih (holds.takeChunk full)
    · exact holds

theorem takeFullChunks_short (enough : reader.rawBuf.length ≤ turns) :
    (takeFullChunks crypt turns reader).rawBuf.length < chunkSize := by
  induction turns generalizing reader with
  | zero =>
    have := chunkSize_pos
    show reader.rawBuf.length < chunkSize
    omega
  | succ turns ih =>
    rw [takeFullChunks]
    split
    · apply ih
      have := chunkSize_pos
      show (reader.rawBuf.drop chunkSize).length ≤ turns
      rw [length_drop]
      omega
    · omega

theorem takeFullChunks_seen (reader : DeezerReader) :
    (takeFullChunks crypt turns reader).answer = reader.answer ∧
      (takeFullChunks crypt turns reader).delivered = reader.delivered ∧
      (takeFullChunks crypt turns reader).start = reader.start := by
  induction turns generalizing reader with
  | zero => exact ⟨rfl, rfl, rfl⟩
  | succ turns ih =>
    rw [takeFullChunks]
    split
    · exact ih (reader.takeChunk crypt)
    · exact ⟨rfl, rfl, rfl⟩

end DeezerReader

/-- Behind the full chunks there is nothing, or a rest in the place of a chunk that is not
decrypted. -/
def PlainRest (data : List UInt8) : Prop :=
  data.length % chunkSize = 0 ∨ data.length / chunkSize % 3 ≠ 0

instance (data : List UInt8) : Decidable (PlainRest data) := inferInstanceAs (Decidable (_ ∨ _))

namespace DeezerReader

variable {reader : DeezerReader}

variable {next : DeezerReader}

section

variable (reads : Reads crypt data reader)
include reads

theorem Reads.takeLeftovers (plain : PlainRest data)
    (some : reader.rawBuf ≠ []) (ended : data.length ≤ reader.sourcePos) :
    Reads crypt data (reader.takeLeftovers crypt) := by
  obtain ⟨rest, split⟩ := reads.raw
  have positive : 0 < reader.rawBuf.length := length_pos_iff.mpr some
  have lengths := congrArg List.length split
  rw [length_append, length_drop] at lengths
  have source := reads.source
  have last : reader.pos + reader.rawBuf.length = data.length := by omega
  have aligned : chunkSize ∣ reader.pos := reads.aligned.resolve_right (by omega)
  have whole : data.drop reader.pos = reader.rawBuf := by
    rw [← split, length_eq_zero_iff.mp (by omega : rest.length = 0), append_nil]
  have short := reads.short
  -- the rest is not in the place of a chunk that is decrypted
  have index : reader.pos / chunkSize % 3 ≠ 0 := by
    obtain ⟨count, pos_eq⟩ := aligned
    have size : data.length = chunkSize * count + reader.rawBuf.length := by omega
    have number : data.length / chunkSize = count := by
      rw [size, Nat.mul_add_div chunkSize_pos, Nat.div_eq_of_lt short, Nat.add_zero]
    have behind : data.length % chunkSize = reader.rawBuf.length := by
      rw [size, Nat.mul_add_mod, Nat.mod_eq_of_lt short]
    rw [pos_eq, Nat.mul_div_cancel_left _ chunkSize_pos, ← number]
    exact plain.resolve_left (by omega)
  have left : crypt.decryptChunk (reader.pos / chunkSize) reader.rawBuf = reader.rawBuf := by
    rw [DeezerCrypt.decryptChunk, if_neg index]
  have tail : (plaintext crypt data).drop reader.pos = reader.rawBuf := by
    rw [drop_plaintext_last aligned (by omega), whole]
  refine ⟨⟨?_, nil_prefix, .inr ?_, .inr ?_, ?_, reads.bytes.trans ?_⟩, chunkSize_pos,
    reads.ended⟩
  · exact source
  · exact last.ge
  · exact last.le
  · show (reader.readyBuf ++ crypt.decryptChunk _ reader.rawBuf).length ≤
      reader.pos + reader.rawBuf.length
    rw [left, length_append]
    exact Nat.add_le_add_right reads.behind _
  · show _ = reader.delivered ++ ((reader.readyBuf ++ crypt.decryptChunk _ _) ++
      (plaintext crypt data).drop (reader.pos + reader.rawBuf.length)).drop reader.skipPending
    have done : (plaintext crypt data).drop data.length = [] :=
      drop_eq_nil_of_le (by rw [length_plaintext])
    rw [left, tail, last, done, append_nil]

theorem Reads.fetch (plain : PlainRest data) {size count : Nat}
    (empty : reader.readyBuf = []) (given : SourceReads data reader.sourcePos count) :
    Reads crypt data (reader.fetch crypt data size count) := by
  unfold DeezerReader.fetch
  split
  · rename_i none
    have ended : data.length ≤ reader.sourcePos := given.2.2 none
    split
    · rename_i nothing
      refine ⟨{ reads.toHolds with }, reads.short, ?_⟩
      intro _ _ _
      have source := reads.source
      rw [nothing, length_nil, Nat.add_zero] at source
      have done : (plaintext crypt data).drop reader.pos = [] :=
        drop_eq_nil_of_le (by rw [length_plaintext, ← source]; exact ended)
      have bytes := reads.bytes
      rw [empty, done, nil_append, drop_nil, append_nil] at bytes
      exact bytes.symm
    · rename_i some
      exact reads.takeLeftovers plain some ended
  · have seen := @takeFullChunks_seen crypt
      (reader.receive data count).rawBuf.length (reader.receive data count)
    refine ⟨(reads.toHolds.receive given).takeFullChunks _, takeFullChunks_short _ le_rfl, ?_⟩
    rw [seen.1, seen.2.1, seen.2.2]
    exact reads.ended

theorem Reads.turn (plain : PlainRest data) {size count : Nat}
    (turned : reader.turn crypt data size count = some next) : Reads crypt data next := by
  have skipped := reads.drainSkip
  simp only [DeezerReader.turn] at turned
  split at turned
  · rename_i ready
    cases turned
    exact skipped.supply ready.1 ready.2 size
  · rename_i waits
    obtain ⟨given, ⟨⟩⟩ := ite_none_right_eq_some.mp turned
    have empty : reader.drainSkip.readyBuf = [] := by
      rcases reader.drainSkip_eq with empty | none
      · exact empty
      · by_contra some
        exact waits ⟨none, some⟩
    exact skipped.fetch plain empty given

theorem Reads.failTurn (failed : reader.failTurn = some next) : Reads crypt data next := by
  obtain ⟨-, ⟨⟩⟩ := ite_none_left_eq_some.mp failed
  have skipped := reads.drainSkip
  exact ⟨{ skipped.toHolds with }, skipped.short,
    fun size answered => by simp at answered⟩

theorem Reads.step (plain : PlainRest data) (act : ReaderAct)
    (stepped : reader.step crypt data act = some next) : Reads crypt data next := by
  cases act with
  | read size =>
    obtain ⟨-, ⟨⟩⟩ := ite_none_right_eq_some.mp stepped
    exact ⟨{ reads.toHolds with }, reads.short, reads.ended⟩
  | turn count =>
    obtain ⟨size, -, turned⟩ := bind_eq_some_iff.mp stepped
    exact reads.turn plain turned
  | failTurn =>
    obtain ⟨size, -, failed⟩ := bind_eq_some_iff.mp stepped
    exact reads.failTurn failed
  | seek whence =>
    obtain ⟨-, ⟨⟩⟩ := ite_none_right_eq_some.mp stepped
    exact reads.seek whence

end

end DeezerReader

theorem run_reads {acts : List ReaderAct} {reader : DeezerReader} (plain : PlainRest data)
    (ran : (readerSystem crypt data).run {} acts = some reader) : reader.Reads crypt data :=
  (readerSystem crypt data).run_invariant_of_step (DeezerReader.Reads crypt data)
    (fun reads stepped => reads.step plain _ stepped) acts DeezerReader.reads_new ran

theorem length_decryptChunk_of_index {index : Nat} {chunk : List UInt8}
    (decrypted : index % 3 = 0) (fits : chunk.length ≤ chunkSize) :
    (crypt.decryptChunk index chunk).length = chunkSize := by
  rw [DeezerCrypt.decryptChunk, if_pos decrypted]
  apply crypt.length_decrypt
  rw [length_append, take_of_length_le fits, length_replicate]
  omega

namespace DeezerReader

variable {reader : DeezerReader}

theorem drainSkip_of_zero (skipped : reader.skipPending = 0) : reader.drainSkip = reader :=
  if_neg fun pending => by simp [skipped] at pending

theorem turn_of_ready (skipped : reader.skipPending = 0) (ready : reader.readyBuf ≠ [])
    (size count : Nat) : reader.turn crypt data size count = some (reader.supply size) := by
  simp only [turn, drainSkip_of_zero skipped]
  exact if_pos ⟨skipped, ready⟩

theorem turn_of_empty (skipped : reader.skipPending = 0) (empty : reader.readyBuf = [])
    {count : Nat} (given : SourceReads data reader.sourcePos count) (size : Nat) :
    reader.turn crypt data size count = some (reader.fetch crypt data size count) := by
  simp only [turn, drainSkip_of_zero skipped]
  rw [if_neg (by simp [empty]), if_pos given]

theorem fetch_short {count : Nat} (present : count ≠ 0)
    (short : (reader.receive data count).rawBuf.length < chunkSize) (size : Nat) :
    reader.fetch crypt data size count = reader.receive data count := by
  rw [fetch, if_neg present]
  show takeFullChunks crypt (reader.receive data count).rawBuf.length _ = _
  cases (reader.receive data count).rawBuf.length with
  | zero => rfl
  | succ turns => rw [takeFullChunks, if_neg (by omega)]

theorem fetch_at_end (present : reader.rawBuf ≠ []) (size : Nat) :
    reader.fetch crypt data size 0 = reader.takeLeftovers crypt := by
  rw [fetch, if_pos rfl, if_neg present]

end DeezerReader

open DeezerReader

/-- The rest behind the full chunks is read from its start. -/
def readRest (data : List UInt8) : List ReaderAct :=
  [.seek (.start (data.length / chunkSize * chunkSize)), .read chunkSize,
    .turn (data.length % chunkSize), .turn 0, .turn 0]

theorem readRest_delivers_full_chunk (padded : ¬ PlainRest data) :
    ∃ reader, (readerSystem crypt data).run {} (readRest data) = some reader ∧
      reader.start = data.length / chunkSize * chunkSize ∧
      reader.delivered.length = chunkSize := by
  obtain ⟨present, index⟩ : data.length % chunkSize ≠ 0 ∧ data.length / chunkSize % 3 = 0 := by
    simpa [PlainRest] using padded
  have less : data.length % chunkSize < chunkSize := Nat.mod_lt _ chunkSize_pos
  have total : data.length / chunkSize * chunkSize + data.length % chunkSize = data.length := by
    rw [Nat.mul_comm]
    exact Nat.div_add_mod _ _
  have again : data.length / chunkSize * chunkSize / chunkSize = data.length / chunkSize :=
    Nat.mul_div_cancel _ chunkSize_pos
  rw [readRest]
  generalize data.length % chunkSize = count at present less total
  generalize first_eq : data.length / chunkSize * chunkSize = first at total again
  rw [← again] at index
  have raw_length : ((data.drop first).take count).length = count := by
    rw [length_take, length_drop]
    omega
  -- the state after each step
  let sought : DeezerReader := restart {} first first
  let asked : DeezerReader := { sought with reading := some chunkSize }
  let received : DeezerReader := asked.receive data count
  let decrypted : DeezerReader := received.takeLeftovers crypt
  have seek_step : step crypt data {} (.seek (.start first)) = some sought := by
    show some (restart {} (first / chunkSize * chunkSize) first) = _
    rw [again, first_eq]
  have ask_step : step crypt data sought (.read chunkSize) = some asked := rfl
  have skipped : asked.skipPending = 0 := Nat.sub_self first
  have read_step : step crypt data asked (.turn count) = some received := by
    show asked.turn crypt data chunkSize count = _
    rw [turn_of_empty skipped rfl
      ⟨less.le, (show count ≤ data.length - first by omega), fun none => absurd none present⟩]
    exact congrArg _ (fetch_short present (by
      show ([] ++ (data.drop first).take count).length < chunkSize
      rw [nil_append, raw_length]
      exact less) _)
  have end_step : step crypt data received (.turn 0) = some decrypted := by
    show received.turn crypt data chunkSize 0 = _
    have still : received.skipPending = 0 := skipped
    rw [turn_of_empty still rfl
      ⟨Nat.zero_le _, Nat.zero_le _, fun _ => (show data.length ≤ first + count by omega)⟩]
    refine congrArg _ (fetch_at_end (ne_nil_of_length_pos ?_) _)
    show 0 < ([] ++ (data.drop first).take count).length
    rw [nil_append, raw_length]
    omega
  have ready_length : decrypted.readyBuf.length = chunkSize := by
    show ([] ++ crypt.decryptChunk (first / chunkSize) ([] ++ (data.drop first).take count)).length
      = chunkSize
    rw [nil_append, nil_append,
      length_decryptChunk_of_index index (by rw [raw_length]; exact less.le)]
  have supply_step : step crypt data decrypted (.turn 0) =
      some (decrypted.supply chunkSize) := by
    show decrypted.turn crypt data chunkSize 0 = _
    have ready : decrypted.readyBuf ≠ [] :=
      ne_nil_of_length_pos (by rw [ready_length]; exact chunkSize_pos)
    exact turn_of_ready (show decrypted.skipPending = 0 from skipped) ready _ _
  refine ⟨decrypted.supply chunkSize, ?_, rfl, ?_⟩
  · rw [System.run_cons_of_step _ _ seek_step, System.run_cons_of_step _ _ ask_step,
      System.run_cons_of_step _ _ read_step, System.run_cons_of_step _ _ end_step,
      System.run_cons_of_step _ _ supply_step]
    rfl
  · show ([] ++ decrypted.readyBuf.take (min chunkSize decrypted.readyBuf.length)).length = _
    rw [nil_append, ready_length, Nat.min_self, length_take, ready_length, Nat.min_self]

/-- What was delivered since the last seek are bytes of the plaintext from its target on, and
all of them once a read into a buffer with room has returned nothing. -/
def Delivers (crypt : DeezerCrypt) (data : List UInt8) (reader : DeezerReader) : Prop :=
  reader.delivered <+: (plaintext crypt data).drop reader.start ∧
    ∀ size, reader.answer = some (.read size []) → 0 < size →
      reader.delivered = (plaintext crypt data).drop reader.start

theorem DeezerReader.Reads.delivers {reader : DeezerReader} (reads : reader.Reads crypt data) :
    Delivers crypt data reader := by
  refine ⟨?_, reads.ended⟩
  rw [reads.bytes]
  exact prefix_append _ _

/-- Every sequence of reads and seeks delivers the plaintext, however the source splits its reads,
exactly when the rest behind the full chunks is empty or in the place of a chunk that is not
decrypted. -/
theorem delivers_plaintext_iff (crypt : DeezerCrypt) (data : List UInt8) :
    (plaintext crypt data).length = data.length ∧
    ((∀ acts reader, (readerSystem crypt data).run {} acts = some reader →
      Delivers crypt data reader) ↔ PlainRest data) := by
  refine ⟨length_plaintext, fun delivers => ?_, fun plain acts reader ran => ?_⟩
  · by_contra padded
    obtain ⟨reader, ran, start, size⟩ := @readRest_delivers_full_chunk crypt data padded
    have fits := (delivers _ reader ran).1.length_le
    have behind := Nat.div_add_mod data.length chunkSize
    have less := Nat.mod_lt data.length chunkSize_pos
    rw [size, start, length_drop, length_plaintext, Nat.mul_comm] at fits
    omega
  · exact (run_reads plain ran).delivers

/-- A cipher that adds one to each byte. -/
def shiftCrypt : DeezerCrypt where
  decrypt buffer := buffer.map (· + 1)
  length_decrypt buffer full := by rw [length_map, full]

/-- One byte behind the first chunk is delivered as it is. -/
theorem rest_delivered : ∃ reader,
    (readerSystem shiftCrypt (List.replicate 2049 1)).run {}
      [.seek (.start 2048), .read 4, .turn 1, .turn 0, .turn 0] = some reader ∧
    reader.delivered = [1] ∧ Delivers shiftCrypt (List.replicate 2049 1) reader := by
  have view : ((readerSystem shiftCrypt (List.replicate 2049 1)).run {}
      [.seek (.start 2048), .read 4, .turn 1, .turn 0, .turn 0]).map (·.delivered) = some [1] := by
    decide +kernel
  obtain ⟨reader, ran, bytes⟩ := map_eq_some_iff.mp view
  exact ⟨reader, ran, bytes,
    (delivers_plaintext_iff shiftCrypt _).2.mpr (by decide +kernel) _ reader ran⟩

/-- A source of one byte is delivered as 2048 bytes. -/
theorem one_byte_padded :
    ((readerSystem shiftCrypt [7]).run {} [.read 4096, .turn 1, .turn 0, .turn 0]).map
      (fun reader => (reader.start, reader.delivered.take 2, reader.delivered.length)) =
        some (0, [8, 1], 2048) ∧
    plaintext shiftCrypt [7] = [7] := by
  constructor
  · decide +kernel
  · decide +kernel

end KizunaLink.Deezer
