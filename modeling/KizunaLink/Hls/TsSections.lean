import KizunaLink.Hls.TsSafety

/-!
# Program tables

The sections of a transport stream that name its parts: the program association
table (PAT) lists the programs with the PIDs of their maps, and a program map table
(PMT) lists the elementary streams of a program.  A section ends with a checksum of
four bytes, and stuffing may follow it in its packet.

The map is read as it is written.  In the association table the end of the entries is
computed four bytes too late, so when no entry names a program, the checksum is read
as one more entry.
-/

set_option autoImplicit false

namespace KizunaLink.Hls

open KizunaLink.Lib List

def highByte (bits reserved value : Nat) : UInt8 := UInt8.ofNat (reserved * 2 ^ bits + value / 256)

def lowByte (value : Nat) : UInt8 := UInt8.ofNat (value % 256)

/-- Two bytes, of which the first has `bits` bits of the number below its reserved bits. -/
def packed (bits reserved value : Nat) : Bytes := [highByte bits reserved value, lowByte value]

theorem masked_eq (bits : Nat) (high low : UInt8) :
    masked (2 ^ bits - 1) high low = high.toNat % 2 ^ bits * 256 + low.toNat := by
  have small : low.toNat < 2 ^ 8 := low.toNat_lt
  rw [masked, Nat.and_two_pow_sub_one_eq_mod, ← Nat.shiftLeft_add_eq_or_of_lt small,
    Nat.shiftLeft_eq]

theorem masked_packed {bits value : Nat} (reserved : Nat) (narrow : bits ≤ 8)
    (fits : value < 2 ^ bits * 256) :
    masked (2 ^ bits - 1) (highByte bits reserved value) (lowByte value) = value := by
  have divides : 2 ^ bits ∣ 2 ^ 8 := Nat.pow_dvd_pow 2 narrow
  have top : value / 256 < 2 ^ bits := Nat.div_lt_of_lt_mul (by rwa [Nat.mul_comm] at fits)
  have high : (highByte bits reserved value).toNat % 2 ^ bits = value / 256 := by
    rw [highByte, UInt8.toNat_ofNat', Nat.mod_mod_of_dvd _ divides, Nat.add_comm,
      Nat.add_mul_mod_self_right, Nat.mod_eq_of_lt top]
  have low : (lowByte value).toNat = value % 256 := by
    rw [lowByte, UInt8.toNat_ofNat', Nat.mod_mod]
  rw [masked_eq, high, low]
  omega

/-- Thirteen bits of a packet identifier and sixteen of a program number: one instance each for
the numerals of both types. -/
instance neZero_pids : NeZero 8192 := ⟨by decide⟩

instance neZero_numbers : NeZero 65536 := ⟨by decide⟩

theorem masked_pid (reserved : Nat) (pid : Fin 8192) :
    masked 0x1F (highByte 5 reserved pid) (lowByte pid) = pid :=
  masked_packed reserved (by decide) pid.isLt

theorem masked_length (reserved : Nat) {length : Nat} (fits : length < 4096) :
    masked 0x0F (highByte 4 reserved length) (lowByte length) = length :=
  masked_packed reserved (by decide) fits

theorem joined_eq (value : Fin 65536) :
    ((highByte 8 0 value).toNat <<< 8) ||| (lowByte value).toNat = value := by
  have small : (lowByte value).toNat < 2 ^ 8 := (lowByte value).toNat_lt
  have bound := value.isLt
  rw [← Nat.shiftLeft_add_eq_or_of_lt small, Nat.shiftLeft_eq, highByte, lowByte,
    UInt8.toNat_ofNat', UInt8.toNat_ofNat']
  omega

/-- A section behind a pointer field and the end of an earlier section, with what follows. -/
def pointed (skipped data : Bytes) : Bytes := UInt8.ofNat skipped.length :: (skipped ++ data)

theorem sectionData_pointed {skipped data : Bytes} (short : skipped.length < 256)
    (nonempty : 0 < data.length) : sectionData (pointed skipped data) true = .ok (some data) := by
  have pointer : (UInt8.ofNat skipped.length).toNat = skipped.length := by
    rw [UInt8.toNat_ofNat', Nat.mod_eq_of_lt short]
  have first : index (pointed skipped data) 0 = .ok (UInt8.ofNat skipped.length) := rfl
  have length : (pointed skipped data).length = 1 + skipped.length + data.length := by
    simp only [pointed, length_cons, length_append]
    omega
  have behind : (pointed skipped data).drop (1 + skipped.length) = data := by
    rw [pointed, Nat.add_comm, drop_succ_cons, drop_left]
  have present : (true && !(pointed skipped data).isEmpty) = true := rfl
  rw [sectionData, if_pos present, first, ok_bind, pointer]
  dsimp only
  rw [if_neg (by omega), sliceFrom_ok (by omega), behind]
  rfl

/-! ## The program association table -/

structure PatEntry where
  programNumber : Fin 65536
  reserved : Nat
  pid : Fin 8192

def PatEntry.bytes (entry : PatEntry) : Bytes :=
  packed 8 0 entry.programNumber ++ packed 5 entry.reserved entry.pid

/-- The checksum is any four bytes: nothing here computes it. -/
structure Crc where
  first : UInt8
  second : UInt8
  third : UInt8
  fourth : UInt8
  deriving DecidableEq

def Crc.bytes (crc : Crc) : Bytes := [crc.first, crc.second, crc.third, crc.fourth]

/-- `reserved` are the syntax bits above the length. -/
structure PatSection where
  reserved : Nat
  transportStreamId : Fin 65536
  version : UInt8
  sectionNumber : UInt8
  lastSectionNumber : UInt8
  entries : List PatEntry
  crc : Crc
  fits : 9 + 4 * entries.length < 4096

namespace PatSection

variable (table : PatSection)

def sectionLength : Nat := 9 + 4 * table.entries.length

def header : Bytes :=
  0x00 :: (packed 4 table.reserved table.sectionLength ++ packed 8 0 table.transportStreamId ++
    [table.version, table.sectionNumber, table.lastSectionNumber])

def bytes : Bytes := table.header ++ (table.entries.flatMap PatEntry.bytes ++ table.crc.bytes)

end PatSection

variable (entries : List PatEntry)

def firstProgram : Option Nat :=
  (entries.find? fun entry => entry.programNumber ≠ 0).map fun entry => (entry.pid : Nat)

/-- The checksum read as an entry. -/
def Crc.asProgram (crc : Crc) : Option Nat :=
  if (crc.first.toNat <<< 8) ||| crc.second.toNat ≠ 0 then some (masked 0x1F crc.third crc.fourth)
  else none

theorem patEntry_at {data front back : Bytes} {a b c d : UInt8}
    (split : data = front ++ a :: b :: c :: d :: back) {entriesEnd pos : Nat}
    (here : front.length = pos) (inside : pos + 4 ≤ entriesEnd) :
    patEntry data entriesEnd pos =
      .ok (if (a.toNat <<< 8) ||| b.toNat ≠ 0 then .done (some (masked 0x1F c d))
        else .next (pos + 4)) := by
  subst split
  have first : index (front ++ a :: b :: c :: d :: back) pos = .ok a :=
    index_append _ _ here 0 rfl rfl
  rw [patEntry, if_pos inside, first, index_append _ _ here 1 rfl rfl,
    index_append _ _ here 2 rfl rfl, index_append _ _ here 3 rfl rfl]
  simp only [ok_bind]
  split <;> rfl

/-- The entries are read in order up to the first program, and what follows them only
when there is none. -/
theorem runs_patEntries {data : Bytes} {entriesEnd : Nat} {behind : Option Nat} {front back : Bytes}
    {pos : Nat} (split : data = front ++ (entries.flatMap PatEntry.bytes ++ back))
    (here : front.length = pos) (inside : pos + 4 * entries.length ≤ entriesEnd)
    (rest : Runs (patEntry data entriesEnd) (pos + 4 * entries.length) behind) :
    Runs (patEntry data entriesEnd) pos (firstProgram entries <|> behind) := by
  induction entries generalizing front pos with
  | nil => exact rest
  | cons entry entries ih =>
    rw [length_cons] at inside rest
    have turned := patEntry_at split here (show pos + 4 ≤ entriesEnd by omega)
    rw [joined_eq, masked_pid] at turned
    by_cases network : entry.programNumber = 0
    · have skipped : firstProgram (entry :: entries) = firstProgram entries := by
        rw [firstProgram, List.find?_cons_of_neg (by simpa using network), firstProgram]
      have length : (front ++ entry.bytes).length = pos + 4 := by
        rw [length_append, here]
        rfl
      rw [if_neg (by simp [network])] at turned
      rw [skipped]
      apply Runs.next turned
      apply ih _ length (by omega)
      · rwa [show pos + 4 + 4 * entries.length = pos + 4 * (entries.length + 1) by ring]
      · rw [split, flatMap_cons, append_assoc, append_assoc]
    · have found : firstProgram (entry :: entries) = some (entry.pid : Nat) := by
        rw [firstProgram, List.find?_cons_of_pos (by simpa using network)]
        rfl
      have nonzero : (entry.programNumber : Nat) ≠ 0 := fun zero => network (Fin.ext zero)
      rw [if_pos nonzero] at turned
      rw [found]
      exact Runs.done turned

theorem length_patEntries : (entries.flatMap PatEntry.bytes).length = 4 * entries.length := by
  induction entries with
  | nil => rfl
  | cons entry entries ih =>
    have four : entry.bytes.length = 4 := rfl
    rw [flatMap_cons, length_append, ih, four, length_cons]
    omega

namespace PatSection

variable (table : PatSection) (stuffing : Bytes)

theorem length_header : table.header.length = 8 := rfl

theorem runs_entries :
    Runs (patEntry (table.bytes ++ stuffing) (12 + 4 * table.entries.length)) 8
      (firstProgram table.entries <|> table.crc.asProgram) := by
  have split : table.bytes ++ stuffing = table.header ++
      (table.entries.flatMap PatEntry.bytes ++ (table.crc.bytes ++ stuffing)) := by
    simp [bytes]
  have crcSplit : table.bytes ++ stuffing =
      (table.header ++ table.entries.flatMap PatEntry.bytes) ++
        table.crc.first :: table.crc.second :: table.crc.third :: table.crc.fourth ::
          stuffing := by
    rw [split, append_assoc]
    rfl
  have crcHere : (table.header ++ table.entries.flatMap PatEntry.bytes).length =
      8 + 4 * table.entries.length := by
    rw [length_append, length_header, length_patEntries]
  apply runs_patEntries table.entries split table.length_header (by omega)
  have turned := patEntry_at crcSplit crcHere
    (show 8 + 4 * table.entries.length + 4 ≤ 12 + 4 * table.entries.length by omega)
  rw [Crc.asProgram]
  split
  · rename_i program
    rw [if_pos program] at turned
    exact Runs.done turned
  · rename_i program
    rw [if_neg program] at turned
    apply Runs.next turned
    apply Runs.done
    rw [patEntry, if_neg (by omega)]
    rfl

theorem parsePat_pointed {skipped : Bytes} (short : skipped.length < 256) :
    parsePat (pointed skipped (table.bytes ++ stuffing)) true =
      .ok (firstProgram table.entries <|> table.crc.asProgram) := by
  have total : (table.bytes ++ stuffing).length =
      12 + 4 * table.entries.length + stuffing.length := by
    simp only [bytes, length_append, length_header, length_patEntries]
    have crc : table.crc.bytes.length = 4 := rfl
    omega
  have first : index (table.bytes ++ stuffing) 0 = .ok 0x00 := rfl
  have second : index (table.bytes ++ stuffing) 1 =
      .ok (highByte 4 table.reserved table.sectionLength) := rfl
  have third : index (table.bytes ++ stuffing) 2 = .ok (lowByte table.sectionLength) := rfl
  have readLength : masked 0x0F (highByte 4 table.reserved table.sectionLength)
      (lowByte table.sectionLength) = table.sectionLength :=
    masked_length table.reserved table.fits
  have entriesEnd : min (8 + (table.sectionLength - 5)) (table.bytes ++ stuffing).length =
      12 + 4 * table.entries.length := by
    rw [total, sectionLength]
    omega
  rw [parsePat, sectionData_pointed short (by omega), ok_bind]
  dsimp only
  rw [if_neg (by omega), first, second, third]
  simp only [ok_bind]
  rw [readLength, entriesEnd]
  apply (table.runs_entries stuffing).loop_eq
  apply entries_total (patEntry_forward ?_)
  omega

end PatSection

theorem firstProgram_isSome :
    (firstProgram entries).isSome ↔ ∃ entry ∈ entries, entry.programNumber ≠ 0 := by
  rw [firstProgram, Option.isSome_map, List.find?_isSome]
  simp

theorem Crc.asProgram_eq_none (crc : Crc) :
    crc.asProgram = none ↔ crc.first = 0 ∧ crc.second = 0 := by
  have zero : (crc.first.toNat <<< 8) ||| crc.second.toNat = 0 ↔
      crc.first = 0 ∧ crc.second = 0 := by
    rw [Nat.or_eq_zero_iff, Nat.shiftLeft_eq_zero_iff, ← UInt8.toNat_inj, ← UInt8.toNat_inj]
    rfl
  rw [Crc.asProgram, ← zero]
  split
  · rename_i program
    simpa using program
  · rename_i program
    simpa using program

/-- For every table, every checksum and anything behind it: the program found is the first of
the entries exactly when an entry names one or the checksum begins with two zero bytes. -/
theorem parsePat_entries_iff (table : PatSection) (skipped stuffing : Bytes)
    (short : skipped.length < 256) :
    parsePat (pointed skipped (table.bytes ++ stuffing)) true = .ok (firstProgram table.entries) ↔
      (∃ entry ∈ table.entries, entry.programNumber ≠ 0) ∨
        (table.crc.first = 0 ∧ table.crc.second = 0) := by
  rw [table.parsePat_pointed stuffing short, ← firstProgram_isSome, ← Crc.asProgram_eq_none]
  cases firstProgram table.entries with
  | some _ | none => simp

def smallTable (crc : Crc) (fits : 9 + 4 * entries.length < 4096) : PatSection :=
  { reserved := 0xB
    transportStreamId := 1
    version := 0xC1
    sectionNumber := 0
    lastSectionNumber := 0
    entries, crc, fits }

def oneProgram : PatSection := smallTable [⟨0, 7, 0x10⟩, ⟨1, 7, 0x1000⟩] ⟨1, 2, 3, 4⟩ (by decide)

theorem one_program_found :
    firstProgram oneProgram.entries = some 0x1000 ∧
      parsePat (pointed [9, 9] (oneProgram.bytes ++ [0xFF])) true = .ok (some 0x1000) := by
  have found : firstProgram oneProgram.entries = some 0x1000 := by decide
  have present : ∃ entry ∈ oneProgram.entries, entry.programNumber ≠ 0 :=
    ⟨⟨1, 7, 0x1000⟩, by simp [oneProgram, smallTable], by decide⟩
  refine ⟨found, ?_⟩
  rw [← found]
  exact (parsePat_entries_iff oneProgram [9, 9] [0xFF] (by decide)).mpr (.inl present)

def networkOnly : PatSection := smallTable [⟨0, 7, 0x10⟩] ⟨0x77, 0x29, 0xE8, 0x56⟩ (by decide)

/-- The checksum is taken for the program 0x7729 with the PID 0x0856. -/
theorem network_table_names_a_program :
    firstProgram networkOnly.entries = none ∧
      parsePat (pointed [] (networkOnly.bytes ++ [0xFF, 0xFF])) true = .ok (some 0x0856) := by
  decide

structure PmtEntry where
  streamType : UInt8
  reserved : Nat
  pid : Fin 8192
  infoReserved : Nat
  esInfo : Bytes
  fits : esInfo.length < 4096

def PmtEntry.bytes (entry : PmtEntry) : Bytes :=
  entry.streamType :: (packed 5 entry.reserved entry.pid ++
    packed 4 entry.infoReserved entry.esInfo.length ++ entry.esInfo)

structure PmtSection where
  reserved : Nat
  programNumber : Fin 65536
  version : UInt8
  sectionNumber : UInt8
  lastSectionNumber : UInt8
  pcrReserved : Nat
  pcrPid : Fin 8192
  infoReserved : Nat
  programInfo : Bytes
  entries : List PmtEntry
  crc : Crc
  fits : 13 + programInfo.length + (entries.flatMap PmtEntry.bytes).length < 4096

namespace PmtSection

variable (table : PmtSection)

def sectionLength : Nat :=
  13 + table.programInfo.length + (table.entries.flatMap PmtEntry.bytes).length

def header : Bytes :=
  0x02 :: (packed 4 table.reserved table.sectionLength ++ packed 8 0 table.programNumber ++
    [table.version, table.sectionNumber, table.lastSectionNumber] ++
    packed 5 table.pcrReserved table.pcrPid ++
    packed 4 table.infoReserved table.programInfo.length)

def bytes : Bytes :=
  table.header ++ (table.programInfo ++
    (table.entries.flatMap PmtEntry.bytes ++ table.crc.bytes))

end PmtSection

def firstAudio (entries : List PmtEntry) : Option Nat :=
  (entries.find? fun entry => isAudioType entry.streamType).map fun entry => (entry.pid : Nat)

theorem pmtEntry_at {data front back : Bytes} {entry : PmtEntry}
    (split : data = front ++ (entry.bytes ++ back)) {sectionEnd pos : Nat}
    (here : front.length = pos) (inside : pos + 5 ≤ sectionEnd) :
    pmtEntry data sectionEnd pos =
      .ok (if isAudioType entry.streamType then .done (some (entry.pid : Nat))
        else .next (pos + (5 + entry.esInfo.length))) := by
  subst split
  have streamType : index (front ++ (entry.bytes ++ back)) pos = .ok entry.streamType :=
    index_append _ _ here 0 rfl rfl
  rw [pmtEntry, if_pos inside, streamType, index_append _ _ here 1 rfl rfl,
    index_append _ _ here 2 rfl rfl, index_append _ _ here 3 rfl rfl,
    index_append _ _ here 4 rfl rfl]
  simp only [ok_bind]
  rw [masked_pid, masked_length _ entry.fits]
  split <;> rfl

theorem PmtEntry.length_bytes (entry : PmtEntry) :
    entry.bytes.length = 5 + entry.esInfo.length := by
  simp only [PmtEntry.bytes, packed, length_cons, length_append, length_nil]
  omega

theorem runs_pmtEntries {data : Bytes} {sectionEnd : Nat} (entries : List PmtEntry)
    {front back : Bytes} {pos : Nat}
    (split : data = front ++ (entries.flatMap PmtEntry.bytes ++ back))
    (here : front.length = pos)
    (ends : pos + (entries.flatMap PmtEntry.bytes).length = sectionEnd) :
    Runs (pmtEntry data sectionEnd) pos (firstAudio entries) := by
  induction entries generalizing front pos with
  | nil =>
    apply Runs.done
    rw [flatMap_nil, length_nil] at ends
    rw [pmtEntry, if_neg (by omega)]
    rfl
  | cons entry entries ih =>
    have length := entry.length_bytes
    rw [flatMap_cons, length_append] at ends
    rw [flatMap_cons, append_assoc] at split
    have turned := pmtEntry_at split here (show pos + 5 ≤ sectionEnd by omega)
    cases audio : isAudioType entry.streamType with
    | true =>
      have found : firstAudio (entry :: entries) = some (entry.pid : Nat) := by
        rw [firstAudio, List.find?_cons_of_pos (by simp [audio])]
        rfl
      rw [audio, if_pos rfl] at turned
      rw [found]
      exact Runs.done turned
    | false =>
      have skipped : firstAudio (entry :: entries) = firstAudio entries := by
        rw [firstAudio, List.find?_cons_of_neg (by simp [audio]), firstAudio]
      rw [audio, if_neg (by decide)] at turned
      rw [skipped]
      apply Runs.next turned
      apply ih (show data = (front ++ entry.bytes) ++ _ by rw [split, append_assoc])
      · rw [length_append, here, length]
      · omega

namespace PmtSection

variable (table : PmtSection) (stuffing : Bytes)

theorem parsePmt_pointed {skipped : Bytes} (short : skipped.length < 256) :
    parsePmt (pointed skipped (table.bytes ++ stuffing)) true =
      .ok (firstAudio table.entries) := by
  have header : table.header.length = 12 := rfl
  have total : (table.bytes ++ stuffing).length =
      3 + table.sectionLength + stuffing.length := by
    have crc : table.crc.bytes.length = 4 := rfl
    simp only [bytes, length_append, sectionLength]
    omega
  have large : 13 ≤ table.sectionLength := by
    rw [sectionLength]
    omega
  have readLength : masked 0x0F (highByte 4 table.reserved table.sectionLength)
      (lowByte table.sectionLength) = table.sectionLength :=
    masked_length table.reserved table.fits
  have readInfoLength : masked 0x0F (highByte 4 table.infoReserved table.programInfo.length)
      (lowByte table.programInfo.length) = table.programInfo.length := by
    apply masked_length
    have fits := table.fits
    omega
  have sectionEnd : min (3 + (table.sectionLength - 4)) (table.bytes ++ stuffing).length =
      table.sectionLength - 1 := by
    rw [total]
    omega
  have bytes1 : index (table.bytes ++ stuffing) 1 =
      .ok (highByte 4 table.reserved table.sectionLength) := rfl
  have bytes2 : index (table.bytes ++ stuffing) 2 = .ok (lowByte table.sectionLength) := rfl
  have bytes10 : index (table.bytes ++ stuffing) 10 =
      .ok (highByte 4 table.infoReserved table.programInfo.length) := rfl
  have bytes11 : index (table.bytes ++ stuffing) 11 = .ok (lowByte table.programInfo.length) := rfl
  rw [parsePmt, sectionData_pointed short (by omega), ok_bind]
  dsimp only
  rw [if_neg (by omega), bytes1, bytes2, bytes10, bytes11]
  simp only [ok_bind]
  rw [readLength, readInfoLength, sectionEnd]
  refine Runs.loop_eq (runs_pmtEntries table.entries
    (show table.bytes ++ stuffing = (table.header ++ table.programInfo) ++
      (table.entries.flatMap PmtEntry.bytes ++ (table.crc.bytes ++ stuffing)) by
        simp only [bytes, append_assoc]) (length_append ..) ?_)
    (entries_total (pmtEntry_forward ?_) _)
  · rw [sectionLength]
    omega
  · omega

end PmtSection

end KizunaLink.Hls
