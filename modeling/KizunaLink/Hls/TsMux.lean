import KizunaLink.Hls.TsSections

/-!
# Transport streams and their audio

The transport streams that carry one audio stream: packets of 188 bytes, of which
some carry the program tables, some the audio, and the rest, of other PIDs, anything.
`elementary` is the audio they carry, put together from the packets' shares.  The
demultiplexer returns it from every such stream whose tables stand before the audio.
-/

set_option autoImplicit false

namespace KizunaLink.Hls

open KizunaLink.Lib List Option

/-! ## Packets -/

/-- What a packet has around its payload; the adaptation field is given without its length. -/
structure Framing where
  priority : Bool
  scrambling : Fin 4
  counter : Fin 16
  adaptation : Option Bytes

namespace Framing

variable (framing : Framing)

def adaptationBytes : Bytes :=
  match framing.adaptation with
  | none => []
  | some field => UInt8.ofNat field.length :: field

def flags (payloadStart : Bool) : Nat := 2 * payloadStart.toNat + framing.priority.toNat

def control (hasPayload : Bool) : UInt8 :=
  UInt8.ofNat (64 * framing.scrambling + 32 * framing.adaptation.isSome.toNat +
    16 * hasPayload.toNat + framing.counter)

def packet (pid : Fin 8192) (payloadStart : Bool) (payload : Option Bytes) : Bytes :=
  tsSyncByte :: highByte 5 (framing.flags payloadStart) pid :: lowByte pid ::
    framing.control payload.isSome :: (framing.adaptationBytes ++ payload.getD [])

end Framing

theorem flags_bits : ∀ (payloadStart priority : Bool) (high : Fin 32),
    (UInt8.ofNat ((2 * payloadStart.toNat + priority.toNat) * 2 ^ 5 + high) &&& 0x80 != 0) =
        false ∧
      (UInt8.ofNat ((2 * payloadStart.toNat + priority.toNat) * 2 ^ 5 + high) &&& 0x40 != 0) =
        payloadStart := by
  decide

theorem control_bits : ∀ (scrambling : Fin 4) (counter : Fin 16) (adaptation payload : Bool),
    (UInt8.ofNat (64 * scrambling + 32 * adaptation.toNat + 16 * payload.toNat + counter) >>> 4) &&&
      0x03 = UInt8.ofNat (2 * adaptation.toNat + payload.toNat) := by
  decide

theorem flags_read (framing : Framing) (pid : Fin 8192) (payloadStart : Bool) :
    (highByte 5 (framing.flags payloadStart) pid &&& 0x80 != 0) = false ∧
      (highByte 5 (framing.flags payloadStart) pid &&& 0x40 != 0) = payloadStart :=
  flags_bits payloadStart framing.priority ⟨pid / 256, by omega⟩

theorem control_read (framing : Framing) (hasPayload : Bool) :
    (framing.control hasPayload >>> 4) &&& 0x03 =
      UInt8.ofNat (2 * framing.adaptation.isSome.toNat + hasPayload.toNat) :=
  control_bits framing.scrambling framing.counter framing.adaptation.isSome hasPayload

section Packet

variable (framing : Framing) (pid : Fin 8192) (payloadStart : Bool) (payload : Option Bytes)

/-- The rest of the packet is cut by the two bits that announce its parts. -/
def Framing.payloadOf (control : UInt8) : Checked (Option Payload) := do
  let payloadOffset ←
    if control = 2 ∨ control = 3 then do
      let adaptationLength := (← index (framing.packet pid payloadStart payload) 4).toNat
      pure (4 + (1 + adaptationLength))
    else pure 4
  if control = 0 ∨ control = 2 then pure none
  else if tsPacketSize ≤ payloadOffset then pure none
  else do
    let bytes ← sliceFrom (framing.packet pid payloadStart payload) payloadOffset
    pure (some { pid, payloadStart, bytes })

theorem packetPayload_header :
    packetPayload (framing.packet pid payloadStart payload) =
      framing.payloadOf pid payloadStart payload
        (UInt8.ofNat (2 * framing.adaptation.isSome.toNat + payload.isSome.toNat)) := by
  have flags : index (framing.packet pid payloadStart payload) 1 =
      .ok (highByte 5 (framing.flags payloadStart) pid) := rfl
  have low : index (framing.packet pid payloadStart payload) 2 = .ok (lowByte pid) := rfl
  have control : index (framing.packet pid payloadStart payload) 3 =
      .ok (framing.control payload.isSome) := rfl
  obtain ⟨undamaged, starts⟩ := flags_read framing pid payloadStart
  rw [packetPayload, flags, low, control]
  simp only [ok_bind]
  rw [undamaged, starts, masked_pid, control_read, if_neg (by decide)]
  rfl

variable {framing pid payloadStart payload}
  (size : (framing.packet pid payloadStart payload).length = tsPacketSize)
include size

theorem length_packet : 4 + framing.adaptationBytes.length + (payload.getD []).length = 188 := by
  have total : (framing.packet pid payloadStart payload).length = 188 := size
  simp only [Framing.packet, length_cons, length_append] at total
  omega

theorem packetPayload_bare (bare : framing.adaptation = none) :
    packetPayload (framing.packet pid payloadStart payload) =
      .ok (if payload.getD [] = [] then none
        else some { pid, payloadStart, bytes := payload.getD [] }) := by
  have nothing : framing.adaptationBytes = [] := by rw [Framing.adaptationBytes, bare]
  have length := length_packet size
  rw [nothing, length_nil] at length
  rw [packetPayload_header, bare, Framing.payloadOf]
  cases payload with
  | none => simp at length
  | some bytes =>
    have nonempty : (some bytes).getD [] ≠ [] := by
      intro empty
      rw [empty, length_nil] at length
      omega
    have behind : (framing.packet pid payloadStart (some bytes)).drop 4 = bytes := by
      rw [Framing.packet, nothing]
      rfl
    simp only [isSome_none, isSome_some, Bool.toNat_false, Bool.toNat_true]
    rw [if_neg (by decide), pure_bind, if_neg (by decide), if_neg (by decide),
      sliceFrom_ok (by rw [size]; decide), behind, if_neg nonempty]
    rfl

theorem packetPayload_adapted {field : Bytes} (adapted : framing.adaptation = some field) :
    packetPayload (framing.packet pid payloadStart payload) =
      .ok (if payload.getD [] = [] then none
        else some { pid, payloadStart, bytes := payload.getD [] }) := by
  have present : framing.adaptationBytes = UInt8.ofNat field.length :: field := by
    rw [Framing.adaptationBytes, adapted]
  have length := length_packet size
  rw [present, length_cons] at length
  have lengthByte : index (framing.packet pid payloadStart payload) 4 =
      .ok (UInt8.ofNat field.length) := by
    rw [Framing.packet, present]
    rfl
  have lengthRead : (UInt8.ofNat field.length).toNat = field.length := by
    rw [UInt8.toNat_ofNat']
    omega
  have behind : (framing.packet pid payloadStart payload).drop (4 + (1 + field.length)) =
      payload.getD [] := by
    rw [Framing.packet, present, Nat.add_comm]
    simp [Nat.add_comm 1]
  rw [packetPayload_header, adapted, Framing.payloadOf]
  cases payload with
  | none =>
    simp only [isSome_some, isSome_none, Bool.toNat_true, Bool.toNat_false]
    rw [if_pos (by decide), lengthByte]
    rfl
  | some bytes =>
    simp only [isSome_some, Bool.toNat_true, getD_some] at length behind ⊢
    rw [if_pos (by decide), lengthByte, ok_bind, lengthRead, pure_bind, if_neg (by decide)]
    by_cases empty : bytes = []
    · rw [empty, length_nil] at length
      rw [if_pos (by rw [tsPacketSize]; omega), if_pos empty]
      rfl
    · have some_ := length_pos_iff.mpr empty
      rw [if_neg (by rw [tsPacketSize]; omega), if_neg empty,
        sliceFrom_ok (by rw [size, tsPacketSize]; omega), behind]
      rfl

theorem packetPayload_packet :
    packetPayload (framing.packet pid payloadStart payload) =
      .ok (if payload.getD [] = [] then none
        else some { pid, payloadStart, bytes := payload.getD [] }) := by
  cases adaptation : framing.adaptation with
  | none => exact packetPayload_bare size adaptation
  | some field => exact packetPayload_adapted size adaptation

end Packet

/-! ## Streams -/

/-- The three streams that are read have three PIDs. -/
structure Program where
  pmtPid : Fin 8192
  audioPid : Fin 8192
  pmtNotPat : pmtPid ≠ 0
  audioNotPat : audioPid ≠ 0
  audioNotPmt : audioPid ≠ pmtPid

/-- A PES header: nine fixed bytes and the optional fields, whose length the last of them is. -/
structure PesHeader where
  streamId : UInt8
  packetLength : Fin 65536
  flags : Fin 65536
  headerData : Bytes
  fits : headerData.length < 256

def PesHeader.bytes (header : PesHeader) : Bytes :=
  [0x00, 0x00, 0x01, header.streamId] ++ packed 8 0 header.packetLength ++
    packed 8 0 header.flags ++ [UInt8.ofNat header.headerData.length] ++ header.headerData

/-- What a packet of the program carries.  A table stands in one packet, and a PES header in
the packet that starts its PES packet. -/
inductive Content where
  | pat (table : PatSection) (skipped stuffing : Bytes)
  | pmt (table : PmtSection) (skipped stuffing : Bytes)
  | pesStart (header : PesHeader) (data : Bytes)
  | pesData (data : Bytes)
  | adaptationOnly (payloadStart : Bool)

namespace Content

def pid (program : Program) : Content → Fin 8192
  | .pat _ _ _ => 0
  | .pmt _ _ _ => program.pmtPid
  | .pesStart _ _ | .pesData _ | .adaptationOnly _ => program.audioPid

def payloadStart : Content → Bool
  | .pat _ _ _ | .pmt _ _ _ | .pesStart _ _ => true
  | .pesData _ => false
  | .adaptationOnly payloadStart => payloadStart

def payload : Content → Option Bytes
  | .pat table skipped stuffing => some (pointed skipped (table.bytes ++ stuffing))
  | .pmt table skipped stuffing => some (pointed skipped (table.bytes ++ stuffing))
  | .pesStart header data => some (header.bytes ++ data)
  | .pesData data => some data
  | .adaptationOnly _ => none

/-- The tables name the program's PIDs. -/
def Names (program : Program) : Content → Prop
  | .pat table skipped _ =>
    firstProgram table.entries = some (program.pmtPid : Nat) ∧ skipped.length < 256
  | .pmt table skipped _ =>
    firstAudio table.entries = some (program.audioPid : Nat) ∧ skipped.length < 256
  | .pesStart _ _ | .pesData _ | .adaptationOnly _ => True

def elementary : Content → Bytes
  | .pesStart _ data | .pesData data => data
  | .pat _ _ _ | .pmt _ _ _ | .adaptationOnly _ => []

end Content

/-- The PID in a packet's header: the low five bits of one byte, and the next byte. -/
def headerPid (flags low : UInt8) : Nat := flags.toNat % 32 * 256 + low.toNat

/-- A packet of the program, or one of another PID with anything in it. -/
inductive TsPacket (program : Program) where
  | carrying (framing : Framing) (content : Content) (names : content.Names program)
      (size : (framing.packet (content.pid program) content.payloadStart
        content.payload).length = tsPacketSize)
  | other (flags low control : UInt8) (rest : Bytes) (size : rest.length = 184)
      (foreign : headerPid flags low ≠ patPid ∧ headerPid flags low ≠ program.pmtPid ∧
        headerPid flags low ≠ program.audioPid)

namespace TsPacket

variable {program : Program}

def bytes : TsPacket program → Bytes
  | .carrying framing content _ _ =>
    framing.packet (content.pid program) content.payloadStart content.payload
  | .other flags low control rest _ _ => tsSyncByte :: flags :: low :: control :: rest

def elementary : TsPacket program → Bytes
  | .carrying _ content _ _ => content.elementary
  | .other _ _ _ _ _ _ => []

def isPat : TsPacket program → Bool
  | .carrying _ (.pat _ _ _) _ _ => true
  | _ => false

def isPmt : TsPacket program → Bool
  | .carrying _ (.pmt _ _ _) _ _ => true
  | _ => false

def isAudio : TsPacket program → Bool
  | .carrying _ (.pesStart _ _) _ _ | .carrying _ (.pesData _) _ _ => true
  | _ => false

end TsPacket

/-- A PAT and behind it a PMT stand before the audio.  Either may be repeated anywhere. -/
def TablesFirst {program : Program} (packets : List (TsPacket program)) : Prop :=
  ∃ before pat between pmt behind, packets = before ++ pat :: (between ++ pmt :: behind) ∧
    pat.isPat = true ∧ pmt.isPmt = true ∧ ∀ packet ∈ before ++ between, packet.isAudio = false

def multiplexed {program : Program} (packets : List (TsPacket program)) : Bytes :=
  packets.flatMap TsPacket.bytes

def elementary {program : Program} (packets : List (TsPacket program)) : Bytes :=
  packets.flatMap TsPacket.elementary

/-! ## What one packet does -/

theorem PesHeader.length_bytes (header : PesHeader) :
    header.bytes.length = 9 + header.headerData.length := by
  simp only [PesHeader.bytes, packed, length_append, length_cons, length_nil]

theorem extractPesPayload_start (header : PesHeader) (data out : Bytes) :
    extractPesPayload (header.bytes ++ data) true out = .ok (out ++ data) := by
  have length : (header.bytes ++ data).length = 9 + header.headerData.length + data.length := by
    rw [length_append, header.length_bytes]
  have first : index (header.bytes ++ data) 0 = .ok 0x00 := rfl
  have second : index (header.bytes ++ data) 1 = .ok 0x00 := rfl
  have third : index (header.bytes ++ data) 2 = .ok 0x01 := rfl
  have dataLength : index (header.bytes ++ data) 8 =
      .ok (UInt8.ofNat header.headerData.length) := rfl
  have lengthRead : (UInt8.ofNat header.headerData.length).toNat = header.headerData.length := by
    rw [UInt8.toNat_ofNat', Nat.mod_eq_of_lt header.fits]
  rw [extractPesPayload, if_pos rfl, if_neg (by omega), first, second, third, dataLength]
  simp only [ok_bind]
  rw [if_neg (by simp), lengthRead]
  by_cases empty : data = []
  · rw [empty, length_nil] at length
    rw [if_neg (by rw [empty]; omega), empty, append_nil]
    rfl
  · have nonempty := length_pos_iff.mpr empty
    rw [if_pos (by omega), sliceFrom_ok (by omega), ← header.length_bytes, drop_left]
    rfl

variable {program : Program}

structure Demuxer.Knows (program : Program) (state : Demuxer) : Prop where
  pmt : state.pmtPid = none ∨ state.pmtPid = some (program.pmtPid : Nat)
  audio : state.audioPid = none ∨ state.audioPid = some (program.audioPid : Nat)

def Demuxer.receive (program : Program) (state : Demuxer) : Content → Demuxer
  | .pat _ _ _ => { state with pmtPid := some (program.pmtPid : Nat) }
  | .pmt _ _ _ =>
    if state.pmtPid = some (program.pmtPid : Nat) then
      { state with audioPid := some (program.audioPid : Nat) }
    else state
  | .pesStart _ data | .pesData data =>
    if state.audioPid = some (program.audioPid : Nat) then
      { state with adtsOut := state.adtsOut ++ data }
    else state
  | .adaptationOnly _ => state

def Demuxer.after (state : Demuxer) : TsPacket program → Demuxer
  | .carrying _ content _ _ =>
    Demuxer.receive program { state with offset := state.offset + tsPacketSize } content
  | .other _ _ _ _ _ _ => { state with offset := state.offset + tsPacketSize }

theorem Demuxer.Knows.receive {state : Demuxer} (knows : state.Knows program)
    (content : Content) : (state.receive program content).Knows program := by
  cases content with
  | pat table skipped stuffing => exact ⟨.inr rfl, knows.audio⟩
  | pmt table skipped stuffing =>
    rw [Demuxer.receive]
    split
    · exact ⟨knows.pmt, .inr rfl⟩
    · exact knows
  | pesStart _ _ | pesData _ =>
    rw [Demuxer.receive]
    split
    · exact ⟨knows.pmt, knows.audio⟩
    · exact knows
  | adaptationOnly payloadStart => exact knows

theorem Demuxer.Knows.after {state : Demuxer} (knows : state.Knows program)
    (packet : TsPacket program) : (state.after packet).Knows program := by
  cases packet with
  | carrying framing content names size =>
    have moved : Demuxer.Knows program { state with offset := state.offset + tsPacketSize } :=
      ⟨knows.pmt, knows.audio⟩
    exact moved.receive content
  | other flags low control rest size foreign => exact ⟨knows.pmt, knows.audio⟩

theorem Program.pid_ne {first second : Fin 8192} (different : first ≠ second) :
    (first : Nat) ≠ second :=
  fun same => different (Fin.ext same)

theorem Program.pid_ne_known {pid other : Fin 8192} {known : Option Nat} (different : pid ≠ other)
    (knows : known = none ∨ known = some (other : Nat)) : some (pid : Nat) ≠ known := by
  rcases knows with unknown | known
  · simp [unknown]
  · rw [known]
    exact fun same => Program.pid_ne different (Option.some.inj same)

section Dispatch

variable {state : Demuxer}

theorem dispatch_pat {table : PatSection} {skipped stuffing : Bytes}
    (names : (Content.pat table skipped stuffing).Names program) :
    state.dispatch
        ⟨patPid, true, pointed skipped (table.bytes ++ stuffing)⟩ =
      .ok (state.receive program (.pat table skipped stuffing)) := by
  rw [Demuxer.dispatch, if_pos rfl, table.parsePat_pointed stuffing names.2, names.1]
  rfl

theorem dispatch_pmt (knows : state.Knows program) {table : PmtSection} {skipped stuffing : Bytes}
    (names : (Content.pmt table skipped stuffing).Names program) :
    state.dispatch ⟨program.pmtPid, true, pointed skipped (table.bytes ++ stuffing)⟩ =
      .ok (state.receive program (.pmt table skipped stuffing)) := by
  have notPat : (program.pmtPid : Nat) ≠ patPid := Program.pid_ne program.pmtNotPat
  rw [Demuxer.dispatch, if_neg notPat, Demuxer.receive]
  by_cases known : state.pmtPid = some (program.pmtPid : Nat)
  · rw [if_pos known.symm, if_pos known, table.parsePmt_pointed stuffing names.2, names.1]
    rfl
  · rw [if_neg (Ne.symm known), if_neg known,
      if_neg (Program.pid_ne_known program.audioNotPmt.symm knows.audio)]
    rfl

theorem dispatch_audio (knows : state.Knows program) {payloadStart : Bool} {payload data : Bytes}
    (extracted : extractPesPayload payload payloadStart state.adtsOut =
      .ok (state.adtsOut ++ data)) :
    state.dispatch ⟨program.audioPid, payloadStart, payload⟩ =
      .ok (if state.audioPid = some (program.audioPid : Nat) then
        { state with adtsOut := state.adtsOut ++ data } else state) := by
  have notPat : (program.audioPid : Nat) ≠ patPid := Program.pid_ne program.audioNotPat
  rw [Demuxer.dispatch, if_neg notPat, if_neg (Program.pid_ne_known program.audioNotPmt knows.pmt)]
  by_cases known : state.audioPid = some (program.audioPid : Nat)
  · rw [if_pos known.symm, if_pos known, extracted]
    rfl
  · rw [if_neg (Ne.symm known), if_neg known]
    rfl

theorem dispatch_content (knows : state.Knows program) {content : Content}
    (names : content.Names program) {bytes : Bytes} (carries : content.payload = some bytes) :
    state.dispatch ⟨content.pid program, content.payloadStart, bytes⟩ =
      .ok (state.receive program content) := by
  cases content with
  | pat table skipped stuffing =>
    cases carries
    exact dispatch_pat names
  | pmt table skipped stuffing =>
    cases carries
    exact dispatch_pmt knows names
  | pesStart header data =>
    cases carries
    exact dispatch_audio knows (extractPesPayload_start header data state.adtsOut)
  | pesData data =>
    cases carries
    exact dispatch_audio knows rfl
  | adaptationOnly payloadStart => cases carries

theorem dispatch_foreign (knows : state.Knows program) {payload : Payload}
    (foreign : payload.pid ≠ patPid ∧ payload.pid ≠ program.pmtPid ∧
      payload.pid ≠ program.audioPid) : state.dispatch payload = .ok state := by
  obtain ⟨notPat, notPmt, notAudio⟩ := foreign
  have otherPmt : some payload.pid ≠ state.pmtPid := by
    rcases knows.pmt with unknown | known
    · simp [unknown]
    · simpa [known] using notPmt
  have otherAudio : some payload.pid ≠ state.audioPid := by
    rcases knows.audio with unknown | known
    · simp [unknown]
    · simpa [known] using notAudio
  rw [Demuxer.dispatch, if_neg notPat, if_neg otherPmt, if_neg otherAudio]
  rfl

end Dispatch

theorem TsPacket.length_bytes (packet : TsPacket program) : packet.bytes.length = tsPacketSize := by
  cases packet with
  | carrying framing content names size => exact size
  | other flags low control rest size foreign =>
    simp only [TsPacket.bytes, length_cons, size]
    decide

theorem TsPacket.index_sync (packet : TsPacket program) :
    index packet.bytes 0 = .ok tsSyncByte := by
  cases packet with
  | carrying _ _ _ _ | other _ _ _ _ _ _ => rfl

theorem receive_of_no_payload (state : Demuxer) {content : Content}
    (empty : content.payload.getD [] = []) : state.receive program content = state := by
  cases content with
  | pat _ _ _ | pmt _ _ _ | pesStart _ _ => cases empty
  | pesData data =>
    cases empty
    rw [Demuxer.receive, append_nil, ite_self]
  | adaptationOnly payloadStart => rfl

theorem nextPacket_packet {tsData front back : Bytes} {state : Demuxer}
    (knows : state.Knows program) (packet : TsPacket program)
    (split : tsData = front ++ (packet.bytes ++ back)) (here : front.length = state.offset) :
    nextPacket tsData state = .ok (.next (state.after packet)) := by
  have length := packet.length_bytes
  have inside : state.offset + tsPacketSize ≤ tsData.length := by
    rw [split, length_append, length_append, length, here]
    omega
  have taken : slice tsData state.offset (state.offset + tsPacketSize) = .ok packet.bytes := by
    rw [split]
    exact slice_append front packet.bytes back here (by rw [length])
  rw [nextPacket, if_pos inside, taken, ok_bind, packet.index_sync, ok_bind, if_neg (by simp)]
  have moved : Demuxer.Knows program { state with offset := state.offset + tsPacketSize } :=
    ⟨knows.pmt, knows.audio⟩
  cases packet with
  | carrying framing content names size =>
    rw [TsPacket.bytes, packetPayload_packet size, ok_bind]
    by_cases empty : content.payload.getD [] = []
    · rw [if_pos empty, Demuxer.after, receive_of_no_payload _ empty]
      rfl
    · have carries : content.payload = some (content.payload.getD []) := by
        cases held : content.payload with
        | none => exact absurd (by rw [held]; rfl) empty
        | some bytes => rfl
      rw [if_neg empty]
      dsimp only
      rw [dispatch_content moved names carries]
      rfl
  | other flags low control rest size foreign =>
    obtain ⟨carried, read, behind⟩ := packetPayload_total length
    rw [read, ok_bind]
    cases carried with
    | none => rfl
    | some payload =>
      have pid : payload.pid = headerPid flags low :=
        ((behind payload rfl).2 flags low rfl rfl).trans (masked_eq 5 flags low)
      rw [← pid] at foreign
      dsimp only
      rw [dispatch_foreign moved foreign]
      rfl

theorem after_eq (state : Demuxer) (packet : TsPacket program) :
    state.after packet =
      { offset := state.offset + tsPacketSize
        pmtPid := if packet.isPat then some (program.pmtPid : Nat) else state.pmtPid
        audioPid :=
          if packet.isPmt = true ∧ state.pmtPid = some (program.pmtPid : Nat) then
            some (program.audioPid : Nat)
          else state.audioPid
        adtsOut :=
          if state.audioPid = some (program.audioPid : Nat) then
            state.adtsOut ++ packet.elementary
          else state.adtsOut } := by
  have nothing : state.adtsOut =
      if state.audioPid = some (program.audioPid : Nat) then state.adtsOut ++ []
      else state.adtsOut := by
    rw [append_nil, ite_self]
  cases packet with
  | other flags low control rest size foreign => exact congrArg (Demuxer.mk _ _ _) nothing
  | carrying framing content names size =>
    cases content with
    | pat _ _ _ | adaptationOnly _ => exact congrArg (Demuxer.mk _ _ _) nothing
    | pmt table skipped stuffing =>
      simp only [Demuxer.after, Demuxer.receive, TsPacket.isPmt, true_and]
      split <;> exact congrArg (Demuxer.mk _ _ _) nothing
    | pesStart _ _ | pesData _ => simp only [Demuxer.after, Demuxer.receive]; split <;> rfl

theorem TsPacket.elementary_of_silent {packet : TsPacket program}
    (silent : packet.isAudio = false) : packet.elementary = [] := by
  cases packet with
  | other flags low control rest size foreign => rfl
  | carrying framing content names size =>
    cases content with
    | pat _ _ _ | pmt _ _ _ | adaptationOnly _ => rfl
    | pesStart _ _ | pesData _ => cases silent

variable (packets : List (TsPacket program))

theorem runs_packets {tsData : Bytes} {front : Bytes} {state : Demuxer}
    (knows : state.Knows program) (split : tsData = front ++ multiplexed packets)
    (here : front.length = state.offset) :
    Runs (nextPacket tsData) state (packets.foldl Demuxer.after state).adtsOut := by
  induction packets generalizing front state with
  | nil =>
    apply Runs.done
    have atEnd : tsData.length = state.offset := by
      rw [split, multiplexed, flatMap_nil, append_nil, here]
    have size : 0 < tsPacketSize := by decide
    rw [nextPacket, if_neg (by omega)]
    rfl
  | cons packet packets ih =>
    rw [multiplexed, flatMap_cons] at split
    apply Runs.next (nextPacket_packet knows packet split here)
    apply ih (knows.after packet)
      (show tsData = (front ++ packet.bytes) ++ multiplexed packets by
        rw [split, append_assoc]; rfl)
    rw [length_append, packet.length_bytes, here, after_eq]

theorem foldl_pmtPid {state : Demuxer} (known : state.pmtPid = some (program.pmtPid : Nat)) :
    (packets.foldl Demuxer.after state).pmtPid = some (program.pmtPid : Nat) := by
  induction packets generalizing state with
  | nil => exact known
  | cons packet packets ih =>
    apply ih
    rw [after_eq, known, ite_self]

theorem foldl_of_audioPid {state : Demuxer} (known : state.audioPid = some
    (program.audioPid : Nat)) :
    (packets.foldl Demuxer.after state).adtsOut = state.adtsOut ++ elementary packets := by
  induction packets generalizing state with
  | nil => exact (append_nil _).symm
  | cons packet packets ih =>
    have stillKnown : (state.after packet).audioPid = some (program.audioPid : Nat) := by
      rw [after_eq, known, ite_self]
    rw [foldl_cons, ih stillKnown, after_eq, if_pos known, elementary, elementary, flatMap_cons,
      append_assoc]

theorem foldl_silent {packets : List (TsPacket program)}
    (silent : ∀ packet ∈ packets, packet.isAudio = false) (state : Demuxer) :
    (packets.foldl Demuxer.after state).adtsOut = state.adtsOut := by
  induction packets generalizing state with
  | nil => rfl
  | cons packet packets ih =>
    obtain ⟨first, others⟩ := forall_mem_cons.mp silent
    have nothing := TsPacket.elementary_of_silent first
    have rest := ih others (state.after packet)
    rw [foldl_cons, rest, after_eq, nothing, append_nil, ite_self]

theorem elementary_silent {packets : List (TsPacket program)}
    (silent : ∀ packet ∈ packets, packet.isAudio = false) : elementary packets = [] :=
  flatMap_eq_nil_iff.mpr fun packet member =>
    TsPacket.elementary_of_silent (silent packet member)

theorem TsPacket.silent_of_table {packet : TsPacket program}
    (table : packet.isPat = true ∨ packet.isPmt = true) : packet.isAudio = false := by
  cases packet with
  | other flags low control rest size foreign => rfl
  | carrying framing content names size =>
    cases content with
    | pat _ _ _ | pmt _ _ _ | adaptationOnly _ => rfl
    | pesStart _ _ | pesData _ => rcases table with isPat | isPmt <;> contradiction

theorem foldl_tables (before between : List (TsPacket program)) {pat pmt : TsPacket program}
    (isPat : pat.isPat = true) (isPmt : pmt.isPmt = true) (state : Demuxer) :
    ((before ++ pat :: (between ++ [pmt])).foldl Demuxer.after state).audioPid =
      some (program.audioPid : Nat) := by
  have named : ((before.foldl Demuxer.after state).after pat).pmtPid =
      some (program.pmtPid : Nat) := by
    rw [after_eq, if_pos isPat]
  rw [foldl_append, foldl_cons, foldl_append, foldl_cons, foldl_nil, after_eq]
  exact if_pos ⟨isPmt, foldl_pmtPid between named⟩

theorem foldl_tablesFirst {packets : List (TsPacket program)} (tables : TablesFirst packets) :
    (packets.foldl Demuxer.after { offset := 0 }).adtsOut = elementary packets := by
  obtain ⟨before, pat, between, pmt, behind, rfl, isPat, isPmt, silent⟩ := tables
  have split : before ++ pat :: (between ++ pmt :: behind) =
      (before ++ pat :: (between ++ [pmt])) ++ behind := by
    simp
  have quiet : ∀ packet ∈ before ++ pat :: (between ++ [pmt]), packet.isAudio = false := by
    intro packet member
    simp only [mem_append, mem_cons, not_mem_nil, or_false] at member
    rcases member with inBefore | rfl | inBetween | rfl
    · exact silent packet (mem_append_left between inBefore)
    · exact TsPacket.silent_of_table (.inl isPat)
    · exact silent packet (mem_append_right before inBetween)
    · exact TsPacket.silent_of_table (.inr isPmt)
  have known := foldl_tables before between isPat isPmt { offset := 0 }
  have joined : elementary ((before ++ pat :: (between ++ [pmt])) ++ behind) =
      elementary (before ++ pat :: (between ++ [pmt])) ++ elementary behind :=
    flatMap_append
  rw [split, joined, elementary_silent quiet, foldl_append, foldl_of_audioPid behind known,
    foldl_silent quiet]

theorem index_multiplexed {packets : List (TsPacket program)} (nonempty : packets ≠ []) :
    index (multiplexed packets) 0 = .ok tsSyncByte ∧ 0 < (multiplexed packets).length := by
  cases packets with
  | nil => exact absurd rfl nonempty
  | cons packet packets =>
    have size : 0 < tsPacketSize := by decide
    have inside : 0 < packet.bytes.length := by
      rw [packet.length_bytes]
      exact size
    have sync := packet.index_sync
    rw [multiplexed, flatMap_cons, length_append]
    rw [index] at sync ⊢
    rw [List.getElem?_append_left inside]
    refine ⟨?_, by omega⟩
    cases found : packet.bytes[0]? with
    | none => rw [found] at sync; cases sync
    | some byte => rw [found] at sync; exact sync

/-- For every program and every stream of its packets with the tables before the audio, the
demultiplexer returns exactly the audio that the packets carry. -/
theorem extractAdts_multiplexed (program : Program) (packets : List (TsPacket program))
    (tables : TablesFirst packets) :
    extractAdtsFromTs (multiplexed packets) = .ok (elementary packets) := by
  have nonempty : packets ≠ [] := by
    obtain ⟨before, pat, between, pmt, behind, rfl, _⟩ := tables
    simp
  obtain ⟨sync, inside⟩ := index_multiplexed nonempty
  have found : loop (skipToSync (multiplexed packets)) ((multiplexed packets).length + 1) 0 =
      .ok 0 := by
    obtain ⟨first, looped, _⟩ := firstSync_total (multiplexed packets)
    apply Runs.loop_eq (Runs.done _) ⟨first, looped⟩
    rw [skipToSync, if_pos inside, sync, ok_bind, if_neg (by simp)]
    rfl
  have unknown : Demuxer.Knows program { offset := 0 } := ⟨.inl rfl, .inl rfl⟩
  obtain ⟨out, looped, _⟩ := packets_total (Nat.zero_le (multiplexed packets).length)
  rw [extractAdtsFromTs, found, ok_bind,
    (runs_packets packets unknown (nil_append _).symm rfl).loop_eq ⟨out, looped⟩,
    foldl_tablesFirst tables]

def smallProgram : Program :=
  ⟨0x1000, 0x100, by decide, by decide, by decide⟩

def plainFraming (adaptation : Option Bytes) : Framing := ⟨false, 0, 0, adaptation⟩

def smallMap : PmtSection where
  reserved := 0xB
  programNumber := 1
  version := 0xC1
  sectionNumber := 0
  lastSectionNumber := 0
  pcrReserved := 7
  pcrPid := 0x100
  infoReserved := 0xF
  programInfo := []
  entries := [⟨0x1B, 7, 0x101, 0xF, [], by decide⟩, ⟨0x0F, 7, 0x100, 0xF, [1, 2], by decide⟩]
  crc := ⟨1, 2, 3, 4⟩
  fits := by decide

def smallHeader : PesHeader := ⟨0xC0, 0, 0x8080, [0x21, 0, 1, 0, 1], by decide⟩

/-- A null packet full of sync bytes, the tables with video in between, and one PES packet in
two transport packets, the first with an adaptation field. -/
def smallStream : List (TsPacket smallProgram) :=
  [.other 0x1F 0xFF 0x10 (List.replicate 184 0x47) length_replicate (by decide),
    .carrying (plainFraming none) (.pat oneProgram [] (List.replicate 163 0xFF))
      ⟨by decide, by decide⟩ (by decide +kernel),
    .other 0x41 0x01 0x10 (List.replicate 184 0) length_replicate (by decide),
    .carrying (plainFraming none) (.pmt smallMap [] (List.replicate 155 0xFF))
      ⟨by decide, by decide⟩ (by decide +kernel),
    .carrying (plainFraming (some (List.replicate 10 0)))
      (.pesStart smallHeader (List.replicate 159 0xAA)) trivial (by decide +kernel),
    .carrying (plainFraming none) (.pesData (List.replicate 184 0xBB)) trivial
      (by decide +kernel)]

theorem small_stream_demultiplexed :
    TablesFirst smallStream ∧
      extractAdtsFromTs (multiplexed smallStream) =
        .ok (List.replicate 159 0xAA ++ List.replicate 184 0xBB) := by
  have tables : TablesFirst smallStream := by
    refine ⟨[_], _, [_], _, [_, _], rfl, rfl, rfl, ?_⟩
    simp [TsPacket.isAudio]
  have audio : elementary smallStream = List.replicate 159 0xAA ++ List.replicate 184 0xBB := by
    simp only [elementary, smallStream, flatMap_cons, flatMap_nil, TsPacket.elementary,
      Content.elementary, nil_append, append_nil]
  rw [← audio]
  exact ⟨tables, extractAdts_multiplexed smallProgram smallStream tables⟩

end KizunaLink.Hls
