import KizunaLink.Hls.TsDemux
import KizunaLink.Lib.Segment

/-!
# The demultiplexer on hostile input

The lengths in a transport stream are the sender's: of the adaptation field, the
pointer field, the program and stream descriptors and the PES header.  Whatever they
say, each is compared with what is there before it is used, every turn of a loop
moves forward, and what is written out is the rest of one packet.
-/

set_option autoImplicit false

namespace KizunaLink.Hls

open KizunaLink.Lib List

variable {tsData : Bytes} (payload : Bytes) (payloadStart : Bool)

theorem sectionData_total : ∃ data, sectionData payload payloadStart = .ok data := by
  unfold sectionData
  split
  · rename_i condition
    have nonempty : 0 < payload.length := by
      cases payload with
      | nil => simp at condition
      | cons first rest => simp
    rw [index_ok nonempty, ok_bind]
    dsimp only
    split
    · exact ⟨none, rfl⟩
    · rw [sliceFrom_ok (by omega)]
      exact ⟨_, rfl⟩
  · exact ⟨some payload, rfl⟩

/-- Each entry of the table lies behind the one before. -/
def Forward {Found : Type} (data : Bytes) (turn : Nat → Checked (Turn Nat Found)) : Prop :=
  ∀ pos, (∃ next, turn pos = .ok (.next next) ∧ data.length - next < data.length - pos) ∨
    ∃ found, turn pos = .ok (.done found)

theorem entries_total {Found : Type} {turn : Nat → Checked (Turn Nat Found)} {data : Bytes}
    (forward : Forward data turn) (pos : Nat) :
    ∃ found, loop turn (data.length + 1) pos = .ok found :=
  loop_returns (fun pos => data.length - pos) forward (Nat.lt_succ_of_le (Nat.sub_le _ _))

theorem patEntry_forward {data : Bytes} {entriesEnd : Nat} (within : entriesEnd ≤ data.length) :
    Forward data (patEntry data entriesEnd) := by
  intro pos
  unfold patEntry
  split
  · rw [index_ok (by omega), index_ok (by omega), index_ok (by omega), index_ok (by omega)]
    simp only [ok_bind]
    split
    · exact .inr ⟨_, rfl⟩
    · exact .inl ⟨_, rfl, by omega⟩
  · exact .inr ⟨none, rfl⟩

theorem parsePat_total : ∃ found, parsePat payload payloadStart = .ok found := by
  obtain ⟨data, read⟩ := sectionData_total payload payloadStart
  rw [parsePat, read, ok_bind]
  cases data with
  | none => exact ⟨none, rfl⟩
  | some data =>
    dsimp only
    split
    · exact ⟨none, rfl⟩
    · rw [index_ok (by omega), index_ok (by omega), index_ok (by omega)]
      exact entries_total (patEntry_forward (Nat.min_le_right _ _)) 8

theorem pmtEntry_forward {data : Bytes} {sectionEnd : Nat} (within : sectionEnd ≤ data.length) :
    Forward data (pmtEntry data sectionEnd) := by
  intro pos
  unfold pmtEntry
  split
  · rw [index_ok (by omega), index_ok (by omega), index_ok (by omega), index_ok (by omega),
      index_ok (by omega)]
    simp only [ok_bind]
    split
    · exact .inr ⟨_, rfl⟩
    · exact .inl ⟨_, rfl, by omega⟩
  · exact .inr ⟨none, rfl⟩

theorem parsePmt_total : ∃ found, parsePmt payload payloadStart = .ok found := by
  obtain ⟨data, read⟩ := sectionData_total payload payloadStart
  rw [parsePmt, read, ok_bind]
  cases data with
  | none => exact ⟨none, rfl⟩
  | some data =>
    dsimp only
    split
    · exact ⟨none, rfl⟩
    · rw [index_ok (by omega), index_ok (by omega), index_ok (by omega), index_ok (by omega)]
      exact entries_total (pmtEntry_forward (Nat.min_le_right _ _)) _

theorem extractPesPayload_total (out : Bytes) :
    ∃ skipped ≤ payload.length,
      extractPesPayload payload payloadStart out = .ok (out ++ payload.drop skipped) := by
  have nothing : out = out ++ payload.drop payload.length := by
    rw [List.drop_length, append_nil]
  unfold extractPesPayload
  split
  · split
    · exact ⟨payload.length, Nat.le_refl _, congrArg Except.ok nothing⟩
    · rw [index_ok (by omega), index_ok (by omega), index_ok (by omega), index_ok (by omega)]
      simp only [ok_bind]
      split
      · exact ⟨0, Nat.zero_le _, rfl⟩
      · split
        · rename_i inside
          rw [sliceFrom_ok (Nat.le_of_lt inside)]
          exact ⟨_, Nat.le_of_lt inside, rfl⟩
        · exact ⟨payload.length, Nat.le_refl _, congrArg Except.ok nothing⟩
  · exact ⟨0, Nat.zero_le _, rfl⟩

theorem packetPayload_total {packet : Bytes} (size : packet.length = tsPacketSize) :
    ∃ carried, packetPayload packet = .ok carried ∧
      ∀ payload ∈ carried, (∃ start ≤ tsPacketSize, payload.bytes = packet.drop start) ∧
        ∀ flags low, index packet 1 = .ok flags → index packet 2 = .ok low →
          payload.pid = masked 0x1F flags low := by
  have size' : packet.length = 188 := size
  unfold packetPayload
  rw [index_ok (by omega), index_ok (by omega), index_ok (by omega), index_ok (by omega)]
  simp only [ok_bind]
  split
  · exact ⟨none, rfl, by simp⟩
  · split
    all_goals
      simp only [ok_bind, pure, Except.pure]
      split
      · exact ⟨none, rfl, by simp⟩
      · split
        · exact ⟨none, rfl, by simp⟩
        · rename_i inside
          rw [sliceFrom_ok (by omega)]
          refine ⟨_, rfl, fun payload carried => ?_⟩
          cases carried
          refine ⟨⟨_, Nat.le_of_not_le inside, rfl⟩, fun flags low first second => ?_⟩
          cases first
          cases second
          rfl

theorem dispatch_total (state : Demuxer) (payload : Payload) :
    ∃ next, state.dispatch payload = .ok next ∧ next.offset = state.offset ∧
      ∃ skipped ≤ payload.bytes.length,
        next.adtsOut = state.adtsOut ++ payload.bytes.drop skipped := by
  have nothing : state.adtsOut =
      state.adtsOut ++ payload.bytes.drop payload.bytes.length := by
    rw [List.drop_length, append_nil]
  unfold Demuxer.dispatch
  split
  · obtain ⟨found, parsed⟩ := parsePat_total payload.bytes payload.payloadStart
    rw [parsed]
    exact ⟨_, rfl, rfl, _, Nat.le_refl _, nothing⟩
  · split
    · obtain ⟨found, parsed⟩ := parsePmt_total payload.bytes payload.payloadStart
      rw [parsed]
      exact ⟨_, rfl, rfl, _, Nat.le_refl _, nothing⟩
    · split
      · obtain ⟨skipped, within, extracted⟩ :=
          extractPesPayload_total payload.bytes payload.payloadStart state.adtsOut
        rw [extracted]
        exact ⟨_, rfl, rfl, skipped, within, rfl⟩
      · exact ⟨_, rfl, rfl, _, Nat.le_refl _, nothing⟩

/-- The demultiplexer stands inside the input and has written segments from before there. -/
structure Demuxer.Safe (tsData : Bytes) (state : Demuxer) : Prop where
  inside : state.offset ≤ tsData.length
  pieces : Pieces tsData state.offset state.adtsOut

theorem Demuxer.Safe.append {state next : Demuxer} (safe : state.Safe tsData)
    (inside : state.offset + tsPacketSize ≤ tsData.length)
    (offset : next.offset = state.offset + tsPacketSize) {skipped : Nat}
    (within : skipped ≤ tsPacketSize)
    (appended : next.adtsOut = state.adtsOut ++ (cut tsData (state.offset, state.offset +
      tsPacketSize)).drop skipped) :
    next.Safe tsData := by
  refine ⟨by rw [offset]; exact inside, ?_⟩
  rw [appended, cut_drop, offset]
  exact safe.pieces.snoc (Nat.le_add_right _ _) (Nat.add_le_add_left within _)

theorem nextPacket_total {state : Demuxer} (safe : state.Safe tsData) :
    (∃ next, nextPacket tsData state = .ok (.next next) ∧ next.Safe tsData ∧
        tsData.length - next.offset < tsData.length - state.offset) ∨
      ∃ out, nextPacket tsData state = .ok (.done out) ∧ Pieces tsData tsData.length out := by
  have finished : Pieces tsData tsData.length state.adtsOut := safe.pieces.mono safe.inside
  unfold nextPacket
  split
  case isFalse => exact .inr ⟨_, rfl, finished⟩
  case isTrue inside =>
    have forward : 0 < tsPacketSize := by decide
    have packet : slice tsData state.offset (state.offset + tsPacketSize) =
        .ok (cut tsData (state.offset, state.offset + tsPacketSize)) :=
      slice_ok (Nat.le_add_right _ _) inside
    have size : (cut tsData (state.offset, state.offset + tsPacketSize)).length =
        tsPacketSize := by
      rw [cut, length_take, length_drop]
      omega
    rw [packet, ok_bind, index_ok (by omega)]
    simp only [ok_bind]
    split
    · rw [sliceFrom_ok inside, ok_bind]
      split
      · rename_i syncPos found
        obtain ⟨bound, _⟩ := List.findIdx?_eq_some_iff_getElem.mp found
        rw [length_drop] at bound
        refine .inl ⟨_, rfl, ⟨?_, safe.pieces.mono ?_⟩, ?_⟩ <;> dsimp only <;> omega
      · exact .inr ⟨_, rfl, finished⟩
    · obtain ⟨carried, read, behind⟩ := packetPayload_total size
      rw [read, ok_bind]
      cases carried with
      | none =>
        refine .inl ⟨_, rfl, ⟨inside, safe.pieces.mono ?_⟩, ?_⟩ <;> dsimp only <;> omega
      | some payload =>
        obtain ⟨⟨start, before, bytes⟩, _⟩ := behind payload rfl
        obtain ⟨next, dispatched, offset, skipped, within, appended⟩ :=
          dispatch_total { state with offset := state.offset + tsPacketSize } payload
        rw [bytes, length_drop, size] at within
        rw [bytes, drop_drop] at appended
        dsimp only at offset appended ⊢
        rw [dispatched]
        refine .inl ⟨next, rfl, safe.append inside offset ?_ appended, ?_⟩ <;> omega

theorem skipToSync_total {offset : Nat} (inside : offset ≤ tsData.length) :
    (∃ next, skipToSync tsData offset = .ok (.next next) ∧ next ≤ tsData.length ∧
        tsData.length - next < tsData.length - offset) ∨
      ∃ first, skipToSync tsData offset = .ok (.done first) ∧ first ≤ tsData.length := by
  unfold skipToSync
  split
  · rename_i before
    rw [index_ok before, ok_bind]
    split
    · exact .inl ⟨_, rfl, before, by omega⟩
    · exact .inr ⟨_, rfl, inside⟩
  · exact .inr ⟨_, rfl, inside⟩

theorem firstSync_total (tsData : Bytes) :
    ∃ first, loop (skipToSync tsData) (tsData.length + 1) 0 = .ok first ∧
      first ≤ tsData.length :=
  loop_total (fun offset => tsData.length - offset) (fun _ => skipToSync_total)
    (Nat.zero_le _) (Nat.lt_succ_of_le (Nat.sub_le _ _))

theorem packets_total {offset : Nat} (inside : offset ≤ tsData.length) :
    ∃ out, loop (nextPacket tsData) (tsData.length + 1) { offset } = .ok out ∧
      Pieces tsData tsData.length out := by
  have safe : Demuxer.Safe tsData { offset } := ⟨inside, pieces_nil tsData offset⟩
  exact loop_total (fun state : Demuxer => tsData.length - state.offset)
    (fun _ => nextPacket_total) safe (Nat.lt_succ_of_le (Nat.sub_le _ _))

/-- For every input the demultiplexer ends without an access outside it, and its output is
put together from segments of the input, in order and without overlap. -/
theorem extractAdts_safe (tsData : Bytes) :
    ∃ out, extractAdtsFromTs tsData = .ok out ∧ Pieces tsData tsData.length out ∧
      out.Sublist tsData ∧ out.length ≤ tsData.length := by
  obtain ⟨offset, found, inside⟩ := firstSync_total tsData
  obtain ⟨out, looped, pieces⟩ := packets_total inside
  refine ⟨out, ?_, pieces, pieces.sublist, pieces.sublist.length_le⟩
  rw [extractAdtsFromTs, found]
  exact looped

end KizunaLink.Hls
