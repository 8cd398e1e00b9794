import KizunaLink.Hls.Reader
import KizunaLink.Lib.Checked

/-!
# The MPEG-TS demultiplexer

Model of media/sources/youtube/hls/ts_demux.rs.  Indexing and slicing are checked,
and the loops have fuel, so `extractAdtsFromTs` returns bytes only when no access
was outside the input and every loop ended.

Sixteen-bit numbers and `usize` are `Nat`: nothing here comes near their bounds.
-/

set_option autoImplicit false

namespace KizunaLink.Hls

open KizunaLink.Lib

def tsPacketSize : Nat := 188

def tsSyncByte : UInt8 := 0x47

def patPid : Nat := 0

/-- ISO/IEC 13818-7, AAC in ADTS. -/
def streamTypeAac : UInt8 := 0x0F

/-- ISO/IEC 14496-3, AAC in LATM. -/
def streamTypeAacLatm : UInt8 := 0x11

/-- `((high & mask) << 8) | low`. -/
def masked (mask : Nat) (high low : UInt8) : Nat := ((high.toNat &&& mask) <<< 8) ||| low.toNat

/-- The section behind the pointer field, from which both tables are parsed; `none` when the
pointer leads out of the payload. -/
def sectionData (payload : Bytes) (payloadStart : Bool) : Checked (Option Bytes) :=
  if payloadStart && !payload.isEmpty then do
    let pointer := (← index payload 0).toNat
    if payload.length ≤ 1 + pointer then pure none
    else do
      let data ← sliceFrom payload (1 + pointer)
      pure (some data)
  else pure (some payload)

def patEntry (data : Bytes) (entriesEnd pos : Nat) : Checked (Turn Nat (Option Nat)) :=
  if pos + 4 ≤ entriesEnd then do
    let programNumber := ((← index data pos).toNat <<< 8) ||| (← index data (pos + 1)).toNat
    let pid := masked 0x1F (← index data (pos + 2)) (← index data (pos + 3))
    if programNumber ≠ 0 then pure (.done (some pid)) else pure (.next (pos + 4))
  else pure (.done none)

def parsePat (payload : Bytes) (payloadStart : Bool) : Checked (Option Nat) := do
  match ← sectionData payload payloadStart with
  | none => pure none
  | some data =>
    if data.length < 8 then pure none
    else do
      let _tableId ← index data 0
      let sectionLength := masked 0x0F (← index data 1) (← index data 2)
      let headerSize := 8
      let entriesEnd := min (headerSize + (sectionLength - 5)) data.length
      loop (patEntry data entriesEnd) (data.length + 1) headerSize

def isAudioType (streamType : UInt8) : Bool :=
  streamType == streamTypeAac || streamType == streamTypeAacLatm ||
    (streamType == 0x03 || streamType == 0x04)

def pmtEntry (data : Bytes) (sectionEnd pos : Nat) : Checked (Turn Nat (Option Nat)) :=
  if pos + 5 ≤ sectionEnd then do
    let streamType ← index data pos
    let elementaryPid := masked 0x1F (← index data (pos + 1)) (← index data (pos + 2))
    let esInfoLength := masked 0x0F (← index data (pos + 3)) (← index data (pos + 4))
    if isAudioType streamType then pure (.done (some elementaryPid))
    else pure (.next (pos + (5 + esInfoLength)))
  else pure (.done none)

def parsePmt (payload : Bytes) (payloadStart : Bool) : Checked (Option Nat) := do
  match ← sectionData payload payloadStart with
  | none => pure none
  | some data =>
    if data.length < 12 then pure none
    else do
      let sectionLength := masked 0x0F (← index data 1) (← index data 2)
      let programInfoLength := masked 0x0F (← index data 10) (← index data 11)
      let sectionEnd := min (3 + (sectionLength - 4)) data.length
      loop (pmtEntry data sectionEnd) (data.length + 1) (12 + programInfoLength)

/-- The output with the payload's part of the elementary stream appended.  A payload that
starts a PES packet without its start code is taken whole. -/
def extractPesPayload (payload : Bytes) (payloadStart : Bool) (out : Bytes) : Checked Bytes :=
  if payloadStart then
    if payload.length < 9 then pure out
    else do
      let startCode := [← index payload 0, ← index payload 1, ← index payload 2]
      if startCode ≠ [0x00, 0x00, 0x01] then pure (out ++ payload)
      else do
        let headerDataLength := (← index payload 8).toNat
        let pesHeaderSize := 9 + headerDataLength
        if pesHeaderSize < payload.length then do
          let rest ← sliceFrom payload pesHeaderSize
          pure (out ++ rest)
        else pure out
  else pure (out ++ payload)

/-- A packet's payload with its PID and the flag of a payload that starts a unit. -/
structure Payload where
  pid : Nat
  payloadStart : Bool
  bytes : Bytes

/-- The header of a packet and what it leaves of the packet; `none` when the packet is
marked as damaged or carries no payload. -/
def packetPayload (packet : Bytes) : Checked (Option Payload) := do
  let flags ← index packet 1
  let transportError := flags &&& 0x80 != 0
  let payloadStart := flags &&& 0x40 != 0
  let pid := masked 0x1F flags (← index packet 2)
  let adaptationFieldControl := ((← index packet 3) >>> 4) &&& 0x03
  if transportError then pure none
  else do
    let payloadOffset ←
      if adaptationFieldControl = 2 ∨ adaptationFieldControl = 3 then do
        let adaptationLength := (← index packet 4).toNat
        pure (4 + (1 + adaptationLength))
      else pure 4
    if adaptationFieldControl = 0 ∨ adaptationFieldControl = 2 then pure none
    else if tsPacketSize ≤ payloadOffset then pure none
    else do
      let bytes ← sliceFrom packet payloadOffset
      pure (some { pid, payloadStart, bytes })

structure Demuxer where
  offset : Nat
  pmtPid : Option Nat := none
  audioPid : Option Nat := none
  adtsOut : Bytes := []

/-- A table that names no PID leaves the one that is known. -/
def Demuxer.dispatch (state : Demuxer) (payload : Payload) : Checked Demuxer :=
  if payload.pid = patPid then do
    let found ← parsePat payload.bytes payload.payloadStart
    pure { state with pmtPid := found <|> state.pmtPid }
  else if some payload.pid = state.pmtPid then do
    let found ← parsePmt payload.bytes payload.payloadStart
    pure { state with audioPid := found <|> state.audioPid }
  else if some payload.pid = state.audioPid then do
    let adtsOut ← extractPesPayload payload.bytes payload.payloadStart state.adtsOut
    pure { state with adtsOut }
  else pure state

/-- One turn of the loop over the packets.  Behind a packet without the sync byte it goes on
at the next sync byte. -/
def nextPacket (tsData : Bytes) (state : Demuxer) : Checked (Turn Demuxer Bytes) :=
  if state.offset + tsPacketSize ≤ tsData.length then do
    let packet ← slice tsData state.offset (state.offset + tsPacketSize)
    let offset := state.offset + tsPacketSize
    if (← index packet 0) ≠ tsSyncByte then do
      let remaining ← sliceFrom tsData offset
      match remaining.findIdx? (· == tsSyncByte) with
      | some syncPos => pure (.next { state with offset := offset + syncPos })
      | none => pure (.done state.adtsOut)
    else
      match ← packetPayload packet with
      | none => pure (.next { state with offset })
      | some payload => do
          let state ← Demuxer.dispatch { state with offset } payload
          pure (.next state)
  else pure (.done state.adtsOut)

/-- One turn of the loop to the first sync byte. -/
def skipToSync (tsData : Bytes) (offset : Nat) : Checked (Turn Nat Nat) :=
  if offset < tsData.length then do
    if (← index tsData offset) ≠ tsSyncByte then pure (.next (offset + 1))
    else pure (.done offset)
  else pure (.done offset)

def extractAdtsFromTs (tsData : Bytes) : Checked Bytes := do
  let offset ← loop (skipToSync tsData) (tsData.length + 1) 0
  loop (nextPacket tsData) (tsData.length + 1) { offset }

end KizunaLink.Hls
