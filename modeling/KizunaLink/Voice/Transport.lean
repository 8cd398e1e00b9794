import KizunaLink.Lib.Bytes
import KizunaLink.Lib.Ip

/-!
# The voice transport

Model of discord/gateway/udp_link.rs: the RTP counters, the cipher selection and
the packet that `transmit_opus` hands to the socket.  The ciphers themselves are
not modelled: a packet records the key and the nonce it was sealed with.
-/

set_option autoImplicit false

namespace KizunaLink.Voice

open KizunaLink.Lib

abbrev Bytes := List UInt8

abbrev Key := Vector UInt8 32

structure RtpState where
  sequence : UInt16
  timestamp : UInt32
  nonce : UInt32
  deriving DecidableEq, Repr

def rtpTimestampStep : UInt32 := 960

/-- The values of the next packet and the advanced counters, each wrapping. -/
def RtpState.next (rtp : RtpState) : (UInt16 × UInt32 × UInt32) × RtpState :=
  ((rtp.sequence, rtp.timestamp, rtp.nonce),
    { sequence := rtp.sequence + 1
      timestamp := rtp.timestamp + rtpTimestampStep
      nonce := rtp.nonce + 1 })

inductive CryptoBackend where
  | xChaCha20Poly1305 (key : Key)
  | aes256Gcm (key : Key)
  deriving DecidableEq, Repr

namespace CryptoBackend

def key : CryptoBackend → Key
  | xChaCha20Poly1305 key => key
  | aes256Gcm key => key

def fromMode (mode : String) (secretKey : Key) : Except String CryptoBackend :=
  if mode = "aead_aes256_gcm_rtpsize" then .ok (aes256Gcm secretKey)
  else if mode = "aead_xchacha20_poly1305_rtpsize" then .ok (xChaCha20Poly1305 secretKey)
  else .error ("unsupported Discord voice encryption mode: " ++ mode)

/-- The counter in the leading four bytes, zeros up to the cipher's nonce size. -/
def nonceBytes (crypto : CryptoBackend) (counter : UInt32) : Bytes :=
  beBytes 4 counter.toNat ++
    match crypto with
    | xChaCha20Poly1305 _ => List.replicate 20 0
    | aes256Gcm _ => List.replicate 8 0

theorem fromMode_key {mode : String} {secretKey : Key} {crypto : CryptoBackend}
    (success : fromMode mode secretKey = .ok crypto) : crypto.key = secretKey := by
  simp only [fromMode] at success
  split at success
  · cases success
    rfl
  · split at success
    · cases success
      rfl
    · cases success

end CryptoBackend

structure UDPVoiceTransport where
  address : SocketAddr
  ssrc : UInt32
  crypto : CryptoBackend
  rtp : RtpState
  deriving DecidableEq, Repr

/-- A packet as handed to the socket; `counter` is also appended to it in clear. -/
structure Packet where
  address : SocketAddr
  crypto : CryptoBackend
  header : Bytes
  nonce : Bytes
  counter : UInt32
  payload : Bytes
  deriving DecidableEq, Repr

def Packet.key (packet : Packet) : Key := packet.crypto.key

def rtpHeader (sequence : UInt16) (timestamp ssrc : UInt32) : Bytes :=
  [0x80, 0x78] ++ beBytes 2 sequence.toNat ++ beBytes 4 timestamp.toNat ++ beBytes 4 ssrc.toNat

namespace UDPVoiceTransport

/-- `random` is what `RtpState::randomize` draws when no state is passed. -/
def new (address : SocketAddr) (ssrc : UInt32) (secretKey : Key) (mode : String)
    (rtpState : Option RtpState) (random : RtpState) : Except String UDPVoiceTransport := do
  let crypto ← CryptoBackend.fromMode mode secretKey
  pure { address, ssrc, crypto, rtp := rtpState.getD random }

/-- The counters advance before the cipher runs; `encrypts` is its answer. -/
def transmitOpus (transport : UDPVoiceTransport) (opusData : Bytes) (encrypts : Bool) :
    UDPVoiceTransport × Option Packet :=
  let ((sequence, timestamp, counter), rtp) := transport.rtp.next
  ({ transport with rtp },
    if encrypts then
      some
        { address := transport.address
          crypto := transport.crypto
          header := rtpHeader sequence timestamp transport.ssrc
          nonce := transport.crypto.nonceBytes counter
          counter
          payload := opusData }
    else none)

end UDPVoiceTransport

end KizunaLink.Voice
