import KizunaLink.Codec.Buffer
import KizunaLink.Lib.Base64

/-!
# Track tokens

Model of `encode_track` and `decode_track` in lavalink/protocol/codec.  JSON
values are concrete; printing and parsing them is serde_json's and enters as a
parameter.
-/

set_option autoImplicit false

namespace KizunaLink.Codec

open KizunaLink.Lib

inductive Number where
  | posInt (value : UInt64)
  | negInt (value : Int64)
  | float (bits : UInt64)
  deriving DecidableEq

inductive Value where
  | null
  | bool (value : Bool)
  | number (value : Number)
  | string (value : String)
  | array (items : List Value)
  | object (entries : List (String × Value))

structure SerdeJson where
  toString : Value → String
  fromStr : String → Option Value

structure TrackInfo where
  identifier : String
  isSeekable : Bool
  author : String
  length : UInt64
  isStream : Bool
  position : UInt64
  title : String
  uri : Option String
  artworkUrl : Option String
  isrc : Option String
  sourceName : String
  deriving DecidableEq

structure Track where
  encoded : String
  info : TrackInfo
  pluginInfo : Value
  userData : Value

def v1 : UInt8 := 1

def v2 : UInt8 := 2

def v3 : UInt8 := 3

def writeInfo (info : TrackInfo) : Bytes :=
  writeString info.title ++ writeString info.author ++ writeU64 info.length ++
    writeString info.identifier ++ writeU8 info.isStream.toUInt8 ++
    writeNullableString info.uri ++ writeNullableString info.artworkUrl ++
    writeNullableString info.isrc ++ writeString info.sourceName ++ writeU64 info.position

/-- The user data is appended unless it is null or the empty object. -/
def writeUserData (json : SerdeJson) (userData : Value) : Bytes :=
  match userData with
  | .object entries => if entries.isEmpty then [] else writeString (json.toString userData)
  | .null => []
  | _ => writeString (json.toString userData)

def encodeTrack (json : SerdeJson) (metadata : TrackInfo) (userData : Value) :
    Except CodecError String :=
  let inner := writeU8 v3 ++ (writeInfo metadata ++ writeUserData json userData)
  let header := UInt32.ofNat inner.length ||| ((1 : UInt32) <<< 30)
  .ok (Base64.encode (writeU32 header ++ inner))

def readUris (version : UInt8) :
    Read (Option String × Option String × Option String) := fun stream =>
  if version = v2 then do
    let (uri, stream) ← readNullableString stream
    pure ((uri, none, none), stream)
  else if version = v3 then do
    let (uri, stream) ← readNullableString stream
    let (artworkUrl, stream) ← readNullableString stream
    let (isrc, stream) ← readNullableString stream
    pure ((uri, artworkUrl, isrc), stream)
  else pure ((none, none, none), stream)

def readInfo (version : UInt8) : Read TrackInfo := fun stream => do
  let (title, stream) ← readString stream
  let (author, stream) ← readString stream
  let (length, stream) ← readU64 stream
  let (identifier, stream) ← readString stream
  let (isStream, stream) ← readU8 stream
  let (uris, stream) ← readUris version stream
  let (sourceName, stream) ← readString stream
  let (position, stream) ← readU64 stream
  pure
    ({ identifier := identifier
       isSeekable := !(isStream != 0)
       author := author
       length := length
       isStream := isStream != 0
       position := position
       title := title
       uri := uris.1
       artworkUrl := uris.2.1
       isrc := uris.2.2
       sourceName := sourceName }, stream)

/-- Optional user data: every failure to read or parse it yields the empty object. -/
def readUserData (json : SerdeJson) (stream : Bytes) : Value :=
  match readString stream with
  | .ok (text, _) => (json.fromStr text).getD (.object [])
  | .error _ => .object []

def readVersion (flags : UInt32) : Read UInt8 := fun stream =>
  if flags &&& 1 ≠ 0 then readU8 stream else .ok (v1, stream)

def decodeTrack (json : SerdeJson) (encoded : String) : Except CodecError Track :=
  if encoded = "" then .error .emptyInput
  else
    match Base64.decode encoded with
    | none => .error .base64
    | some rawPayload =>
      if rawPayload.length < 4 then .error (.truncatedBuffer "header")
      else do
        let (envelope, stream) ← readU32 rawPayload
        let flags := (envelope >>> 30) &&& 0x03
        let (version, stream) ← readVersion flags stream
        if ¬ (v1 ≤ version ∧ version ≤ v3) then .error (.unknownVersion version)
        else do
          let (info, stream) ← readInfo version stream
          pure
            { encoded := encoded
              info := info
              pluginInfo := .object []
              userData := readUserData json stream }

end KizunaLink.Codec
