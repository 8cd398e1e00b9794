import KizunaLink.Player.Playback

/-!
# The lyrics of a player

Model of `spawn_lyrics_fetch` and `sync_lyrics` (discord/player/manager/lyrics.rs),
of the subscription of a player (discord/player/context.rs) and of the endpoints
that change it (api/rest/routes/lyrics.rs).  A fetch is a task of its own, which goes
on when its track is replaced; `sync_lyrics` is part of a round of a monitor.  All
of them work on the one `lyrics_data` and `last_lyric_index` of the player, which no
start of a track resets.

Each access to what is shared is a step.  Only `sync_lyrics` keeps the lock of the
lyrics from one step to another.  An aborted monitor may finish the round it is in.
-/

set_option autoImplicit false

namespace KizunaLink.Player

open KizunaLink.Lib

structure LyricsLine where
  timestamp : Nat
  duration : Nat
  text : String
  deriving DecidableEq, Repr

structure LyricsData where
  provider : String
  text : String
  lines : Option (List LyricsLine)
  deriving DecidableEq, Repr

structure LineEvent where
  lineIndex : Int
  line : LyricsLine
  skipped : Bool
  deriving DecidableEq, Repr

inductive LyricsEvent where
  | lyricsFound (sourceName : String) (lyrics : LyricsData)
  | lyricsNotFound
  | lyricsLine (event : LineEvent)
  deriving DecidableEq, Repr

/-- A fetch of `start_playback` begins by looking at the subscription, and one of the
endpoint at the lyrics. -/
inductive FetchPoint where
  | spawned
  | asking
  | loading
  | storing (lyrics : LyricsData)
  | sending (lyrics : LyricsData)
  deriving DecidableEq, Repr

structure LyricsFetch where
  playback : Nat
  sourceName : String
  point : FetchPoint
  deriving DecidableEq, Repr

/-- Where the `sync_lyrics` of a round stands; while it sends and stores, it has the lock. -/
inductive SyncPoint where
  | waiting
  | testing (posMs : Nat)
  | syncing (posMs : Nat)
  | sending (lines : List LyricsLine) (next target : Int)
  | storing (target : Int)
  deriving DecidableEq, Repr

/-- `subscribing` is an endpoint between its two stores, which has the lock of the player.
`latest` is the track launched last, `events` are those sent since, and `fetched` are the
lyrics that were found, each with the track they were asked for. -/
structure LyricsPlayer where
  tracks : PlayerTracks := {}
  subscribed : Bool := false
  subscribing : Bool := false
  lyricsData : Option LyricsData := none
  lyricsLock : Option Nat := none
  lastLyricIndex : Int := -1
  fetches : List LyricsFetch := []
  points : Nat → SyncPoint := fun _ => .waiting
  sourceNames : Nat → String := fun _ => ""
  latest : Option Nat := none
  fetched : List (Nat × LyricsData) := []
  events : List LyricsEvent := []

/-- The last line whose time has come. -/
def targetLine (lines : List LyricsLine) (posMs : Nat) : Int :=
  match lines.reverse.findIdx? fun line => decide (line.timestamp ≤ posMs) with
  | some fromEnd => lines.length - 1 - fromEnd
  | none => -1

namespace LyricsPlayer

variable (player : LyricsPlayer)

def send (event : LyricsEvent) : LyricsPlayer := { player with events := player.events ++ [event] }

def setPoint (playback : Nat) (point : SyncPoint) : LyricsPlayer :=
  { player with points := Function.update player.points playback point }

def setFetch (index : Nat) (fetch : LyricsFetch) : LyricsPlayer :=
  { player with fetches := player.fetches.set index fetch }

def endFetch (index : Nat) : LyricsPlayer :=
  { player with fetches := player.fetches.eraseIdx index }

def spawnFetch (playback : Nat) (point : FetchPoint) : LyricsPlayer :=
  { player with
    fetches := player.fetches ++ [⟨playback, player.sourceNames playback, point⟩] }

/-- The answer of `load_lyrics`, which does not tell a failure from lyrics not found. -/
def loaded (index : Nat) (fetch : LyricsFetch) (result : Option LyricsData) : LyricsPlayer :=
  match result with
  | none => (player.endFetch index).send .lyricsNotFound
  | some lyrics =>
    { player.setFetch index { fetch with point := .storing lyrics } with
      fetched := player.fetched ++ [(fetch.playback, lyrics)] }

/-- `sync_lyrics` with the lock, up to the first line it sends. -/
def beginSync (playback : Nat) (lines : List LyricsLine) (posMs : Nat) : LyricsPlayer :=
  let target := targetLine lines posMs
  let last := player.lastLyricIndex
  if target = last then player.setPoint playback .waiting
  else
    let player := { player with lyricsLock := some playback }
    if last < target then player.setPoint playback (.sending lines (last + 1) target)
    else if 0 ≤ target then player.setPoint playback (.sending lines target target)
    else player.setPoint playback (.storing target)

def sync (playback posMs : Nat) : LyricsPlayer :=
  match player.lyricsData.bind LyricsData.lines with
  | none => player.setPoint playback .waiting
  | some lines => player.beginSync playback lines posMs

def sendLine (playback : Nat) (lines : List LyricsLine) (next target : Int) (line : LyricsLine) :
    LyricsPlayer :=
  (player.send (.lyricsLine ⟨next, line, decide (next ≠ target)⟩)).setPoint playback
    (if next = target then .storing target else .sending lines (next + 1) target)

def storeIndex (playback : Nat) (target : Int) : LyricsPlayer :=
  { player.setPoint playback .waiting with lastLyricIndex := target, lyricsLock := none }

def launch (tracks : PlayerTracks) (playback : Nat) (sourceName : String) : LyricsPlayer :=
  { player with
    tracks
    sourceNames := Function.update player.sourceNames playback sourceName
    points := Function.update player.points playback .waiting
    fetches := player.fetches ++ [⟨playback, sourceName, .spawned⟩]
    latest := some playback
    events := [] }

/-- The end of the endpoint: the second store, and a fetch for the track there is. -/
def resetIndex : LyricsPlayer :=
  let player := { player with subscribing := false, lastLyricIndex := -1 }
  match player.tracks.trackInfo with
  | none => player
  | some playback => player.spawnFetch playback .asking

def locks (tracks : PlayerTracks) : TrackPart → Bool
  | .rest (.acquire _) => true
  | .rest (.clear playback) =>
    match tracks.playbacks[playback]? with
    | some { monitor := .clearing own _, .. } => own
    | _ => false
  | _ => false

end LyricsPlayer

inductive FetchAct where
  | testSubscribed
  | testLyrics
  | loaded (result : Option LyricsData)
  | store
  | sendFound
  deriving DecidableEq, Repr

inductive SyncAct where
  | testSubscribed
  | sync (contended : Bool)
  | sendLine
  | storeIndex
  deriving DecidableEq, Repr

inductive LyricsAct where
  | track (act : TrackAct)
  | launch (playback : Nat) (sourceName : String)
  | round (playback posMs : Nat) (stuck : Bool)
  | subscribe
  | resetIndex
  | unsubscribe
  | fetch (index : Nat) (act : FetchAct)
  | monitor (playback : Nat) (act : SyncAct)
  deriving DecidableEq, Repr

namespace LyricsPlayer

variable (player : LyricsPlayer)

def stepFetch (index : Nat) (fetch : LyricsFetch) : FetchAct → Option LyricsPlayer
  | .testSubscribed =>
    match fetch.point with
    | .spawned =>
      some (if player.subscribed then player.setFetch index { fetch with point := .loading }
        else player.endFetch index)
    | .asking | .loading | .storing _ | .sending _ => none
  | .testLyrics =>
    match fetch.point, player.lyricsLock with
    | .asking, none =>
      some (if player.lyricsData.isSome then player.endFetch index
        else player.setFetch index { fetch with point := .loading })
    | .asking, some _ | .spawned, _ | .loading, _ | .storing _, _ | .sending _, _ => none
  | .loaded result =>
    match fetch.point with
    | .loading => some (player.loaded index fetch result)
    | .spawned | .asking | .storing _ | .sending _ => none
  | .store =>
    match fetch.point, player.lyricsLock with
    | .storing lyrics, none =>
      some { player.setFetch index { fetch with point := .sending lyrics } with
        lyricsData := some lyrics }
    | .storing _, some _ | .spawned, _ | .asking, _ | .loading, _ | .sending _, _ => none
  | .sendFound =>
    match fetch.point with
    | .sending lyrics =>
      some ((player.endFetch index).send (.lyricsFound fetch.sourceName lyrics))
    | .spawned | .asking | .loading | .storing _ => none

/-- A lock that another task has at this moment makes a round go without lyrics. -/
def stepMonitor (playback : Nat) : SyncAct → Option LyricsPlayer
  | .testSubscribed =>
    match player.points playback with
    | .testing posMs =>
      some (player.setPoint playback (if player.subscribed then .syncing posMs else .waiting))
    | .waiting | .syncing _ | .sending _ _ _ | .storing _ => none
  | .sync contended =>
    match player.points playback with
    | .syncing posMs =>
      if contended then some (player.setPoint playback .waiting)
      else if player.lyricsLock = none then some (player.sync playback posMs)
      else none
    | .waiting | .testing _ | .sending _ _ _ | .storing _ => none
  | .sendLine =>
    match player.points playback with
    | .sending lines next target =>
      lines[next.toNat]?.map (player.sendLine playback lines next target)
    | .waiting | .testing _ | .syncing _ | .storing _ => none
  | .storeIndex =>
    match player.points playback with
    | .storing target => some (player.storeIndex playback target)
    | .waiting | .testing _ | .syncing _ | .sending _ _ _ => none

def stepTrack (part : TrackPart) : Option PlayerTracks :=
  if player.subscribing && locks player.tracks part then none else player.tracks.stepPart part

def step : LyricsAct → Option LyricsPlayer
  | .track act => (player.stepTrack (.rest act)).map fun tracks => { player with tracks }
  | .launch playback sourceName =>
    (player.stepTrack (.launch playback)).map fun tracks =>
      player.launch tracks playback sourceName
  | .round playback posMs stuck =>
    if player.points playback = .waiting then
      (player.stepTrack (.round playback stuck)).map fun tracks =>
        { player.setPoint playback (.testing posMs) with tracks }
    else none
  | .subscribe =>
    if player.tracks.holder = none ∧ player.subscribing = false then
      some { player with subscribed := true, subscribing := true }
    else none
  | .resetIndex => if player.subscribing then some player.resetIndex else none
  | .unsubscribe =>
    if player.tracks.holder = none ∧ player.subscribing = false then
      some { player with subscribed := false }
    else none
  | .fetch index act => player.fetches[index]?.bind fun fetch => player.stepFetch index fetch act
  | .monitor playback act => player.stepMonitor playback act

end LyricsPlayer

def lyricsSystem : System LyricsPlayer LyricsAct := ⟨LyricsPlayer.step⟩

end KizunaLink.Player
