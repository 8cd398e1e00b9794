import KizunaLink.Hls.Fetcher
import Mathlib.Data.Finset.Insert

/-!
# Resolving a playlist

Model of `resolve_playlist` (media/sources/youtube/hls/resolver.rs).  The recursion
is a loop: its turn fetches one playlist and leaves with its segments or goes on with
the URL that the master playlist selects.  The server answers each request with any
status and text, depending on the requests before it, and the URL parser is any
function; its result keeps the serialized URL apart from the fragment.
-/

set_option autoImplicit false

namespace KizunaLink.Hls

open KizunaLink.Lib KizunaLink.Source M3u8 List

def maxPlaylistDepth : Nat := 8

inductive ResolutionError where
  | invalidUrl
  | cycle
  | depth
  | noVariants
  | fetch (problem : String)
  deriving DecidableEq, Repr

def ResolutionError.text : ResolutionError → String
  | .invalidUrl => "invalid HLS playlist URL"
  | .cycle => "HLS playlist cycle detected"
  | .depth => "HLS playlist nesting exceeded 8 levels"
  | .noVariants => "HLS master playlist has no variants"
  | .fetch problem => problem

structure PlaylistUrl where
  scheme : String
  host : Option Chars
  address : Chars
  fragment : Option Chars
  deriving DecidableEq, Repr

def PlaylistUrl.setFragment (url : PlaylistUrl) (fragment : Option Chars) : PlaylistUrl :=
  { url with fragment }

def PlaylistUrl.toText (url : PlaylistUrl) : Chars :=
  match url.fragment with
  | some fragment => url.address ++ '#' :: fragment
  | none => url.address

def canonicalUrl (parse : Chars → Option PlaylistUrl) (url : Chars) :
    Except ResolutionError Chars :=
  match parse url with
  | none => .error .invalidUrl
  | some parsed =>
    if (parsed.scheme ≠ "http" ∧ parsed.scheme ≠ "https") ∨ parsed.host = none then
      .error .invalidUrl
    else .ok (parsed.setFragment none).toText

theorem canonicalUrl_address {parse : Chars → Option PlaylistUrl} {url canonical : Chars}
    (valid : canonicalUrl parse url = .ok canonical) :
    ∃ parsed, parse url = some parsed ∧ canonical = parsed.address := by
  rw [canonicalUrl] at valid
  split at valid
  · cases valid
  · rename_i parsed parsedUrl
    obtain ⟨-, ⟨⟩⟩ := guard_ok valid
    exact ⟨parsed, parsedUrl, rfl⟩

structure PlaylistAnswer where
  status : Nat
  text : Except TransportError Chars

def fetchText (canonicalReason : Nat → Option String)
    (answer : Except TransportError PlaylistAnswer) (url : Chars) : Except String Chars :=
  match answer with
  | .error error => .error error.text
  | .ok answer =>
    if answer.status < 200 ∨ 300 ≤ answer.status then
      .error ("HLS playlist fetch failed " ++ statusText canonicalReason answer.status ++
        ": " ++ String.ofList url)
    else
      match answer.text with
      | .error error => .error error.text
      | .ok text => .ok text

/-- `max_by_key(|v| v.bandwidth)`: the last of the largest. -/
def maxByBandwidth (variants : List Variant) : Option Variant :=
  variants.foldl (fun best variant =>
    match best with
    | some best => if best.bandwidth ≤ variant.bandwidth then some variant else some best
    | none => some variant) none

def bestVariant (variants : List Variant) : Option Variant :=
  (maxByBandwidth (variants.filter (·.isAudioOnly))).or
    ((maxByBandwidth (variants.filter (·.audioGroup.isSome))).or (maxByBandwidth variants))

/-- The default rendition is taken even when it has no URI; the variant's own URL is then
followed. -/
def renditionUri (group : List Media) : Option Chars :=
  ((group.find? (·.isDefault)).or (group.find? (·.uri.isSome))).bind (·.uri)

def selectUrl (master : Master) : Option Chars :=
  (bestVariant master.variants).map fun variant =>
    ((variant.audioGroup.bind master.audioGroup).bind renditionUri).getD variant.url

/-- The URL of a call with its context, and the requests sent before it. -/
structure Resolution where
  url : Chars
  visited : Finset Chars := ∅
  depth : Nat := 0
  fetched : List Chars := []

structure Resolved (Seconds : Type) where
  result : Except ResolutionError
    (List (M3u8.Resource Seconds) × Option (M3u8.Resource Seconds))
  fetched : List Chars

def Resolution.descend (state : Resolution) (canonical url : Chars) : Resolution where
  url := url
  visited := insert canonical state.visited
  depth := state.depth + 1
  fetched := state.fetched ++ [canonical]

section

variable {Seconds : Type} (parse : Chars → Option PlaylistUrl)
  (canonicalReason : Nat → Option String) (parseSeconds : Chars → Option Seconds)
  (server : List Chars → Chars → Except TransportError PlaylistAnswer)

def resolvePlaylistInner (state : Resolution) :
    Checked (Turn Resolution (Resolved Seconds)) :=
  match canonicalUrl parse state.url with
  | .error error => pure (.done ⟨.error error, state.fetched⟩)
  | .ok canonical =>
    if maxPlaylistDepth < state.depth then pure (.done ⟨.error .depth, state.fetched⟩)
    else if canonical ∈ state.visited then pure (.done ⟨.error .cycle, state.fetched⟩)
    else
      match fetchText canonicalReason (server state.fetched canonical) canonical with
      | .error problem => pure (.done ⟨.error (.fetch problem), state.fetched ++ [canonical]⟩)
      | .ok text =>
        match parseM3u8 parseSeconds text canonical with
        | .media segments map =>
          pure (.done ⟨.ok (segments, map), state.fetched ++ [canonical]⟩)
        | .master master =>
          match selectUrl master with
          | none => pure (.done ⟨.error .noVariants, state.fetched ++ [canonical]⟩)
          | some url => pure (.next (state.descend canonical url))

def resolvePlaylist (url : Chars) : Checked (Resolved Seconds) :=
  loop (resolvePlaylistInner parse canonicalReason parseSeconds server) (maxPlaylistDepth + 2)
    { url }

end

/-! ## Termination -/

section

variable {Seconds : Type} {parse : Chars → Option PlaylistUrl}
  {canonicalReason : Nat → Option String} {parseSeconds : Chars → Option Seconds}
  {server : List Chars → Chars → Except TransportError PlaylistAnswer} {state : Resolution}
  {canonical : Chars}

theorem resolvePlaylistInner_cases (state : Resolution) :
    (∃ error, resolvePlaylistInner parse canonicalReason parseSeconds server state =
        .ok (.done ⟨.error error, state.fetched⟩)) ∨
      ∃ canonical, canonicalUrl parse state.url = .ok canonical ∧
        state.depth ≤ maxPlaylistDepth ∧ canonical ∉ state.visited ∧
        ((∃ result, resolvePlaylistInner parse canonicalReason parseSeconds server state =
            .ok (.done ⟨result, state.fetched ++ [canonical]⟩)) ∨
          ∃ url, resolvePlaylistInner parse canonicalReason parseSeconds server state =
            .ok (.next (state.descend canonical url))) := by
  cases valid : canonicalUrl parse state.url with
  | error error => exact .inl ⟨error, by rw [resolvePlaylistInner, valid]; rfl⟩
  | ok canonical =>
    by_cases deep : maxPlaylistDepth < state.depth
    · exact .inl ⟨.depth, by simp only [resolvePlaylistInner, valid, if_pos deep]; rfl⟩
    by_cases seen : canonical ∈ state.visited
    · exact .inl ⟨.cycle, by
        simp only [resolvePlaylistInner, valid, if_neg deep, if_pos seen]; rfl⟩
    refine .inr ⟨canonical, rfl, by omega, seen, ?_⟩
    simp only [resolvePlaylistInner, valid, if_neg deep, if_neg seen]
    cases fetchText canonicalReason (server state.fetched canonical) canonical with
    | error problem => exact .inl ⟨_, rfl⟩
    | ok text =>
      cases parsed : parseM3u8 parseSeconds text canonical with
      | media segments map => exact .inl ⟨_, by simp only [parsed]; rfl⟩
      | master master =>
        cases selected : selectUrl master with
        | none => exact .inl ⟨_, by simp only [parsed, selected]; rfl⟩
        | some url => exact .inr ⟨url, by simp only [parsed, selected]; rfl⟩

/-- Requests of one resolution: few of them, and no two for one URL, whatever its fragment. -/
structure Requests (parse : Chars → Option PlaylistUrl) (fetched : List Chars) : Prop where
  bounded : fetched.length ≤ maxPlaylistDepth + 1
  distinct : fetched.Nodup
  addresses : ∀ text ∈ fetched, ∃ url parsed, parse url = some parsed ∧ text = parsed.address

theorem Requests.none (parse : Chars → Option PlaylistUrl) : Requests parse [] where
  bounded := Nat.zero_le _
  distinct := .nil
  addresses := by
    intro text mem
    cases mem

theorem Requests.append {fetched : List Chars} {url : Chars} (requests : Requests parse fetched)
    (valid : canonicalUrl parse url = .ok canonical) (few : fetched.length ≤ maxPlaylistDepth)
    (fresh : canonical ∉ fetched) : Requests parse (fetched ++ [canonical]) where
  bounded := by
    rw [length_append, length_singleton]
    omega
  distinct := by
    rw [nodup_append]
    refine ⟨requests.distinct, nodup_singleton canonical, ?_⟩
    intro text mem other memOther same
    rw [mem_singleton.mp memOther] at same
    exact fresh (same ▸ mem)
  addresses := by
    intro text mem
    rcases mem_append.mp mem with mem | mem
    · exact requests.addresses text mem
    · rw [mem_singleton.mp mem]
      exact ⟨url, canonicalUrl_address valid⟩

/-- The context of a call agrees with the requests sent before it. -/
structure Resolution.Consistent (parse : Chars → Option PlaylistUrl) (state : Resolution) :
    Prop where
  requests : Requests parse state.fetched
  visited : ∀ text, text ∈ state.visited ↔ text ∈ state.fetched
  depth : state.depth = state.fetched.length

namespace Resolution.Consistent

theorem start (parse : Chars → Option PlaylistUrl) (url : Chars) :
    Resolution.Consistent parse { url } where
  requests := .none parse
  visited := fun text => iff_of_false (Finset.notMem_empty text) not_mem_nil
  depth := rfl

section

variable (consistent : state.Consistent parse)
include consistent

section

variable (valid : canonicalUrl parse state.url = .ok canonical)
  (shallow : state.depth ≤ maxPlaylistDepth) (fresh : canonical ∉ state.visited)
include valid shallow fresh

theorem fetch : Requests parse (state.fetched ++ [canonical]) := by
  refine consistent.requests.append valid ?_ ?_
  · rw [← consistent.depth]
    exact shallow
  · rw [← consistent.visited]
    exact fresh

theorem descend (url : Chars) : (state.descend canonical url).Consistent parse where
  requests := consistent.fetch valid shallow fresh
  visited := by
    intro text
    rw [Resolution.descend, Finset.mem_insert, mem_append, mem_singleton, consistent.visited,
      or_comm]
  depth := by
    rw [Resolution.descend, length_append, length_singleton, consistent.depth]

end

theorem turn :
    (∃ next, resolvePlaylistInner parse canonicalReason parseSeconds server state =
        .ok (.next next) ∧ next.Consistent parse ∧ next.depth = state.depth + 1 ∧
          state.depth ≤ maxPlaylistDepth) ∨
      ∃ resolved, resolvePlaylistInner parse canonicalReason parseSeconds server state =
        .ok (.done resolved) ∧ Requests parse resolved.fetched := by
  rcases resolvePlaylistInner_cases state with
    ⟨error, left⟩ | ⟨canonical, valid, shallow, fresh, ⟨result, left⟩ | ⟨url, turned⟩⟩
  · exact .inr ⟨_, left, consistent.requests⟩
  · exact .inr ⟨_, left, consistent.fetch valid shallow fresh⟩
  · exact .inl ⟨_, turned, consistent.descend valid shallow fresh url, rfl, shallow⟩

theorem next {after : Resolution}
    (turned : resolvePlaylistInner parse canonicalReason parseSeconds server state =
      .ok (.next after)) : after.Consistent parse := by
  rcases consistent.turn with ⟨next, same, holds, -⟩ | ⟨resolved, left, -⟩
  · rw [turned] at same
    cases same
    exact holds
  · rw [turned] at left
    cases left

end

end Resolution.Consistent

theorem resolvePlaylist_returns (url : Chars) :
    ∃ resolved, resolvePlaylist parse canonicalReason parseSeconds server url = .ok resolved ∧
      Requests parse resolved.fetched := by
  -- the depth counter climbs to its limit
  refine loop_total (fun state => maxPlaylistDepth + 1 - state.depth) ?_
    (Resolution.Consistent.start parse url) ?_
  · intro state consistent
    rcases consistent.turn with ⟨next, turned, holds, deeper, shallow⟩ | left
    · exact .inl ⟨next, turned, holds, by omega⟩
    · exact .inr left
  · exact Nat.lt_succ_self _

/-- Against every server, `resolve_playlist` returns after at most nine requests, no two of
them for one URL up to the fragment.  In every call it comes to, a URL that was already
requested ends it with the cycle error, and a tenth request with the depth error, without any
further request. -/
theorem resolvePlaylist_terminates (parse : Chars → Option PlaylistUrl)
    (canonicalReason : Nat → Option String) (parseSeconds : Chars → Option Seconds)
    (server : List Chars → Chars → Except TransportError PlaylistAnswer) (url : Chars) :
    ∃ resolved, resolvePlaylist parse canonicalReason parseSeconds server url = .ok resolved ∧
      Requests parse resolved.fetched ∧
      ∀ state canonical,
        Reaches (resolvePlaylistInner parse canonicalReason parseSeconds server) { url } state →
        canonicalUrl parse state.url = .ok canonical →
        (state.fetched.length = maxPlaylistDepth + 1 →
            resolved = ⟨.error .depth, state.fetched⟩) ∧
          (state.fetched.length ≤ maxPlaylistDepth → canonical ∈ state.fetched →
            resolved = ⟨.error .cycle, state.fetched⟩) := by
  obtain ⟨resolved, returned, requests⟩ := resolvePlaylist_returns url
  refine ⟨resolved, returned, requests, ?_⟩
  intro state canonical reaches valid
  have consistent : state.Consistent parse :=
    reaches.invariant (fun _ _ holds turned => holds.next turned) (.start parse url)
  -- the result of a call that leaves is the result of the whole
  have leaves : ∀ other, resolvePlaylistInner parse canonicalReason parseSeconds server state =
      .ok (.done other) → resolved = other := by
    intro other left
    have same := (reaches.runs (.done left)).loop_eq ⟨resolved, returned⟩
    exact Except.ok.inj (returned.symm.trans same)
  constructor
  · intro full
    have deep : maxPlaylistDepth < state.depth := by
      rw [consistent.depth]
      omega
    apply leaves
    simp only [resolvePlaylistInner, valid, if_pos deep]
    rfl
  · intro few seen
    have shallow : ¬ maxPlaylistDepth < state.depth := by
      rw [consistent.depth]
      omega
    have visited := (consistent.visited canonical).mpr seen
    apply leaves
    simp only [resolvePlaylistInner, valid, if_neg shallow, if_pos visited]
    rfl

end

def sampleUrl (path : Char) : Chars := "http://a/".toList ++ [path]

def sampleParse (url : Chars) : Option PlaylistUrl := some ⟨"http", some ['a'], url, none⟩

/-- Every answer is a master playlist, whose variant depends on the requests before it. -/
def nestedServer (path : Nat → Char) (fetched : List Chars) (_ : Chars) :
    Except TransportError PlaylistAnswer :=
  .ok ⟨200, .ok ("#EXTM3U\n#EXT-X-STREAM-INF:BANDWIDTH=1\n".toList ++
    sampleUrl (path fetched.length))⟩

def sampleResolve (path : Nat → Char) : Checked (Resolved Nat) :=
  resolvePlaylist sampleParse (fun _ => none) (fun _ => none) (nestedServer path) (sampleUrl 'a')

def Resolved.outcome {Seconds : Type} (resolved : Resolved Seconds) :
    Option ResolutionError × Nat :=
  match resolved.result with
  | .error error => (some error, resolved.fetched.length)
  | .ok _ => (none, resolved.fetched.length)

theorem cycle_and_depth_reported :
    (∃ resolved, sampleResolve (fun sent => if sent = 0 then 'b' else 'a') = .ok resolved ∧
      resolved.outcome = (some .cycle, 2) ∧ Requests sampleParse resolved.fetched) ∧
    ∃ resolved, sampleResolve (fun sent => Char.ofNat (98 + sent)) = .ok resolved ∧
      resolved.outcome = (some .depth, 9) ∧ Requests sampleParse resolved.fetched := by
  have returns : ∀ path outcome, (sampleResolve path).map Resolved.outcome = .ok outcome →
      ∃ resolved, sampleResolve path = .ok resolved ∧ resolved.outcome = outcome ∧
        Requests sampleParse resolved.fetched := by
    intro path outcome evaluated
    obtain ⟨resolved, returned, requests, -⟩ := resolvePlaylist_terminates sampleParse
      (fun _ => none) (fun _ => (none : Option Nat)) (nestedServer path) (sampleUrl 'a')
    rw [sampleResolve, returned] at evaluated
    exact ⟨resolved, returned, Except.ok.inj evaluated, requests⟩
  exact ⟨returns _ _ (by decide +kernel), returns _ _ (by decide +kernel)⟩

end KizunaLink.Hls
