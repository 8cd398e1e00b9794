import KizunaLink.Engine.TrackSteps

/-!
# A track stops after its last frame

The samples since the last flush marker are accounted for: from some number on,
a whole number of frames behind the marker, they wait in the channel or in the
pending samples, and those before it were mixed or are left over from the last
frame.  When `mix` stops a track the channel is closed and drained, so less than
a frame waits.

`get_state` stops a track as soon as the decoder has dropped its command channel,
whatever still waits; the condition is about this call.
-/

set_option autoImplicit false

namespace KizunaLink.Engine

open KizunaLink.Lib List

/-- A channel either holds a flush marker, and what is pending does not matter, or
adds to what is pending. -/
theorem replay_cases (frames : List AudioFrame) :
    ∃ rest, (∀ pendingPcm, frames.foldl receivePcm pendingPcm = pendingPcm ++ rest) ∨
      ∀ pendingPcm, frames.foldl receivePcm pendingPcm = rest := by
  induction frames with
  | nil => exact ⟨[], .inl fun pendingPcm => (append_nil pendingPcm).symm⟩
  | cons frame frames ih =>
    obtain ⟨rest, adds | flushed⟩ := ih
    · cases frame with
      | opus packet => exact ⟨rest, .inl fun pendingPcm => adds pendingPcm⟩
      | pcm samples =>
        cases samples with
        | nil => exact ⟨rest, .inr fun _ => adds []⟩
        | cons sample samples =>
          refine ⟨sample :: samples ++ rest, .inl fun pendingPcm => ?_⟩
          rw [foldl_cons, adds]
          exact append_assoc pendingPcm (sample :: samples) rest
    · exact ⟨rest, .inr fun pendingPcm => flushed _⟩

namespace Track

def waiting (track : Track) : List Nat :=
  track.frames.foldl receivePcm track.flow.pendingPcm

def AllMixed (track : Track) : Prop :=
  ∀ sample, track.flushedAt ≤ sample →
    sample < track.flushedAt + (track.pushedCount - track.flushedAt) / frameSize * frameSize →
    sample ∈ track.mixed

/-- The samples from `start` on wait, and those before it are mixed or left over. -/
structure AccountedFrom (track : Track) (start : Nat) : Prop where
  flushed : track.flushedAt ≤ start
  pushed : start ≤ track.pushedCount
  whole : frameSize ∣ start - track.flushedAt
  waiting : track.waiting = List.range' start (track.pushedCount - start)
  taken : ∀ sample, track.flushedAt ≤ sample → sample < start →
    sample ∈ track.mixed ∨ sample ∈ track.leftover

structure DrainSafe (track : Track) : Prop where
  accounted : ∃ start, track.AccountedFrom start
  room : ∀ loaded outLen filled, track.point = .pulling loaded outLen filled →
    filled < outLen → track.pending = [] ∧ track.pendingPos = 0
  done : track.flow.decoderDone = true → track.engineAlive = false ∧ track.frames = []
  finished : track.finished = true →
    track.flow.decoderDone = true ∧ track.flow.pendingPcm.length < frameSize
  exits : track.commandsAlive = false → track.engineAlive = false
  stopped : track.cell = .stopped → track.engineAlive = false ∧ track.AllMixed

/-- The condition on a step: when `get_state` finds the command channel gone,
nothing is left over and less than a frame waits. -/
def StateReadDrained (track : Track) (act : TrackAct) : Prop :=
  match act with
  | .getState => track.cell ≠ .stopped → track.commandsAlive = false →
      track.leftover = [] ∧ track.waiting.length < frameSize
  | _ => True

instance (track : Track) (act : TrackAct) : Decidable (track.StateReadDrained act) := by
  unfold StateReadDrained
  split <;> infer_instance

variable {track : Track}

variable {loaded : PlaybackState}

theorem AccountedFrom.allMixed {start : Nat} (accounted : track.AccountedFrom start)
    (nothingLeft : track.leftover = []) (short : track.waiting.length < frameSize) :
    track.AllMixed := by
  intro sample flushed inFrames
  have waits := accounted.waiting
  obtain ⟨frames, whole⟩ := accounted.whole
  have pushed := accounted.pushed
  have before : sample < start := by
    rw [waits, List.length_range'] at short
    simp only [frameSize] at short whole inFrames
    omega
  have taken := accounted.taken sample flushed before
  rw [nothingLeft] at taken
  exact taken.resolve_right not_mem_nil

theorem AllMixed.more {after : Track} (all : track.AllMixed)
    (flushed : after.flushedAt = track.flushedAt) (pushed : after.pushedCount = track.pushedCount)
    (mixed : ∀ sample ∈ track.mixed, sample ∈ after.mixed) : after.AllMixed := by
  intro sample
  rw [flushed, pushed]
  exact fun atLeast below => mixed sample (all sample atLeast below)

theorem waiting_append (track : Track) (frame : AudioFrame) :
    (track.frames ++ [frame]).foldl receivePcm track.flow.pendingPcm =
      receivePcm track.waiting frame := by
  rw [foldl_append]
  rfl

section

variable (safe : track.DrainSafe)
include safe

theorem DrainSafe.send {frame : AudioFrame}
    {pushedCount flushedAt : Nat} (alive : track.engineAlive = true)
    (accounted : ∃ start, AccountedFrom
      { track with frames := track.frames ++ [frame], pushedCount, flushedAt } start) :
    DrainSafe { track with frames := track.frames ++ [frame], pushedCount, flushedAt } := by
  refine ⟨accounted, safe.room, ?_, safe.finished, safe.exits, ?_⟩
  · intro isDone
    rw [(safe.done isDone).1] at alive
    cases alive
  · intro isStopped
    rw [(safe.stopped isStopped).1] at alive
    cases alive

theorem DrainSafe.push {count : Nat} (positive : 0 < count)
    (alive : track.engineAlive = true) : (track.push count).DrainSafe := by
  apply safe.send alive
  obtain ⟨start, accounted⟩ := safe.accounted
  have pushed := accounted.pushed
  refine ⟨start, { accounted with pushed := Nat.le_add_right_of_le pushed, waiting := ?_ }⟩
  have nonempty : (List.range' track.pushedCount count).isEmpty = false := by
    obtain ⟨count, rfl⟩ := Nat.exists_eq_succ_of_ne_zero (Nat.ne_of_gt positive)
    rfl
  have next : track.pushedCount = start + 1 * (track.pushedCount - start) := by omega
  have total : track.pushedCount - start + count = track.pushedCount + count - start := by omega
  refine (waiting_append track _).trans ?_
  simp only [receivePcm, nonempty, Bool.false_eq_true, if_false]
  rw [accounted.waiting, ← total]
  nth_rewrite 2 [next]
  exact List.range'_append

theorem DrainSafe.flush (alive : track.engineAlive = true) : track.flush.DrainSafe := by
  apply safe.send alive
  refine ⟨track.pushedCount, Nat.le_refl _, Nat.le_refl _, ?_, ?_, ?_⟩
  · rw [Nat.sub_self]
    exact Nat.dvd_zero _
  · rw [Nat.sub_self]
    exact waiting_append track _
  · intro sample atLeast below
    exact absurd below (Nat.not_lt_of_le atLeast)

theorem DrainSafe.pushOpus (packet : List UInt8)
    (alive : track.engineAlive = true) : (track.pushOpus packet).DrainSafe := by
  apply safe.send alive
  obtain ⟨start, accounted⟩ := safe.accounted
  refine ⟨start, { accounted with waiting := ?_ }⟩
  exact (waiting_append track _).trans accounted.waiting

theorem DrainSafe.setCell {cell : PlaybackState}
    (stopped : cell = .stopped → track.engineAlive = false ∧ track.AllMixed) :
    DrainSafe { track with cell } := by
  obtain ⟨start, accounted⟩ := safe.accounted
  exact { safe with accounted := ⟨start, { accounted with }⟩, stopped }

theorem DrainSafe.getState
    (condition : track.StateReadDrained .getState) : track.getState.DrainSafe := by
  simp only [Track.getState]
  split
  · rename_i gone
    obtain ⟨start, accounted⟩ := safe.accounted
    obtain ⟨nothingLeft, short⟩ := condition gone.1 gone.2
    exact safe.setCell fun _ =>
      ⟨safe.exits gone.2, accounted.allMixed nothingLeft short⟩
  · exact safe

theorem DrainSafe.pause (tapeStop : Bool) : (track.pause tapeStop).DrainSafe := by
  apply safe.setCell
  cases tapeStop with
  | true | false => nofun

theorem DrainSafe.play (tapeStop : Bool) : (track.play tapeStop).DrainSafe := by
  apply safe.setCell
  cases tapeStop with
  | true | false => nofun

theorem DrainSafe.goto {point : MixPoint}
    (room : ∀ loaded outLen filled, point = .pulling loaded outLen filled →
      filled < outLen → track.pending = [] ∧ track.pendingPos = 0) :
    DrainSafe { track with point } := by
  obtain ⟨start, accounted⟩ := safe.accounted
  exact { safe with accounted := ⟨start, { accounted with }⟩, room := room }

theorem DrainSafe.mixLeftover {avail pendingPos : Nat} {pending : List Nat} {point : MixPoint}
    (rest : pending.drop pendingPos = track.leftover.drop avail)
    (room : ∀ loaded outLen filled, point = .pulling loaded outLen filled →
      filled < outLen → pending = [] ∧ pendingPos = 0) :
    DrainSafe { track with
      mixed := track.mixed ++ track.leftover.take avail, pending, pendingPos, point } := by
  obtain ⟨start, accounted⟩ := safe.accounted
  refine { safe with accounted := ⟨start, { accounted with taken := ?_ }⟩, room, stopped := ?_ }
  · intro sample atLeast before
    rcases accounted.taken sample atLeast before with earlier | left
    · exact .inl (mem_append_left _ earlier)
    · rw [← take_append_drop avail track.leftover] at left
      rcases mem_append.mp left with now | later
      · exact .inl (mem_append_right _ now)
      · refine .inr ?_
        rw [leftover, rest]
        exact later
  · intro isStopped
    obtain ⟨gone, all⟩ := safe.stopped isStopped
    exact ⟨gone, all.more rfl rfl fun _ member => mem_append_left _ member⟩

theorem DrainSafe.load (outLen : Nat) : (track.load outLen).DrainSafe := by
  have lengths : track.leftover.length = track.pending.length - track.pendingPos := by
    rw [leftover, length_drop]
  simp only [Track.load]
  split
  · exact safe.goto (by simp)
  · by_cases drained : track.pending.length ≤
        track.pendingPos + min outLen track.leftover.length
    · simp only [drained, decide_true, if_true]
      apply safe.mixLeftover
      · rw [drop_nil, drop_eq_nil_of_le (by omega)]
      · exact fun _ _ _ _ _ => ⟨rfl, rfl⟩
    · simp only [drained, decide_false, Bool.false_eq_true, if_false]
      apply safe.mixLeftover
      · rw [leftover, drop_drop]
      · intro loaded room filled pulling notFull
        cases pulling
        omega

end

/-- A frame is taken from the pending samples.  If a flush marker waits in the
channel its samples do not count; otherwise they are the next ones. -/
theorem AccountedFrom.popFrame {start outLen filled : Nat} (accounted : track.AccountedFrom start)
    (enough : frameSize ≤ track.flow.pendingPcm.length)
    (empty : track.pending = [] ∧ track.pendingPos = 0) :
    ∃ start, (track.popFrame loaded outLen filled).AccountedFrom start := by
  have kept : ∀ sample, sample ∈ track.mixed →
      sample ∈ (track.popFrame loaded outLen filled).mixed :=
    fun _ member => mem_append_left _ member
  have none : track.leftover = [] := by
    rw [leftover, empty.1, drop_nil]
  obtain ⟨rest, adds | flushed⟩ := replay_cases track.frames
  · have waits : track.flow.pendingPcm ++ rest =
        List.range' start (track.pushedCount - start) :=
      (adds _).symm.trans accounted.waiting
    have lengths := congrArg List.length waits
    rw [length_append, List.length_range'] at lengths
    have pushed := accounted.pushed
    obtain ⟨frames, whole⟩ := accounted.whole
    have flushed := accounted.flushed
    have frame : track.flow.pendingPcm.take frameSize = List.range' start frameSize := by
      rw [← take_append_of_le_length enough, waits, List.take_range'_of_length_ge (by omega)]
    have further : track.pushedCount - start - frameSize =
        track.pushedCount - (start + frameSize) := by omega
    refine ⟨start + frameSize, Nat.le_add_right_of_le flushed, ?_, ⟨frames + 1, ?_⟩, ?_, ?_⟩
    · change start + frameSize ≤ track.pushedCount
      omega
    · change start + frameSize - track.flushedAt = _
      rw [Nat.mul_add, Nat.mul_one]
      omega
    · calc (track.popFrame loaded outLen filled).waiting
        _ = track.flow.pendingPcm.drop frameSize ++ rest := adds _
        _ = (track.flow.pendingPcm ++ rest).drop frameSize :=
            (drop_append_of_le_length enough).symm
        _ = List.range' (start + frameSize) (track.pushedCount - (start + frameSize)) := by
            rw [waits, List.drop_range', Nat.mul_one, further]
    · intro sample atLeast before
      by_cases earlier : sample < start
      · have taken := accounted.taken sample atLeast earlier
        rw [none] at taken
        exact .inl (kept sample (taken.resolve_right not_mem_nil))
      · -- the sample is one of the frame's, in the part that fits or in the rest
        have inFrame : sample ∈ track.flow.pendingPcm.take frameSize := by
          rw [frame, List.mem_range'_1]
          omega
        rw [← take_append_drop (min (track.flow.pendingPcm.take frameSize).length
          (outLen - filled)) (track.flow.pendingPcm.take frameSize)] at inFrame
        rcases mem_append.mp inFrame with fits | left
        · exact .inl (mem_append_right _ fits)
        · refine .inr ?_
          simp only [leftover, Track.popFrame, empty.1, empty.2, ite_self, nil_append, drop_zero]
          exact left
  · refine ⟨start, { accounted with waiting := ?_, taken := ?_ }⟩
    · exact ((flushed _).trans (flushed _).symm).trans accounted.waiting
    · intro sample atLeast before
      rcases accounted.taken sample atLeast before with earlier | left
      · exact .inl (kept sample earlier)
      · rw [none] at left
        cases left

section

variable (safe : track.DrainSafe)
include safe

theorem DrainSafe.popFrame {outLen filled : Nat} (enough : frameSize ≤ track.flow.pendingPcm.length)
    (empty : track.pending = [] ∧ track.pendingPos = 0) (running : track.finished = false) :
    (track.popFrame loaded outLen filled).DrainSafe := by
  obtain ⟨start, accounted⟩ := safe.accounted
  refine ⟨accounted.popFrame enough empty, ?_, safe.done, ?_, safe.exits, ?_⟩
  · intro _ _ _ pulling notFull
    cases pulling
    -- a frame that leaves room in the buffer fitted whole
    have fits : (track.flow.pendingPcm.take frameSize).length ≤ outLen - filled := by omega
    simp only [Track.popFrame, empty.1, empty.2, ite_self, Nat.min_eq_left fits, List.drop_length,
      nil_append, and_self]
  · intro isFinished
    rw [show track.finished = true from isFinished] at running
    cases running
  · intro isStopped
    obtain ⟨gone, all⟩ := safe.stopped isStopped
    exact ⟨gone, all.more rfl rfl fun _ member => mem_append_left _ member⟩

theorem DrainSafe.receive {frame : AudioFrame}
    {rest : List AudioFrame} (channel : track.frames = frame :: rest)
    (running : track.finished = false) :
    DrainSafe { track with frames := rest, flow := track.flow.receive frame } := by
  obtain ⟨start, accounted⟩ := safe.accounted
  have notDone : track.flow.decoderDone = false := by
    cases isDone : track.flow.decoderDone with
    | false => rfl
    | true =>
      have empty := (safe.done isDone).2
      rw [channel] at empty
      cases empty
  have stays : (track.flow.receive frame).decoderDone = false := by
    cases frame with
    | opus packet => exact notDone
    | pcm samples => simp [FlowController.receive, notDone]
  have same : (track.flow.receive frame).pendingPcm = receivePcm track.flow.pendingPcm frame := by
    cases frame with
    | opus _ | pcm _ => rfl
  refine { safe with
    accounted := ⟨start, { accounted with waiting := ?_ }⟩, done := ?_, finished := ?_ }
  · rw [← accounted.waiting]
    simp [waiting, channel, same]
  · intro isDone
    rw [show (track.flow.receive frame).decoderDone = true from isDone] at stays
    cases stays
  · intro isFinished
    rw [show track.finished = true from isFinished] at running
    cases running

theorem DrainSafe.finish {flow : FlowController}
    (samePcm : flow.pendingPcm = track.flow.pendingPcm) (isDone : flow.decoderDone = true)
    (gone : track.engineAlive = false) (drained : track.frames = [])
    (short : track.flow.pendingPcm.length < frameSize) :
    DrainSafe { track with flow, finished := true, point := .closing loaded } := by
  obtain ⟨start, accounted⟩ := safe.accounted
  refine { safe with
    accounted := ⟨start, { accounted with waiting := ?_ }⟩
    room := nofun
    done := fun _ => ⟨gone, drained⟩
    finished := fun _ => ⟨isDone, ?_⟩ }
  · rw [← accounted.waiting]
    simp only [waiting, samePcm]
  · rw [samePcm]
    exact short

theorem DrainSafe.pull {outLen filled : Nat}
    (pulling : track.point = .pulling loaded outLen filled) :
    (track.pull loaded outLen filled).DrainSafe := by
  have pulled := pull_pulled track loaded outLen filled
  generalize track.pull loaded outLen filled = next at pulled ⊢
  cases pulled with
  | close => exact safe.goto (by simp)
  | finish flow same done short gone =>
    obtain ⟨exited, drained⟩ := gone.elim safe.done id
    exact safe.finish same done exited drained short
  | receive frame rest going waiting => exact safe.receive waiting going
  | pop popped =>
    simp only [pops, Bool.and_eq_true, decide_eq_true_eq, Bool.not_eq_true'] at popped
    obtain ⟨⟨notFull, running⟩, enough⟩ := popped
    exact safe.popFrame enough (safe.room loaded outLen filled pulling notFull) running

theorem DrainSafe.storeStopped (loaded : PlaybackState)
    (tapeActive : Bool) : (track.storeStopped loaded tapeActive).DrainSafe := by
  have stays : DrainSafe { track with point := .ramping loaded } := safe.goto nofun
  apply stays.setCell
  split
  · rename_i ends
    simp only [Bool.and_eq_true, List.isEmpty_iff] at ends
    obtain ⟨⟨isFinished, empty⟩, _⟩ := ends
    intro _
    obtain ⟨isDone, short⟩ := safe.finished isFinished
    obtain ⟨gone, drained⟩ := safe.done isDone
    obtain ⟨start, accounted⟩ := safe.accounted
    refine ⟨gone, (accounted.allMixed ?_ ?_).more rfl rfl fun _ => id⟩
    · rw [leftover, empty, drop_nil]
    · simp only [waiting, drained, foldl_nil]
      exact short
  · exact safe.stopped

theorem DrainSafe.storeRamp (loaded : PlaybackState)
    (rampCompleted : Bool) : (track.storeRamp loaded rampCompleted).DrainSafe := by
  have stays : DrainSafe { track with point := .idle } := safe.goto nofun
  apply stays.setCell
  split
  · cases loaded with
    | stopping | starting => nofun
    | playing | paused | stopped => exact safe.stopped
  · exact safe.stopped

end

theorem alive_of_hasRoom (room : track.hasRoom = true) : track.engineAlive = true := by
  simp only [hasRoom, Bool.and_eq_true] at room
  exact room.1.1

theorem DrainSafe.step {next : Track} {act : TrackAct} (safe : track.DrainSafe)
    (condition : track.StateReadDrained act) (stepped : Stepped track act next) :
    next.DrainSafe := by
  obtain ⟨start, accounted⟩ := safe.accounted
  cases stepped with
  | push count room positive => exact safe.push positive (alive_of_hasRoom room)
  | flush room => exact safe.flush (alive_of_hasRoom room)
  | pushOpus packet room => exact safe.pushOpus packet (alive_of_hasRoom room)
  | dropEngine =>
    exact { safe with
      accounted := ⟨start, { accounted with }⟩
      done := fun isDone => ⟨rfl, (safe.done isDone).2⟩
      exits := fun _ => rfl
      stopped := fun isStopped => ⟨rfl, (safe.stopped isStopped).2⟩ }
  | dropCommands gone =>
    exact { safe with accounted := ⟨start, { accounted with }⟩, exits := fun _ => gone }
  | getState => exact safe.getState condition
  | pause tapeStop => exact safe.pause tapeStop
  | play tapeStop => exact safe.play tapeStop
  | retain outLen _ _ =>
    rw [Track.retain]
    split
    · exact { safe with accounted := ⟨start, { accounted with }⟩ }
    · exact safe.goto (by simp)
  | load outLen _ => exact safe.load outLen
  | pull loaded outLen filled pulling => exact safe.pull pulling
  | storeStopped loaded tapeActive _ => exact safe.storeStopped loaded tapeActive
  | storeRamp loaded rampCompleted _ => exact safe.storeRamp loaded rampCompleted

theorem new_drainSafe (capacity : Nat) : (new capacity).DrainSafe := by
  refine ⟨⟨0, Nat.le_refl 0, Nat.le_refl 0, Nat.dvd_zero _, rfl, ?_⟩, nofun, nofun, nofun, nofun,
    nofun⟩
  intro sample _ before
  exact absurd before (Nat.not_lt_zero sample)

end Track

/-- In a run that meets the condition a stopped track has been mixed to its last
whole frame. -/
theorem stopped_after_last_frame (capacity : Nat) (acts : List TrackAct) (track : Track)
    (meets : trackSystem.Meets Track.StateReadDrained (Track.new capacity) acts)
    (reached : trackSystem.run (Track.new capacity) acts = some track)
    (isStopped : track.cell = .stopped) : track.AllMixed := by
  have safe : track.DrainSafe :=
    trackSystem.run_invariant Track.StateReadDrained Track.DrainSafe
      (fun safe condition stepped =>
        safe.step condition (Track.stepped_of_step stepped)) acts
      (Track.new_drainSafe capacity) meets reached
  exact (safe.stopped isStopped).2

def pushAndExit : List TrackAct := [.push frameSize, .dropEngine, .dropCommands]

def mixCall (outLen turns : Nat) : List TrackAct :=
  [.retain outLen, .load] ++ List.replicate turns .pull ++ [.storeStopped false, .storeRamp false]

theorem stopped_after_two_calls :
    ∃ track, trackSystem.run (Track.new 1)
        (pushAndExit ++ mixCall frameSize 3 ++ mixCall frameSize 1 ++ [.getState]) = some track ∧
      track.cell = .stopped ∧ track.pushedCount = frameSize ∧ track.AllMixed := by
  have stops : (trackSystem.run (Track.new 1)
      (pushAndExit ++ mixCall frameSize 3 ++ mixCall frameSize 1 ++ [.getState])).map
        (fun track => (track.cell, track.pushedCount)) = some (.stopped, frameSize) := by
    decide +kernel
  obtain ⟨track, reached, ends⟩ := Option.map_eq_some_iff.mp stops
  obtain ⟨isStopped, pushed⟩ := Prod.mk.inj ends
  exact ⟨track, reached, isStopped, pushed,
    stopped_after_last_frame 1 _ track (by decide +kernel) reached isStopped⟩

def stateReadAfterExit : List TrackAct := pushAndExit ++ [.getState]

def stateReadWhilePaused : List TrackAct := [.pause false] ++ pushAndExit ++ [.getState]

/-- The track was stopped and has left the mixer with no sample of its frame mixed. -/
def Track.CutOff (track : Track) : Prop :=
  track.cell = .stopped ∧ track.inMixer = false ∧ track.flushedAt = 0 ∧
    track.pushedCount = frameSize ∧ track.mixed = []

instance (track : Track) : Decidable track.CutOff := by
  unfold Track.CutOff
  infer_instance

theorem cutting_runs :
    [stateReadAfterExit, stateReadWhilePaused].map (fun acts =>
      (trackSystem.run (Track.new 1) (acts ++ [.retain frameSize])).map fun track =>
        decide track.CutOff) = [some true, some true] := by
  decide +kernel

theorem state_read_cuts_last_frame :
    ¬ ∀ (acts : List TrackAct) (track : Track),
      trackSystem.run (Track.new 1) acts = some track → track.cell = .stopped →
      track.AllMixed := by
  intro claim
  have cuts : (trackSystem.run (Track.new 1) (stateReadAfterExit ++ [.retain frameSize])).map
      (fun track => decide track.CutOff) = some true :=
    (List.cons.inj cutting_runs).1
  obtain ⟨track, reached, cut⟩ := Option.map_eq_some_iff.mp cuts
  obtain ⟨isStopped, _, flushed, pushed, mixed⟩ := of_decide_eq_true cut
  have all := claim _ track reached isStopped 0 (Nat.le_of_eq flushed)
  rw [flushed, pushed, mixed] at all
  exact not_mem_nil (all (by decide))

end KizunaLink.Engine
