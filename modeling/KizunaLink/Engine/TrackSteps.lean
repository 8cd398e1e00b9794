import KizunaLink.Engine.Mixer

/-!
# What a step of a track does

`Stepped` has one constructor for each act of `trackSystem`, with the guard under which it is
enabled, and `Pulled` one for each outcome of a turn of the loops in a call of `mix`.

The position of the track is not part of `Track`: a call adds what it has filled when it
leaves its loop, and `positionGain` is what a step adds.
-/

set_option autoImplicit false

namespace KizunaLink.Engine

open KizunaLink.Lib Option

def MixPoint.loaded : MixPoint → Option PlaybackState
  | .idle | .retained _ => none
  | .pulling loaded _ _ | .closing loaded | .ramping loaded => some loaded

namespace Track

variable {track next : Track}

def pops (track : Track) (outLen filled : Nat) : Bool :=
  decide (filled < outLen) && !track.finished && decide (frameSize ≤ track.flow.pendingPcm.length)

/-- `fetch_add(filled / MIXER_CHANNELS)`, when the loop is left. -/
def positionGain (track : Track) : TrackAct → Nat
  | .pull =>
    match track.point with
    | .pulling loaded outLen filled =>
      if (track.pull loaded outLen filled).point = .closing loaded then filled / 2 else 0
    | .idle | .retained _ | .closing _ | .ramping _ => 0
  | .push _ | .flush | .pushOpus _ | .dropEngine | .dropCommands | .getState | .pause _ | .play _
  | .retain _ | .load | .storeStopped _ | .storeRamp _ => 0

inductive Pulled (track : Track) (loaded : PlaybackState) (outLen filled : Nat) : Track → Prop where
  | close : Pulled track loaded outLen filled { track with point := .closing loaded }
  | finish (flow : FlowController) (same : flow.pendingPcm = track.flow.pendingPcm)
      (done : flow.decoderDone = true) (short : track.flow.pendingPcm.length < frameSize)
      (gone : track.flow.decoderDone = true ∨ track.engineAlive = false ∧ track.frames = []) :
      Pulled track loaded outLen filled
        { track with flow, finished := true, point := .closing loaded }
  | receive (frame : AudioFrame) (rest : List AudioFrame) (going : track.finished = false)
      (waiting : track.frames = frame :: rest) :
      Pulled track loaded outLen filled
        { track with frames := rest, flow := track.flow.receive frame }
  | pop (popped : track.pops outLen filled = true) :
      Pulled track loaded outLen filled (track.popFrame loaded outLen filled)

theorem pull_pulled (track : Track) (loaded : PlaybackState) (outLen filled : Nat) :
    Pulled track loaded outLen filled (track.pull loaded outLen filled) := by
  rw [pull]
  by_cases ends : outLen ≤ filled ∨ track.finished = true
  · rw [if_pos ends]
    exact .close
  · rw [if_neg ends]
    obtain ⟨room, going⟩ := not_or.mp ends
    have running : track.finished = false := Bool.eq_false_of_not_eq_true going
    by_cases short : track.flow.pendingPcm.length < frameSize
    · by_cases done : track.flow.decoderDone = false
      · rw [if_pos ⟨done, short⟩]
        cases waiting : track.frames with
        | cons frame rest => exact .receive frame rest running waiting
        | nil =>
          dsimp only
          split
          · exact waiting ▸ .close
          case isFalse gone =>
            exact waiting ▸ .finish _ rfl rfl short
              (.inr ⟨Bool.eq_false_of_not_eq_true gone, waiting⟩)
      · rw [if_neg fun both => done both.1, if_neg (Nat.not_le.mpr short)]
        have known : track.flow.decoderDone = true := Bool.eq_true_of_not_eq_false done
        exact .finish track.flow rfl known short (.inl known)
    · rw [if_neg fun both => short both.2, if_pos (Nat.not_lt.mp short)]
      refine .pop ?_
      simp [pops, Nat.not_le.mp room, running, Nat.not_lt.mp short]

theorem Pulled.cell {loaded : PlaybackState} {outLen filled : Nat}
    (pulled : Pulled track loaded outLen filled next) : next.cell = track.cell := by
  cases pulled <;> rfl

theorem Pulled.loaded {loaded : PlaybackState} {outLen filled : Nat}
    (pulling : track.point = .pulling loaded outLen filled)
    (pulled : Pulled track loaded outLen filled next) :
    next.point.loaded = some loaded := by
  cases pulled with
  | close | finish _ _ _ _ _ | pop _ => rfl
  | receive _ _ _ _ =>
    dsimp only
    rw [pulling]
    rfl

inductive Stepped (track : Track) : TrackAct → Track → Prop where
  | push (count : Nat) (room : track.hasRoom = true) (positive : 0 < count) :
      Stepped track (.push count) (track.push count)
  | flush (room : track.hasRoom = true) : Stepped track .flush track.flush
  | pushOpus (packet : List UInt8) (room : track.hasRoom = true) :
      Stepped track (.pushOpus packet) (track.pushOpus packet)
  | dropEngine : Stepped track .dropEngine { track with engineAlive := false }
  | dropCommands (dropped : track.engineAlive = false) :
      Stepped track .dropCommands { track with commandsAlive := false }
  | getState : Stepped track .getState track.getState
  | pause (tapeStop : Bool) : Stepped track (.pause tapeStop) (track.pause tapeStop)
  | play (tapeStop : Bool) : Stepped track (.play tapeStop) (track.play tapeStop)
  | retain (outLen : Nat) (inMixer : track.inMixer = true) (idle : track.point = .idle) :
      Stepped track (.retain outLen) (track.retain outLen)
  | load (outLen : Nat) (retained : track.point = .retained outLen) :
      Stepped track .load (track.load outLen)
  | pull (loaded : PlaybackState) (outLen filled : Nat)
      (pulling : track.point = .pulling loaded outLen filled) :
      Stepped track .pull (track.pull loaded outLen filled)
  | storeStopped (loaded : PlaybackState) (tapeActive : Bool)
      (closing : track.point = .closing loaded) :
      Stepped track (.storeStopped tapeActive) (track.storeStopped loaded tapeActive)
  | storeRamp (loaded : PlaybackState) (rampCompleted : Bool)
      (ramping : track.point = .ramping loaded) :
      Stepped track (.storeRamp rampCompleted) (track.storeRamp loaded rampCompleted)

theorem stepped_of_step {act : TrackAct} (stepped : track.step act = some next) :
    Stepped track act next := by
  cases act with
  | push count =>
    obtain ⟨⟨room, positive⟩, rfl⟩ := ite_some_none_eq_some.mp stepped
    exact .push count room positive
  | flush =>
    obtain ⟨room, rfl⟩ := ite_some_none_eq_some.mp stepped
    exact .flush room
  | pushOpus packet =>
    obtain ⟨room, rfl⟩ := ite_some_none_eq_some.mp stepped
    exact .pushOpus packet room
  | dropEngine =>
    cases stepped
    exact .dropEngine
  | dropCommands =>
    simp only [step] at stepped
    split at stepped
    · cases stepped
    case isFalse dropped =>
      cases stepped
      exact .dropCommands (Bool.eq_false_of_not_eq_true dropped)
  | getState =>
    cases stepped
    exact .getState
  | pause tapeStop =>
    cases stepped
    exact .pause tapeStop
  | play tapeStop =>
    cases stepped
    exact .play tapeStop
  | retain outLen =>
    obtain ⟨⟨inMixer, idle⟩, rfl⟩ := ite_some_none_eq_some.mp stepped
    exact .retain outLen inMixer idle
  | load =>
    cases point : track.point with
    | retained outLen =>
      simp only [step, point, Option.some.injEq] at stepped
      exact stepped ▸ .load outLen point
    | _ => simp [step, point] at stepped
  | pull =>
    cases point : track.point with
    | pulling loaded outLen filled =>
      simp only [step, point, Option.some.injEq] at stepped
      exact stepped ▸ .pull loaded outLen filled point
    | _ => simp [step, point] at stepped
  | storeStopped tapeActive =>
    cases point : track.point with
    | closing loaded =>
      simp only [step, point, Option.some.injEq] at stepped
      exact stepped ▸ .storeStopped loaded tapeActive point
    | _ => simp [step, point] at stepped
  | storeRamp rampCompleted =>
    cases point : track.point with
    | ramping loaded =>
      simp only [step, point, Option.some.injEq] at stepped
      exact stepped ▸ .storeRamp loaded rampCompleted point
    | _ => simp [step, point] at stepped

def storesCell : TrackAct → Bool
  | .getState | .pause _ | .play _ | .storeStopped _ | .storeRamp _ => true
  | .push _ | .flush | .pushOpus _ | .dropEngine | .dropCommands | .retain _ | .load | .pull =>
    false

def movesLoaded : TrackAct → Bool
  | .load | .storeRamp _ => true
  | .push _ | .flush | .pushOpus _ | .dropEngine | .dropCommands | .getState | .pause _ | .play _
  | .retain _ | .pull | .storeStopped _ => false

theorem Stepped.cell {act : TrackAct} (stepped : Stepped track act next)
    (quiet : storesCell act = false) : next.cell = track.cell := by
  cases stepped with
  | push _ _ _ | flush _ | pushOpus _ _ | dropEngine | dropCommands _ => rfl
  | getState | pause _ | play _ | storeStopped _ _ _ | storeRamp _ _ _ => cases quiet
  | retain outLen _ _ =>
    rw [Track.retain]
    split <;> rfl
  | load outLen _ =>
    rw [Track.load]
    split <;> rfl
  | pull loaded outLen filled _ => exact (pull_pulled track loaded outLen filled).cell

theorem Stepped.loaded {act : TrackAct} (stepped : Stepped track act next)
    (quiet : movesLoaded act = false) : next.point.loaded = track.point.loaded := by
  cases stepped with
  | push _ _ _ | flush _ | pushOpus _ _ | dropEngine | dropCommands _ | pause _ | play _ => rfl
  | load _ _ | storeRamp _ _ _ => cases quiet
  | getState =>
    rw [Track.getState]
    split <;> rfl
  | retain outLen _ idle =>
    rw [Track.retain, idle]
    split <;> rfl
  | pull loaded outLen filled pulling =>
    rw [(pull_pulled track loaded outLen filled).loaded pulling, pulling]
    rfl
  | storeStopped loaded tapeActive closing =>
    rw [closing]
    rfl

end Track

end KizunaLink.Engine
