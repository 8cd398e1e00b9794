import KizunaLink.Source.Prefetcher

/-!
# Conditions on the steps of the HTTP source

What the reader may rely on holds in the runs whose steps all meet a condition,
one for each promise.  Each speaks of the state a step starts from and of the act,
and is decidable, so that it can be checked on a concrete run.
-/

set_option autoImplicit false

namespace KizunaLink.Source

def PrefetchCommand.target? : PrefetchCommand → Option Nat
  | .seek target => some target
  | _ => none

namespace HttpSource

/-- For the bytes delivered: a skip starts only from a socket that stands at
`current_pos`, leftover bytes are pushed only when no command is pending, and a
response is lost, while none is, only when it stood at `current_pos`. -/
def SeeksAligned (source : HttpSource) (act : HttpAct) : Prop :=
  match source.prefetcher.point, act with
  | .top, .locked =>
    ∀ target ∈ source.shared.command.target?, ∀ socket ∈ source.prefetcher.response,
      0 < target - source.prefetcher.currentPos →
      target - source.prefetcher.currentPos ≤ maxSocketSkip →
      socket = source.prefetcher.currentPos
  | .pushingLeftover _, .locked => source.shared.command = .continue
  | .reading, .bodyEnds | .reading, .bodyFails _ =>
    source.shared.command = .continue →
      source.prefetcher.response = some source.prefetcher.currentPos
  | _, _ => True

instance (source : HttpSource) (act : HttpAct) : Decidable (source.SeeksAligned act) := by
  unfold SeeksAligned
  split <;> infer_instance

/-- For the end of file, with the resource's length for the end.  A request that
fails with 416 in its text, and a body that ends where the code sees the end of
file, have reached the end; `done` is not set while a seek is pending; and no
empty chunk is stored. -/
def EndsGenuine (resource : Bytes) (source : HttpSource) (act : HttpAct) : Prop :=
  match source.prefetcher.point, act with
  | .fetching, .fetched (.error message) =>
    source.shared.command = .continue → "416".toList <:+: message.toList →
      resource.length ≤ source.prefetcher.currentPos
  | .reading, .bodyEnds =>
    source.shared.command = .continue →
      source.len.all (· ≤ source.prefetcher.currentPos) = true →
      resource.length ≤ source.prefetcher.currentPos
  | .markingDone, .locked => source.shared.command.target? = none
  | .received chunk, .locked => source.shared.command = .continue → chunk ≠ []
  | _, _ => True

instance (resource : Bytes) (source : HttpSource) (act : HttpAct) :
    Decidable (source.EndsGenuine resource act) := by
  unfold EndsGenuine
  split <;> infer_instance

/-- For a reader whose prefetcher has left: a read that takes the error
finds chunks in the buffer, and one that finds no error leaves bytes there; a seek
stays within the buffer and leaves the error or bytes there. -/
def LeavesSomething (source : HttpSource) (act : HttpAct) : Prop :=
  match source.prefetcher.point, act with
  | .exited, .read size =>
    if source.shared.error.isSome then source.shared.chunks ≠ []
    else size < source.shared.buffered
  | .exited, .seek origin =>
    ∀ newPos ∈ source.seekTarget origin, newPos = source.pos ∨
      (source.pos < newPos ∧
        (newPos - source.pos < source.shared.buffered ∨
          (newPos - source.pos = source.shared.buffered ∧ source.shared.error.isSome = true)))
  | _, _ => True

instance (source : HttpSource) (act : HttpAct) : Decidable (source.LeavesSomething act) := by
  unfold LeavesSomething
  split <;> infer_instance

end HttpSource

end KizunaLink.Source
