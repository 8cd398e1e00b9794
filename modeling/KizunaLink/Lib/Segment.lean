import Mathlib.Data.List.Basic

/-!
# Segments of a list

`SegmentAt whole offset part` says that `part` stands in `whole` at `offset`.
Segments are cut and joined at the offset their lengths give.

`Pieces whole stop parts` says that `parts` is put together from segments of `whole`
that stand in this order, without overlap, before `stop`.
-/

set_option autoImplicit false

namespace KizunaLink.Lib

open List

universe u

variable {Item : Type u} {whole : List Item} {offset : Nat}

def SegmentAt (whole : List Item) (offset : Nat) (part : List Item) : Prop :=
  part <+: whole.drop offset

@[simp] theorem segmentAt_nil : SegmentAt whole offset [] := nil_prefix

theorem segmentAt_take (count : Nat) : SegmentAt whole offset ((whole.drop offset).take count) :=
  List.take_prefix count _

theorem segmentAt_append {front back : List Item} :
    SegmentAt whole offset (front ++ back) ↔
      SegmentAt whole offset front ∧ SegmentAt whole (offset + front.length) back := by
  constructor
  · rintro ⟨rest, joined⟩
    refine ⟨⟨back ++ rest, by rw [← joined, append_assoc]⟩, ⟨rest, ?_⟩⟩
    rw [← drop_drop, ← joined, append_assoc, drop_left]
  · rintro ⟨⟨rest, joined⟩, second⟩
    rw [SegmentAt, ← drop_drop, ← joined, drop_left] at second
    obtain ⟨tail, split⟩ := second
    exact ⟨tail, by rw [← joined, ← split, append_assoc]⟩

/-- What is left of a segment after its first items stands that much later. -/
theorem SegmentAt.drop {part : List Item} (segment : SegmentAt whole offset part) {count : Nat}
    (within : count ≤ part.length) : SegmentAt whole (offset + count) (part.drop count) := by
  rw [← take_append_drop count part] at segment
  have back := (segmentAt_append.mp segment).2
  rwa [length_take, Nat.min_eq_left within] at back

/-- The intervals lie between `start` and `stop`, each behind the one before it. -/
def Ordered : Nat → List (Nat × Nat) → Nat → Prop
  | start, [], stop => start ≤ stop
  | start, (first, last) :: rest, stop => start ≤ first ∧ first ≤ last ∧ Ordered last rest stop

def cut (whole : List Item) (interval : Nat × Nat) : List Item :=
  (whole.drop interval.1).take (interval.2 - interval.1)

theorem cut_drop (whole : List Item) (first last count : Nat) :
    (cut whole (first, last)).drop count = cut whole (first + count, last) := by
  rw [cut, cut, drop_take, drop_drop, Nat.sub_sub]

def Pieces (whole : List Item) (stop : Nat) (parts : List Item) : Prop :=
  ∃ intervals, Ordered 0 intervals stop ∧ parts = intervals.flatMap (cut whole)

variable {intervals : List (Nat × Nat)}

theorem Ordered.mono {start stop later : Nat} (ordered : Ordered start intervals stop)
    (after : stop ≤ later) : Ordered start intervals later := by
  induction intervals generalizing start with
  | nil => exact Nat.le_trans ordered after
  | cons interval rest ih => exact ⟨ordered.1, ordered.2.1, ih ordered.2.2⟩

theorem Ordered.snoc {start stop first last : Nat} (ordered : Ordered start intervals stop)
    (after : stop ≤ first) (forward : first ≤ last) :
    Ordered start (intervals ++ [(first, last)]) last := by
  induction intervals generalizing start with
  | nil => exact ⟨Nat.le_trans ordered after, forward, Nat.le_refl last⟩
  | cons interval rest ih => exact ⟨ordered.1, ordered.2.1, ih ordered.2.2⟩

/-- What ordered intervals cut out is a sublist of the list between their bounds. -/
theorem Ordered.sublist {start stop : Nat} (ordered : Ordered start intervals stop) :
    (intervals.flatMap (cut whole)).Sublist (whole.drop start) := by
  induction intervals generalizing start with
  | nil => exact nil_sublist _
  | cons interval rest ih =>
    obtain ⟨first, last⟩ := interval
    obtain ⟨before, forward, behind⟩ := ordered
    have split : whole.drop first = cut whole (first, last) ++ whole.drop last := by
      have rejoined := take_append_drop (last - first) (whole.drop first)
      rw [drop_drop, Nat.add_sub_cancel' forward] at rejoined
      exact rejoined.symm
    rw [flatMap_cons]
    apply List.Sublist.trans _ (drop_sublist_drop_left whole before)
    rw [split]
    exact (List.Sublist.refl _).append (ih behind)

theorem pieces_nil (whole : List Item) (stop : Nat) : Pieces whole stop [] :=
  ⟨[], Nat.zero_le stop, rfl⟩

theorem Pieces.mono {parts : List Item} {stop later : Nat} (pieces : Pieces whole stop parts)
    (after : stop ≤ later) : Pieces whole later parts := by
  obtain ⟨intervals, ordered, joined⟩ := pieces
  exact ⟨intervals, ordered.mono after, joined⟩

theorem Pieces.snoc {parts : List Item} {stop first last : Nat}
    (pieces : Pieces whole stop parts) (after : stop ≤ first) (forward : first ≤ last) :
    Pieces whole last (parts ++ cut whole (first, last)) := by
  obtain ⟨intervals, ordered, rfl⟩ := pieces
  refine ⟨intervals ++ [(first, last)], ordered.snoc after forward, ?_⟩
  rw [flatMap_append, flatMap_singleton]

theorem Pieces.sublist {parts : List Item} {stop : Nat} (pieces : Pieces whole stop parts) :
    parts.Sublist whole := by
  obtain ⟨intervals, ordered, rfl⟩ := pieces
  exact ordered.sublist

end KizunaLink.Lib
