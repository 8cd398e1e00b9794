import KizunaLink.Lib.Checked
import Mathlib.Data.List.DropRight
import Mathlib.Data.List.Rotate

/-!
# Copying around the end of a buffer

A copy into or out of a buffer that goes on at the front of it when it reaches the end,
split in two as `copy_from_slice` needs it.  Every slice is checked, and so are the
lengths of what is copied.

The buffer rotated to the place where the next write starts is a window over everything
that was written: a write appends to it and pushes as much out at the other side.
-/

set_option autoImplicit false

namespace KizunaLink.Lib

open List

universe u

variable {Item : Type u} {cells items : List Item} {size start : Nat}

/-- `cells[start..stop].copy_from_slice(items)`. -/
def overwrite (cells : List Item) (start stop : Nat) (items : List Item) : Checked (List Item) :=
  if start ≤ stop ∧ stop ≤ cells.length then
    if items.length = stop - start then .ok (cells.take start ++ items ++ cells.drop stop)
    else .error (.outOfBounds items.length (stop - start))
  else .error (.outOfBounds stop cells.length)

theorem overwrite_ok {stop : Nat} (forward : start + items.length = stop)
    (inside : stop ≤ cells.length) :
    overwrite cells start stop items = .ok (cells.take start ++ items ++ cells.drop stop) := by
  subst forward
  rw [overwrite, if_pos ⟨Nat.le_add_right _ _, inside⟩, if_pos (Nat.add_sub_cancel_left _ _).symm]

/-- The items are copied to `start` and behind it, and at the front if they reach the end. -/
def writeAround (size : Nat) (cells : List Item) (start : Nat) (items : List Item) :
    Checked (List Item) :=
  let availableAtEnd := size - start
  if items.length ≤ availableAtEnd then overwrite cells start (start + items.length) items
  else do
    let cells ← overwrite cells start cells.length (← slice items 0 availableAtEnd)
    overwrite cells 0 (items.length - availableAtEnd) (← sliceFrom items availableAtEnd)

/-- The cells at `start` and behind it, and those at the front if the end is reached. -/
def readAround (size : Nat) (cells : List Item) (start count : Nat) : Checked (List Item) :=
  let availableAtEnd := size - start
  if count ≤ availableAtEnd then slice cells start (start + count)
  else do
    let back ← sliceFrom cells start
    let front ← slice cells 0 (count - availableAtEnd)
    pure (back ++ front)

section

variable (full : cells.length = size)
include full

theorem readAround_ok (inside : start ≤ size) {count : Nat} (short : count ≤ size) :
    readAround size cells start count = .ok ((cells.rotate start).take count) := by
  subst full
  rw [readAround, rotate_eq_drop_append_take inside, take_append, length_drop]
  by_cases fits : count ≤ cells.length - start
  · have none : count - (cells.length - start) = 0 := by omega
    rw [if_pos fits, slice_ok (Nat.le_add_right _ _) (by omega), Nat.add_sub_cancel_left, none,
      take_zero, append_nil]
  · have whole : (cells.drop start).take count = cells.drop start :=
      take_of_length_le (by rw [length_drop]; omega)
    have front : count - (cells.length - start) ≤ start := by omega
    rw [if_neg fits, sliceFrom_ok inside, ok_bind, slice_ok (Nat.zero_le _) (by omega), ok_bind,
      whole, drop_zero, Nat.sub_zero, take_take, Nat.min_eq_left front]
    rfl

theorem writeAround_fits (fits : start + items.length ≤ size) :
    writeAround size cells start items =
      .ok (cells.take start ++ items ++ cells.drop (start + items.length)) := by
  subst full
  rw [writeAround, if_pos (by omega)]
  exact overwrite_ok rfl fits

/-- The first part fills the cells up to the end, the second part those at the front. -/
theorem writeAround_wraps (inside : start ≤ size)
    (wraps : size < start + items.length) (short : items.length ≤ size) :
    writeAround size cells start items =
      .ok (items.drop (size - start) ++ (cells.take start).drop (items.length - (size - start)) ++
        items.take (size - start)) := by
  subst full
  have first : (items.take (cells.length - start)).length = cells.length - start :=
    length_take_of_le (by omega)
  have second : (items.drop (cells.length - start)).length =
      items.length - (cells.length - start) := length_drop
  have front : (cells.take start).length = start := length_take_of_le inside
  have filled : overwrite cells start cells.length (items.take (cells.length - start)) =
      .ok (cells.take start ++ items.take (cells.length - start)) := by
    rw [overwrite_ok (by rw [first]; omega) (Nat.le_refl _), List.drop_length, append_nil]
  rw [writeAround, if_neg (by omega), slice_ok (Nat.zero_le _) (by omega), ok_bind, drop_zero,
    Nat.sub_zero, filled, ok_bind, sliceFrom_ok (by omega), ok_bind, overwrite_ok (by rw [second,
    Nat.zero_add]) (by rw [length_append, front, first]; omega),
    drop_append_of_le_length (by rw [front]; omega), take_zero, nil_append,
    append_assoc]

/-- Seen from `start`, the items take the place of as many cells. -/
theorem writeAround_ok (inside : start ≤ size) (short : items.length ≤ size) :
    ∃ after, writeAround size cells start items = .ok after ∧ after.length = size ∧
      after.rotate start = items ++ (cells.rotate start).drop items.length := by
  have front : (cells.take start).length = start :=
    length_take_of_le (by rw [full]; exact inside)
  rw [rotate_eq_drop_append_take (by rw [full]; exact inside), drop_append,
    length_drop, drop_drop, full]
  by_cases fits : start + items.length ≤ size
  · have length : (cells.take start ++ items ++ cells.drop (start + items.length)).length =
        size := by
      rw [length_append, length_append, front, length_drop]
      omega
    have none : items.length - (size - start) = 0 := by omega
    refine ⟨_, writeAround_fits full fits, length, ?_⟩
    rw [rotate_eq_drop_append_take (by rw [length]; exact inside), append_assoc,
      List.drop_left' front, List.take_left' front, none, drop_zero, append_assoc]
  · have before : (items.drop (size - start) ++
        (cells.take start).drop (items.length - (size - start))).length = start := by
      rw [length_append, length_drop, length_drop, front]
      omega
    have length : (items.drop (size - start) ++
        (cells.take start).drop (items.length - (size - start)) ++
          items.take (size - start)).length = size := by
      rw [length_append, before, length_take]
      omega
    have none : cells.drop (start + items.length) = [] := drop_eq_nil_of_le (by omega)
    refine ⟨_, writeAround_wraps full inside (by omega) short, length, ?_⟩
    rw [rotate_eq_drop_append_take (by rw [length]; exact inside), List.drop_left' before,
      List.take_left' before, none, nil_append, ← append_assoc, take_append_drop]

end

/-- The window moves on by what is written. -/
theorem rotate_written {after : List Item} (full : after.length = cells.length)
    (written : after.rotate start = items ++ (cells.rotate start).drop items.length) :
    after.rotate (start + items.length) = (cells.rotate start ++ items).drop items.length := by
  have short : items.length ≤ (cells.rotate start).length := by
    have lengths := congrArg List.length written
    simp only [length_rotate, length_append, length_drop] at lengths ⊢
    omega
  rw [← rotate_rotate, written, rotate_append_length_eq, drop_append_of_le_length short]

end KizunaLink.Lib
