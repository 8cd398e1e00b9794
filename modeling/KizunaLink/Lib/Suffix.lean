import Mathlib.Data.List.DropRight
import Mathlib.Data.List.Infix
import Mathlib.Tactic.Ring

/-!
# Longest admissible suffixes

A bounded queue that drops its oldest entries keeps a suffix of what was put in.
When the bound also holds of every sublist of a list it holds of, as a cap on
the length or on a total does, dropping only what must be dropped keeps the
longest suffix within the bound.
-/

set_option autoImplicit false

namespace KizunaLink.Lib

open List

universe u

variable {Item : Type u}

def SublistClosed (Admissible : List Item → Prop) : Prop :=
  ∀ short long : List Item, short.Sublist long → Admissible long → Admissible short

structure LongestSuffix (Admissible : List Item → Prop) (kept items : List Item) : Prop where
  suffix : kept <:+ items
  admissible : Admissible kept
  longest : ∀ other, other <:+ items → Admissible other → other.length ≤ kept.length

variable {Admissible Second : List Item → Prop} {kept rest items : List Item} {item : Item}

namespace LongestSuffix

theorem contains (longest : LongestSuffix Admissible kept items) {other : List Item}
    (suffix : other <:+ items) (admissible : Admissible other) : other <:+ kept :=
  suffix_of_suffix_length_le suffix longest.suffix
    (longest.longest other suffix admissible)

theorem self (admissible : Admissible items) : LongestSuffix Admissible items items :=
  ⟨suffix_refl items, admissible, fun _ suffix _ => suffix.length_le⟩

/-- A list over the bound loses its oldest entry. -/
theorem cons (longest : LongestSuffix Admissible kept items)
    (excess : ¬ Admissible (item :: items)) : LongestSuffix Admissible kept (item :: items) := by
  refine ⟨longest.suffix.trans (suffix_cons item items), longest.admissible, ?_⟩
  intro other suffix admissible
  rcases suffix_cons_iff.mp suffix with whole | shorter
  · rw [whole] at admissible
    exact absurd admissible excess
  · exact longest.longest other shorter admissible

/-- Two bounds may be enforced one after the other. -/
theorem and (closed : SublistClosed Admissible) (first : LongestSuffix Admissible kept items)
    (second : LongestSuffix Second rest kept) :
    LongestSuffix (fun list => Admissible list ∧ Second list) rest items := by
  have within : Admissible rest := closed _ _ second.suffix.sublist first.admissible
  refine ⟨second.suffix.trans first.suffix, ⟨within, second.admissible⟩, ?_⟩
  intro other suffix both
  exact second.longest other (first.contains suffix both.1) both.2

/-- Room for a new entry is made first, and then it is put in. -/
theorem push (longest : LongestSuffix (fun list => Admissible (list ++ [item])) kept items) :
    LongestSuffix Admissible (kept ++ [item]) (items ++ [item]) := by
  refine ⟨suffix_append_self_iff.mpr longest.suffix, longest.admissible, ?_⟩
  intro other suffix admissible
  rcases suffix_concat_iff.mp suffix with empty | ⟨older, split, olderSuffix⟩
  · simp [empty]
  · rw [split] at admissible
    have bound := longest.longest older olderSuffix admissible
    simpa [split] using bound

/-- What was dropped before need not be looked at again. -/
theorem append (closed : SublistClosed Admissible) (longest : LongestSuffix Admissible kept items)
    (next : LongestSuffix Admissible rest (kept ++ [item])) :
    LongestSuffix Admissible rest (items ++ [item]) := by
  have grown : kept ++ [item] <:+ items ++ [item] :=
    suffix_append_self_iff.mpr longest.suffix
  refine ⟨next.suffix.trans grown, next.admissible, ?_⟩
  intro other suffix admissible
  rcases suffix_concat_iff.mp suffix with empty | ⟨older, split, olderSuffix⟩
  · simp [empty]
  · -- the older part of `other` is within the bound, so it was kept
    have olderAdmissible : Admissible older := by
      refine closed older other ?_ admissible
      rw [split]
      exact sublist_append_left older [item]
    have inside : other <:+ kept ++ [item] := by
      rw [split]
      exact suffix_append_self_iff.mpr (longest.contains olderSuffix olderAdmissible)
    exact next.longest other inside admissible

end LongestSuffix

theorem rtake_suffix (items : List Item) (count : Nat) : items.rtake count <:+ items :=
  drop_suffix _ _

theorem length_rtake_le (items : List Item) (count : Nat) : (items.rtake count).length ≤ count := by
  rw [List.rtake, length_drop]
  omega

theorem suffix_rtake {count : Nat} (suffix : kept <:+ items) (short : kept.length ≤ count) :
    kept <:+ items.rtake count := by
  refine suffix_of_suffix_length_le suffix (rtake_suffix items count) ?_
  have within := suffix.length_le
  rw [List.rtake, length_drop]
  omega

/-- New entries push old ones out of the last, and bring none back. -/
theorem rtake_append_suffix (items new : List Item) (count : Nat) :
    (items ++ new).rtake count <:+ items.rtake count ++ new := by
  have grown : items.rtake count ++ new <:+ items ++ new :=
    suffix_append_self_iff.mpr (rtake_suffix items count)
  refine suffix_of_suffix_length_le (rtake_suffix _ count) grown ?_
  simp only [List.rtake, length_drop, length_append]
  omega

end KizunaLink.Lib
