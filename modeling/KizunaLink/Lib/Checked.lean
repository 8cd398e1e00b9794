import KizunaLink.Lib.Result
import Mathlib.Data.List.Basic

/-!
# Checked access and loops with fuel

Code that indexes and slices a buffer ends in a fault when an index is outside it,
and a loop is run with fuel and ends in a fault when the fuel is spent.  So that
such code returns a value says both that no access was outside and that it
terminates; `loop_total` is the rule for this, with an invariant and a measure, and
`loop_returns` the one for loops that need no invariant.

`Runs` is what a loop computes, without fuel, and `Reaches` what it passes through.
-/

set_option autoImplicit false

namespace KizunaLink.Lib

universe u

variable {Item Other State State' Value Value' Result : Type u}

inductive Fault where
  | outOfBounds (index length : Nat)
  | outOfFuel
  deriving DecidableEq, Repr

abbrev Checked (Value : Type u) := Except Fault Value

@[simp] theorem ok_bind (value : Value) (next : Value → Checked Result) :
    ((.ok value : Checked Value) >>= next) = next value := rfl

/-- `items[position]`. -/
def index (items : List Item) (position : Nat) : Checked Item :=
  match items[position]? with
  | some item => .ok item
  | none => .error (.outOfBounds position items.length)

/-- `&items[start..]`. -/
def sliceFrom (items : List Item) (start : Nat) : Checked (List Item) :=
  if start ≤ items.length then .ok (items.drop start)
  else .error (.outOfBounds start items.length)

/-- `&items[start..stop]`. -/
def slice (items : List Item) (start stop : Nat) : Checked (List Item) :=
  if start ≤ stop ∧ stop ≤ items.length then .ok ((items.drop start).take (stop - start))
  else .error (.outOfBounds stop items.length)

theorem index_ok {items : List Item} {position : Nat} (inside : position < items.length) :
    index items position = .ok items[position] := by
  rw [index, List.getElem?_eq_getElem inside]

theorem sliceFrom_ok {items : List Item} {start : Nat} (inside : start ≤ items.length) :
    sliceFrom items start = .ok (items.drop start) :=
  if_pos inside

theorem slice_ok {items : List Item} {start stop : Nat} (forward : start ≤ stop)
    (inside : stop ≤ items.length) :
    slice items start stop = .ok ((items.drop start).take (stop - start)) :=
  if_pos ⟨forward, inside⟩

/-- Behind a part of known length the index counts in what follows it. -/
theorem index_append (front back : List Item) {position start : Nat}
    (length : front.length = start) (offset : Nat) (here : position = start + offset)
    {item : Item} (found : back[offset]? = some item) :
    index (front ++ back) position = .ok item := by
  subst here length
  rw [index, List.getElem?_append_right (Nat.le_add_right _ _), Nat.add_sub_cancel_left, found]

theorem slice_append (front part back : List Item) {start stop : Nat}
    (here : front.length = start) (there : start + part.length = stop) :
    slice (front ++ (part ++ back)) start stop = .ok part := by
  subst here there
  rw [slice_ok (Nat.le_add_right _ _) (by simp only [List.length_append]; omega),
    Nat.add_sub_cancel_left, List.drop_left, List.take_left]

/-- A turn goes on with a state or leaves the loop with a value. -/
inductive Turn (State Value : Type u) where
  | next (state : State)
  | done (value : Value)

def loop (turn : State → Checked (Turn State Value)) : Nat → State → Checked Value
  | 0, _ => .error .outOfFuel
  | fuel + 1, state =>
    match turn state with
    | .error fault => .error fault
    | .ok (.done value) => .ok value
    | .ok (.next state) => loop turn fuel state

variable {turn : State → Checked (Turn State Value)}

/-- A turn keeps the invariant and lowers the measure, or leaves with what is asked for. -/
theorem loop_total {Inv : State → Prop} {Post : Value → Prop} (measure : State → Nat)
    (step : ∀ state, Inv state →
      (∃ next, turn state = .ok (.next next) ∧ Inv next ∧ measure next < measure state) ∨
        ∃ value, turn state = .ok (.done value) ∧ Post value)
    {fuel : Nat} {state : State} (holds : Inv state) (enough : measure state < fuel) :
    ∃ value, loop turn fuel state = .ok value ∧ Post value := by
  induction fuel generalizing state with
  | zero => omega
  | succ fuel ih =>
    rcases step state holds with ⟨next, turned, holdsNext, lower⟩ | ⟨value, left, post⟩
    · obtain ⟨value, looped, post⟩ := ih holdsNext (by omega)
      exact ⟨value, by rw [loop, turned]; exact looped, post⟩
    · exact ⟨value, by rw [loop, left], post⟩

theorem loop_returns (measure : State → Nat)
    (step : ∀ state, (∃ next, turn state = .ok (.next next) ∧ measure next < measure state) ∨
      ∃ value, turn state = .ok (.done value))
    {fuel : Nat} {state : State} (enough : measure state < fuel) :
    ∃ value, loop turn fuel state = .ok value := by
  have kept : ∀ state, True →
      (∃ next, turn state = .ok (.next next) ∧ True ∧ measure next < measure state) ∨
        ∃ value, turn state = .ok (.done value) ∧ True := by
    simpa using step
  obtain ⟨value, looped, -⟩ := loop_total measure kept trivial enough
  exact ⟨value, looped⟩

/-- The loop leaves this state with this value. -/
inductive Runs (turn : State → Checked (Turn State Value)) : State → Value → Prop where
  | done {state : State} {value : Value} (left : turn state = .ok (.done value)) :
      Runs turn state value
  | next {state after : State} {value : Value} (turned : turn state = .ok (.next after))
      (rest : Runs turn after value) : Runs turn state value

/-- A loop that returns at all returns what it computes. -/
theorem Runs.loop_eq {state : State} {value : Value} (runs : Runs turn state value) {fuel : Nat}
    (returns : ∃ other, loop turn fuel state = .ok other) :
    loop turn fuel state = .ok value := by
  induction runs generalizing fuel with
  | done left =>
    cases fuel with
    | zero =>
      obtain ⟨other, looped⟩ := returns
      cases looped
    | succ fuel => rw [loop, left]
  | next turned rest ih =>
    cases fuel with
    | zero =>
      obtain ⟨other, looped⟩ := returns
      cases looped
    | succ fuel =>
      rw [loop, turned] at returns ⊢
      exact ih returns

/-- The loop comes to a state from another. -/
inductive Reaches (turn : State → Checked (Turn State Value)) : State → State → Prop where
  | refl (state : State) : Reaches turn state state
  | next {state after reached : State} (turned : turn state = .ok (.next after))
      (rest : Reaches turn after reached) : Reaches turn state reached

theorem Reaches.invariant {Inv : State → Prop}
    (step : ∀ state next, Inv state → turn state = .ok (.next next) → Inv next)
    {state reached : State} (reaches : Reaches turn state reached) (holds : Inv state) :
    Inv reached := by
  induction reaches with
  | refl state => exact holds
  | next turned rest ih => exact ih (step _ _ holds turned)

/-- What the loop computes in a state it comes to is what it computes. -/
theorem Reaches.runs {state reached : State} {value : Value}
    (reaches : Reaches turn state reached) (runs : Runs turn reached value) :
    Runs turn state value := by
  induction reaches with
  | refl state => exact runs
  | next turned rest ih => exact .next turned (ih runs)

end KizunaLink.Lib
