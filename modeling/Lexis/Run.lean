/-!
# Longest runs

A recogniser reads a sequence item by item: from its state and the next item it
moves to a new state, or it refuses the item. The longest run of a sequence is
the part before the first item refused (`longest`). When nothing is refused the
run is the whole sequence and the recogniser is left in some state
(`stateAfter?`), from which it can go on if more items turn up.
-/

namespace Lexis

set_option autoImplicit false

variable {state item : Type}

/-- The items before the first one that the recogniser refuses. -/
def longest (step : state → item → Option state) : state → List item → List item
  | _, [] => []
  | current, first :: later =>
      match step current first with
      | some next => first :: longest step next later
      | none => []

/-- The state after all the items, unless one of them is refused. -/
def stateAfter? (step : state → item → Option state) : state → List item → Option state
  | current, [] => some current
  | current, first :: later =>
      match step current first with
      | some next => stateAfter? step next later
      | none => none

theorem length_longest (step : state → item → Option state) (current : state)
    (items : List item) : (longest step current items).length ≤ items.length := by
  induction items generalizing current with
  | nil => simp [longest]
  | cons first later ih =>
    rw [longest]
    split
    · exact Nat.succ_le_succ (ih _)
    · simp

/-- The recogniser of the items that satisfy a condition. -/
def whileTrue (condition : item → Bool) (_ : Unit) (next : item) : Option Unit :=
  if condition next then some () else none

/-- The recogniser of a given number of items, whatever they are. -/
def countdown : Nat → item → Option Nat
  | 0, _ => none
  | count + 1, _ => some count

/-- Looking through a view at the items is looking at what the view shows. -/
theorem map_longest {shown : Type} (view : item → shown)
    (step : state → shown → Option state) (current : state) (items : List item) :
    (longest (fun current next => step current (view next)) current items).map view =
      longest step current (items.map view) := by
  induction items generalizing current with
  | nil => rfl
  | cons first later ih =>
    simp only [longest, List.map_cons]
    split <;> simp [ih]

end Lexis
