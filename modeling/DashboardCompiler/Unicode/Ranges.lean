/-!
# Ascending ranges of code points

Character properties are tables of disjoint ascending ranges; a look-up stops at the first range that
ends at or after the character. `Step` ranges hold every character, or every second one, of a span.
-/

namespace DashboardCompiler.Unicode

/-- Whether a code point lies in one of the ranges, ends included. -/
def inRanges (c : Nat) : List (Nat × Nat) → Bool
  | [] => false
  | (low, high) :: rest => if c ≤ high then decide (low ≤ c) else inRanges c rest

/-- A span of code points that are `step` apart. -/
structure Step where
  low : Nat
  high : Nat
  step : Nat

def Step.covers (s : Step) (c : Nat) : Bool :=
  decide (s.low ≤ c) && decide (c ≤ s.high) && decide ((c - s.low) % s.step = 0)

/-- A span whose characters map to the ones `shift` above them. -/
structure Shift extends Step where
  shift : Int

/-- The first span that covers the code point moves it; a code point in none stays. -/
def applyShifts (c : Nat) : List Shift → Nat
  | [] => c
  | s :: rest => if s.covers c then ((c : Int) + s.shift).toNat else applyShifts c rest

end DashboardCompiler.Unicode
