import DashboardCompiler.Double.Arithmetic

/-!
# Doubles and decimals

`Double.ofDecimal` rounds a decimal to the nearest double. In the other direction `Double.shortest`
selects the fewest significant digits that read back to the value: for one, two, up to seventeen digits
it tries the two neighbours of the value on that decimal grid and takes the first grid with a neighbour
in the interval of reals that round to the value, of two such neighbours the nearer.

`Double.scaled` is for a set number of places: the exact value is rounded, a tie going to the even digit.
-/

namespace DashboardCompiler

/-- A positive decimal: its significant digits as one number, times a power of ten. -/
structure Decimal where
  digits : Nat
  exponent : Int
  deriving DecidableEq, Repr

namespace Double

/-- The double nearest to `± digits * 10 ^ exponent`. Far exponents are settled without the power. -/
def ofDecimal (negative : Bool) (digits : Nat) (exponent : Int) : Double :=
  if digits = 0 then zero negative
  else if 400 < exponent then .infinite negative
  else if exponent < -(digits.log2 + 1 : Int) - 400 then zero negative
  else if 0 ≤ exponent then round negative (digits * Nat.pow 10 exponent.toNat * unitsPerOne) 1
  else round negative (digits * unitsPerOne) (Nat.pow 10 (-exponent).toNat)

/-- Four times the bounds of the reals that round to this size: half a gap up, and half a gap down
unless the size is a power of two, below which the gap is half as wide. -/
def roundingBounds (units : Nat) : Nat × Nat :=
  let step := gap units
  let narrow := 52 < units.log2 ∧ units = twoPower units.log2
  (4 * units - (if narrow then step else 2 * step), 4 * units + 2 * step)

/-- Whether `count * 10 ^ exponent` rounds to a size of `units`. -/
def readsBack (units count : Nat) (exponent : Int) : Bool :=
  let (low, high) := roundingBounds units
  let even := units / gap units % 2 = 0
  let (value, scale) :=
    if 0 ≤ exponent then (4 * count * Nat.pow 10 exponent.toNat * unitsPerOne, 1)
    else (4 * count * unitsPerOne, Nat.pow 10 (-exponent).toNat)
  let (low, high) := (low * scale, high * scale)
  low < value && value < high || even && (value = low || value = high)

/-- The whole number of `10 ^ exponent` in a size, and whether the rest is at least a half of one. -/
def gridFloor (units : Nat) (exponent : Int) : Nat × Bool :=
  let (num, den) :=
    if 0 ≤ exponent then (units, unitsPerOne * Nat.pow 10 exponent.toNat)
    else (units * Nat.pow 10 (-exponent).toNat, unitsPerOne)
  (num / den, decide (den < 2 * (num % den)) || decide (2 * (num % den) = den ∧ num / den % 2 = 1))

/-- The least `k` from a start on, within some steps, with the size below `10 ^ k`. -/
def scaleFrom (units : Nat) : Nat → Int → Int
  | 0, k => k
  | fuel + 1, k =>
    let below := if 0 ≤ k then units < unitsPerOne * Nat.pow 10 k.toNat
      else units * Nat.pow 10 (-k).toNat < unitsPerOne
    if below then k else scaleFrom units fuel (k + 1)

/-- The position of the first digit: the least `k` with the size below `10 ^ k`. The start is two
below an estimate from the binary logarithm, and never above `k`. -/
def decimalScale (units : Nat) : Int :=
  scaleFrom units 8 (((units.log2 : Int) - 1074) * 30103 / 100000 - 2)

/-- The candidate with the given grid, if one of the two neighbours on it reads back. -/
def candidate? (units : Nat) (exponent : Int) : Option Nat :=
  let (low, upward) := gridFloor units exponent
  match readsBack units low exponent, readsBack units (low + 1) exponent with
  | true, true => some (if upward then low + 1 else low)
  | true, false => some low
  | false, true => some (low + 1)
  | false, false => none

/-- The first grid with a candidate, from the coarsest on. -/
def firstCandidate (units : Nat) (scale : Int) : Nat → Nat → Option Decimal
  | 0, _ => none
  | fuel + 1, places =>
    match candidate? units (scale - places) with
    | some digits => some ⟨digits, scale - places⟩
    | none => firstCandidate units scale fuel (places + 1)

/-- A trailing zero moves into the exponent. -/
def stripZeros : Nat → Decimal → Decimal
  | 0, d => d
  | fuel + 1, d =>
    if d.digits ≠ 0 ∧ d.digits % 10 = 0 then stripZeros fuel ⟨d.digits / 10, d.exponent + 1⟩ else d

/-- The fewest digits that read back to a positive size; the exact decimal is the last resort. -/
def shortest (units : Nat) : Decimal :=
  match firstCandidate units (decimalScale units) 17 1 with
  | some d => stripZeros 20 d
  | none => ⟨units * Nat.pow 5 1074, -1074⟩

/-- The size in units of `10 ^ -places`, rounded to a whole number with ties to even. -/
def scaled (units places : Nat) : Nat := nearest (units * Nat.pow 10 places) unitsPerOne

/-- The value rounded to a number of places, as the double nearest to that decimal. -/
def roundPlaces (places : Nat) : Double → Double
  | .finite negative units _ => ofDecimal negative (scaled units places) (-(places : Int))
  | x => x

/-- A positive size to a number of significant digits, a tie going to the even digit. -/
def significant (units places : Nat) : Decimal :=
  let scale := decimalScale units
  let round (exponent : Int) : Nat :=
    if 0 ≤ exponent then nearest units (unitsPerOne * Nat.pow 10 exponent.toNat)
    else nearest (units * Nat.pow 10 (-exponent).toNat) unitsPerOne
  stripZeros (places + 1) ⟨round (scale - places), scale - places⟩

end Double

end DashboardCompiler
