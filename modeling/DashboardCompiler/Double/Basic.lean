/-!
# Double-precision numbers

A finite double is a sign and a whole number of units, one unit being the smallest positive double
`2 ^ -1074`; every finite double is such a multiple, so sums and comparisons of doubles are sums and
comparisons of integers, and products and quotients are exact fractions that are rounded once.

`Double.round` is that one rounding: to the nearest representable value, a tie going to the even
significand, and to infinity once the rounded size reaches `2 ^ 1024`. `multiple_representable` is why
the rounded size is again a double. Signalling, payloads of nan and other rounding modes are not covered.
-/

namespace DashboardCompiler

/-- A power of two, as a number that is not multiplied out where it stands. -/
def twoPower (n : Nat) : Nat := Nat.pow 2 n

theorem twoPower_pos (n : Nat) : 0 < twoPower n := Nat.two_pow_pos n

theorem twoPower_add (m n : Nat) : twoPower (m + n) = twoPower m * twoPower n := Nat.pow_add 2 m n

/-- The distance between neighbouring doubles around a size of `n` units: 53 significant bits are kept. -/
def gap (n : Nat) : Nat := twoPower (n.log2 - 52)

/-- One whole, in units. -/
def unitsPerOne : Nat := twoPower 1074

/-- The first size that no finite double reaches, in units. -/
def sizeLimit : Nat := twoPower 2098

/-- A size that a finite double has: a multiple of the gap around it, and below the limit. -/
def Representable (n : Nat) : Prop := gap n ∣ n ∧ n < sizeLimit

instance (n : Nat) : Decidable (Representable n) := inferInstanceAs (Decidable (_ ∧ _))

theorem sizeLimit_pos : 0 < sizeLimit := twoPower_pos 2098

theorem representable_zero : Representable 0 := ⟨Nat.dvd_zero _, sizeLimit_pos⟩

theorem gap_pos (n : Nat) : 0 < gap n := twoPower_pos _

theorem gap_dvd_of_log2_le {n j : Nat} (h : n.log2 ≤ j + 52) : gap n ∣ twoPower j :=
  Nat.pow_dvd_pow 2 (by omega)

theorem log2_twoPower (n : Nat) : (twoPower n).log2 = n := Nat.log2_two_pow

theorem log2_mul_twoPower {k : Nat} (hk : k ≠ 0) (j : Nat) : (k * twoPower j).log2 = k.log2 + j := by
  have hp := twoPower_pos j
  rw [Nat.log2_eq_iff (Nat.mul_ne_zero hk (by omega))]
  constructor
  · rw [Nat.pow_add]
    exact Nat.mul_le_mul_right _ (Nat.log2_self_le hk)
  · rw [show k.log2 + j + 1 = (k.log2 + 1) + j by omega, Nat.pow_add]
    exact Nat.mul_lt_mul_of_pos_right Nat.lt_log2_self hp

/-- A multiple of a power of two by at most `2 ^ 53` has at most 53 significant bits. -/
theorem multiple_representable {k j : Nat} (hk : k ≤ twoPower 53) (h : k * twoPower j < sizeLimit) :
    Representable (k * twoPower j) := by
  refine ⟨?_, h⟩
  rcases Nat.eq_zero_or_pos k with rfl | hpos
  · simp
  rcases Nat.lt_or_eq_of_le hk with hlt | rfl
  · have hl : k.log2 < 53 := (Nat.log2_lt (by omega)).2 hlt
    refine Nat.dvd_trans (gap_dvd_of_log2_le (j := j) ?_) (Nat.dvd_mul_left _ _)
    rw [log2_mul_twoPower (by omega)]
    omega
  · rw [← twoPower_add]
    exact gap_dvd_of_log2_le (by rw [log2_twoPower]; omega)

/-- A double-precision number; infinities and zeros are signed, nan is one value. -/
inductive Double where
  | nan
  | infinite (negative : Bool)
  | finite (negative : Bool) (units : Nat) (fits : Representable units)
  deriving DecidableEq

/-- The whole number nearest to a fraction, a tie going to the even one. -/
def nearest (num den : Nat) : Nat :=
  let low := num / den
  let twice := 2 * (num % den)
  if den < twice ∨ twice = den ∧ low % 2 = 1 then low + 1 else low

theorem nearest_le (num den : Nat) : nearest num den ≤ num / den + 1 := by
  simp only [nearest]
  split <;> omega

/-- A fraction of units rounded to a multiple of the gap at that size. -/
def roundedUnits (num den : Nat) : Nat :=
  let step := gap (num / den)
  nearest num (den * step) * step

theorem div_gap_lt (n : Nat) : n / gap n < twoPower 53 := by
  rw [Nat.div_lt_iff_lt_mul (gap_pos n), gap, ← twoPower_add]
  rcases Nat.eq_zero_or_pos n with rfl | h
  · exact twoPower_pos _
  · exact Nat.lt_of_lt_of_le Nat.lt_log2_self (Nat.pow_le_pow_right (by omega) (by omega))

theorem roundedUnits_representable {num den : Nat} (h : roundedUnits num den < sizeLimit) :
    Representable (roundedUnits num den) := by
  refine multiple_representable ?_ h
  have hd : num / (den * gap (num / den)) < twoPower 53 := by
    rw [← Nat.div_div_eq_div_mul]
    exact div_gap_lt _
  exact Nat.le_trans (nearest_le num (den * gap (num / den))) hd

namespace Double

/-- The double nearest to a signed fraction of units. Nothing but its own lemmas unfolds it: the powers of
two inside are not to be multiplied out. -/
@[irreducible] def round (negative : Bool) (num den : Nat) : Double :=
  if h : roundedUnits num den < sizeLimit then
    .finite negative (roundedUnits num den) (roundedUnits_representable h)
  else .infinite negative

def zero (negative : Bool) : Double := .finite negative 0 representable_zero

def isNan : Double → Bool
  | .nan => true
  | _ => false

def isFinite : Double → Bool
  | .finite .. => true
  | _ => false

/-- The whole numbers that are doubles are exact; the others round. -/
def ofInt (n : Int) : Double := round (n < 0) (n.natAbs * unitsPerOne) 1

end Double

/-- Why an arithmetic step has no answer. -/
inductive ArithmeticFault where
  /-- an integer, or a quotient of integers, that is too large for a double -/
  | tooLarge
  | divisionByZero
  /-- an integer was asked of an infinity -/
  | infiniteInteger
  /-- an integer was asked of nan -/
  | undefinedInteger
  /-- a position beyond the last step of a scale -/
  | offScale
  deriving DecidableEq, Repr

end DashboardCompiler
