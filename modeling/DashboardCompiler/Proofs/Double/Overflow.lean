import DashboardCompiler.Double.Arithmetic
import DashboardCompiler.Proofs.Except
import Mathlib.Tactic.Ring

/-!
# Where doubles end

The largest finite double is `2 ^ 1024 - 2 ^ 971`, and the next step of its scale would be `2 ^ 1024`. A
number rounds to an infinity from the middle of the two on, the middle included, because the significand
of the largest double is odd. Below, only the binade in front of `2 ^ 1024` has to be looked at closely:
smaller sizes cannot reach the limit by rounding up, and larger ones cannot fall below it.
-/

namespace DashboardCompiler

/-- The least size that is rounded out of the finite range: `2 ^ 1024 - 2 ^ 970`. -/
def overflowSize : Nat := twoPower 1024 - twoPower 970

theorem twoPower_succ (n : Nat) : twoPower (n + 1) = 2 * twoPower n := by
  rw [twoPower_add, Nat.mul_comm]
  rfl

theorem twoPower_le {m n : Nat} (h : m ≤ n) : twoPower m ≤ twoPower n :=
  Nat.pow_le_pow_right (by decide) h

theorem twoPower_lt {m n : Nat} (h : m < n) : twoPower m < twoPower n :=
  Nat.pow_lt_pow_right (by decide) h

theorem log2_le_of_lt_twoPower {n k : Nat} (h : n < twoPower k) : n.log2 ≤ k := by
  rcases Nat.eq_zero_or_pos n with rfl | hpos
  · exact Nat.zero_le k
  · exact ((Nat.log2_lt hpos.ne').2 h).le

theorem unitsPerOne_pos : 0 < unitsPerOne := twoPower_pos 1074

theorem overflowSize_units : overflowSize * unitsPerOne = twoPower 2098 - twoPower 2044 := by
  rw [overflowSize, unitsPerOne, Nat.sub_mul, ← twoPower_add, ← twoPower_add]

/-- Rounding passes a whole number as soon as the fraction passes the middle behind it; on the middle it
passes the odd ones only. -/
theorem lt_nearest_iff {num den k : Nat} (hden : 0 < den) :
    k < nearest num den ↔
      (2 * k + 1) * den < 2 * num ∨ (2 * k + 1) * den = 2 * num ∧ k % 2 = 1 := by
  have hnum : den * (num / den) + num % den = num := Nat.div_add_mod num den
  have hmod : num % den < den := Nat.mod_lt num hden
  have hmiddle : (2 * k + 1) * den = 2 * (den * k) + den := by ring
  rw [hmiddle]
  simp only [nearest]
  generalize num / den = low at *
  generalize num % den = rest at *
  rcases Nat.lt_trichotomy k low with hlt | rfl | hgt
  · have hstep : den * k + den ≤ den * low := Nat.mul_le_mul_left den hlt
    constructor
    · intro _
      exact .inl (by omega)
    · intro _
      split <;> omega
  · split <;> omega
  · have hstep : den * low + den ≤ den * k := Nat.mul_le_mul_left den hgt
    constructor
    · intro h
      split at h <;> omega
    · omega

/-- The binade in front of the limit: its doubles lie `2 ^ 2045` units apart, and there are `2 ^ 53` of them
below the limit, so the middle in front of the limit belongs to an odd one. -/
theorem sizeLimit_le_roundedUnits_of_log2_eq {num den : Nat} (hden : 0 < den)
    (hlog : (num / den).log2 = 2097) :
    sizeLimit ≤ roundedUnits num den ↔ overflowSize * unitsPerOne * den ≤ num := by
  have hgap : gap (num / den) = twoPower 2045 := by rw [gap, hlog]
  have hlimit : sizeLimit = twoPower 53 * twoPower 2045 := twoPower_add 53 2045
  have hpos : 0 < den * twoPower 2045 := Nat.mul_pos hden (twoPower_pos 2045)
  have hodd : (twoPower 53 - 1) % 2 = 1 := by decide
  have hcount : 2 * (twoPower 53 - 1) + 1 = 2 * twoPower 53 - 1 := by decide
  rw [roundedUnits, hgap, hlimit, Nat.mul_le_mul_right_iff (twoPower_pos 2045)]
  have hlast : twoPower 53 ≤ nearest num (den * twoPower 2045) ↔
      twoPower 53 - 1 < nearest num (den * twoPower 2045) := by
    have := twoPower_pos 53
    omega
  rw [hlast, lt_nearest_iff hpos, hcount, overflowSize_units]
  have hmiddle : (2 * twoPower 53 - 1) * (den * twoPower 2045) =
      2 * ((twoPower 2098 - twoPower 2044) * den) := by
    have hscale : twoPower 2098 - twoPower 2044 = (2 * twoPower 53 - 1) * twoPower 2044 := by
      rw [Nat.sub_mul, Nat.one_mul, ← twoPower_succ, ← twoPower_add]
    rw [hscale, twoPower_succ 2044]
    ring
  rw [hmiddle]
  omega

/-- Rounding takes a size up by at most one gap. -/
theorem roundedUnits_le (num den : Nat) : roundedUnits num den ≤ num / den + gap (num / den) := by
  have hnearest := nearest_le num (den * gap (num / den))
  rw [← Nat.div_div_eq_div_mul] at hnearest
  calc roundedUnits num den
      ≤ (num / den / gap (num / den) + 1) * gap (num / den) := Nat.mul_le_mul_right _ hnearest
    _ = num / den / gap (num / den) * gap (num / den) + gap (num / den) := Nat.succ_mul _ _
    _ ≤ num / den + gap (num / den) := Nat.add_le_add_right (Nat.div_mul_le_self _ _) _

/-- A smaller size is less than one gap away from its rounded size. -/
theorem roundedUnits_lt_sizeLimit {num den : Nat} (hlog : (num / den).log2 < 2097) :
    roundedUnits num den < sizeLimit := by
  have hsize : num / den < twoPower 2097 :=
    Nat.lt_of_lt_of_le Nat.lt_log2_self (twoPower_le hlog)
  have hgap : gap (num / den) ≤ twoPower 2097 := twoPower_le (by omega)
  have hround := roundedUnits_le num den
  have hlimit : sizeLimit = 2 * twoPower 2097 := twoPower_succ 2097
  omega

theorem ne_zero_of_lt_log2 {n k : Nat} (h : k < n.log2) : n ≠ 0 := by
  rintro rfl
  simp at h

/-- A larger size stays at or above the power of two that its binade starts with. -/
theorem sizeLimit_le_roundedUnits {num den : Nat} (hlog : 2097 < (num / den).log2) :
    sizeLimit ≤ roundedUnits num den := by
  have hfloor : ∀ n d : Nat, n / d ≤ nearest n d := by
    intro n d
    simp only [nearest]
    split <;> omega
  obtain ⟨steps, hsteps⟩ : gap (num / den) ∣ twoPower (num / den).log2 := gap_dvd_of_log2_le (by omega)
  have hcount : steps ≤ num / den / gap (num / den) := by
    rw [Nat.le_div_iff_mul_le (gap_pos _), Nat.mul_comm, ← hsteps]
    exact Nat.log2_self_le (ne_zero_of_lt_log2 hlog)
  calc sizeLimit
      ≤ twoPower (num / den).log2 := twoPower_le hlog
    _ = steps * gap (num / den) := by rw [hsteps, Nat.mul_comm]
    _ ≤ num / den / gap (num / den) * gap (num / den) := Nat.mul_le_mul_right _ hcount
    _ ≤ roundedUnits num den := by
      rw [Nat.div_div_eq_div_mul]
      exact Nat.mul_le_mul_right _ (hfloor _ _)

/-- A fraction of units is rounded out of the finite range exactly from `overflowSize` on. -/
theorem sizeLimit_le_roundedUnits_iff {num den : Nat} (hden : 0 < den) :
    sizeLimit ≤ roundedUnits num den ↔ overflowSize * unitsPerOne * den ≤ num := by
  rw [overflowSize_units]
  rcases Nat.lt_trichotomy (num / den).log2 2097 with hlow | heq | hhigh
  · have hsize : num / den < twoPower 2097 :=
      Nat.lt_of_lt_of_le Nat.lt_log2_self (twoPower_le hlow)
    have hbelow : num < (twoPower 2098 - twoPower 2044) * den := by
      have hle : twoPower 2097 ≤ twoPower 2098 - twoPower 2044 := by
        have := twoPower_le (show 2044 ≤ 2097 by decide)
        rw [twoPower_succ 2097]
        omega
      exact Nat.lt_of_lt_of_le ((Nat.div_lt_iff_lt_mul hden).1 hsize) (Nat.mul_le_mul_right _ hle)
    exact iff_of_false (Nat.not_le.2 (roundedUnits_lt_sizeLimit hlow)) (Nat.not_le.2 hbelow)
  · rw [← overflowSize_units]
    exact sizeLimit_le_roundedUnits_of_log2_eq hden heq
  · have hsize : twoPower 2098 ≤ num / den :=
      Nat.le_trans (twoPower_le hhigh) (Nat.log2_self_le (ne_zero_of_lt_log2 hhigh))
    have habove : (twoPower 2098 - twoPower 2044) * den ≤ num :=
      Nat.le_trans (Nat.mul_le_mul_right _ (Nat.sub_le _ _)) ((Nat.le_div_iff_mul_le hden).1 hsize)
    exact iff_of_true (sizeLimit_le_roundedUnits hhigh) habove

namespace Double

theorem round_of_lt {num den : Nat} (h : roundedUnits num den < sizeLimit) (negative : Bool) :
    round negative num den = .finite negative (roundedUnits num den) (roundedUnits_representable h) := by
  unfold round
  exact dif_pos h

theorem round_of_le {num den : Nat} (h : sizeLimit ≤ roundedUnits num den) (negative : Bool) :
    round negative num den = .infinite negative := by
  unfold round
  exact dif_neg (Nat.not_lt.2 h)

theorem inRange_round_failsIff (negative : Bool) (num den : Nat) :
    FailsIff (sizeLimit ≤ roundedUnits num den) .tooLarge (inRange (round negative num den)) := by
  rcases Nat.lt_or_ge (roundedUnits num den) sizeLimit with hfits | hlarge
  · rw [round_of_lt hfits]
    exact failsIff_ok (Nat.not_le.2 hfits) _
  · rw [round_of_le hlarge]
    exact failsIff_error hlarge

theorem ofInt?_failsIff (n : Int) : FailsIff (overflowSize ≤ n.natAbs) .tooLarge (ofInt? n) := by
  have hunits : overflowSize * unitsPerOne * 1 ≤ n.natAbs * unitsPerOne ↔ overflowSize ≤ n.natAbs := by
    rw [Nat.mul_one, Nat.mul_le_mul_right_iff unitsPerOne_pos]
  rw [ofInt?, ofInt, ← hunits, ← sizeLimit_le_roundedUnits_iff Nat.one_pos]
  exact inRange_round_failsIff _ _ _

end Double

/-!
## Sizes of results

A coarse bound on the size of a result from bounds on what it was computed from: rounding at most doubles it. That is
enough to see that a short computation on moderate numbers stays finite, so that none of its steps is a fault.
-/

theorem roundedUnits_lt_twoPower {num den k : Nat} (h : num / den < twoPower k) :
    roundedUnits num den < twoPower (k + 1) := by
  have hlog : (num / den).log2 ≤ k := log2_le_of_lt_twoPower h
  have hgap : gap (num / den) ≤ twoPower k := twoPower_le (by omega)
  have hround := roundedUnits_le num den
  rw [twoPower_succ]
  omega

namespace Double

/-- A finite double with a size below a power of two, in units. -/
def Below (n : Nat) : Double → Prop
  | .finite _ units _ => units < twoPower n
  | _ => False

instance (n : Nat) : (x : Double) → Decidable (x.Below n)
  | .finite _ units _ => inferInstanceAs (Decidable (units < twoPower n))
  | .nan | .infinite _ => isFalse id

variable {m n : Nat} {x y : Double}

theorem Below.mono (h : x.Below m) (hmn : m ≤ n) : x.Below n := by
  cases x with
  | finite negative units fits => exact Nat.lt_of_lt_of_le h (twoPower_le hmn)
  | _ => exact h

theorem below_round {num den : Nat} (negative : Bool) (h : num / den < twoPower n) (hn : n < 2098) :
    (round negative num den).Below (n + 1) := by
  have hsize := roundedUnits_lt_twoPower h
  have hfits : roundedUnits num den < sizeLimit := Nat.lt_of_lt_of_le hsize (twoPower_le hn)
  rw [round_of_lt hfits]
  exact hsize

theorem below_ofInt {i : Int} (hi : i.natAbs ≤ twoPower n) (hn : n < 1023) : (ofInt i).Below (n + 1076) := by
  refine below_round _ ?_ (by omega)
  rw [Nat.div_one, unitsPerOne, show n + 1075 = n + 1 + 1074 by omega, twoPower_add (n + 1)]
  refine Nat.mul_lt_mul_of_pos_right (Nat.lt_of_le_of_lt hi ?_) (twoPower_pos 1074)
  have hpos := twoPower_pos n
  rw [twoPower_succ]
  omega

theorem Below.add (hx : x.Below n) (hy : y.Below n) (hn : n < 2097) : (x.add y).Below (n + 2) := by
  cases x with
  | finite a i _ =>
    cases y with
    | finite b j _ =>
      have hi : i < twoPower n := hx
      have hj : j < twoPower n := hy
      have htotal : ((if a then -(i : Int) else i) + (if b then -(j : Int) else j)).natAbs < twoPower (n + 1) := by
        rw [twoPower_succ]
        split <;> split <;> omega
      simp only [Double.add]
      generalize (if a then -(i : Int) else i) + (if b then -(j : Int) else j) = total at htotal ⊢
      split
      · exact twoPower_pos (n + 2)
      · exact below_round _ (by rwa [Nat.div_one]) (by omega)
    | _ => exact absurd hy id
  | _ => exact absurd hx id

theorem Below.mul (hx : x.Below m) (hy : y.Below (n + 1074)) (hmn : m + n < 2098) : (x.mul y).Below (m + n + 1) := by
  cases x with
  | finite a i _ =>
    cases y with
    | finite b j _ =>
      have hi : i < twoPower m := hx
      have hj : j < twoPower (n + 1074) := hy
      refine below_round _ ?_ hmn
      rw [Nat.div_lt_iff_lt_mul unitsPerOne_pos, unitsPerOne, ← twoPower_add, Nat.add_assoc, twoPower_add m]
      exact Nat.mul_lt_mul_of_lt_of_lt hi hj
    | _ => exact absurd hy id
  | _ => exact absurd hx id

theorem Below.inRange (h : x.Below n) : inRange x = .ok x := by
  cases x with
  | finite => rfl
  | _ => exact absurd h id

theorem Below.floor (h : x.Below n) : ∃ i, x.floor = .ok i := by
  cases x with
  | finite => exact ⟨_, rfl⟩
  | _ => exact absurd h id

end Double

end DashboardCompiler
