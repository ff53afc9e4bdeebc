import DashboardCompiler.Proofs.Double.Rounding

/-!
# How far a result is from its exact value

A rounded fraction is at most half a gap away from the fraction itself, and it is the fraction wherever that is a
double. `RoundsTo` says both for signed values in units, with one gap for all fractions up to some size, so that the
errors of a few steps can be added up over the integers.
-/

namespace DashboardCompiler

variable {num den : Nat}

/-- The nearest whole number is at most a half away. -/
theorem nearest_near (hden : 0 < den) :
    2 * (nearest num den * den) ≤ 2 * num + den ∧ 2 * num ≤ 2 * (nearest num den * den) + den := by
  have hnum : num / den * den + num % den = num := by
    rw [Nat.mul_comm]
    exact Nat.div_add_mod num den
  have hmod : num % den < den := Nat.mod_lt num hden
  have hnext : (num / den + 1) * den = num / den * den + den := Nat.add_one_mul _ _
  simp only [nearest]
  split <;> omega

theorem roundedUnits_near (hden : 0 < den) :
    2 * (roundedUnits num den * den) ≤ 2 * num + gap (num / den) * den ∧
      2 * num ≤ 2 * (roundedUnits num den * den) + gap (num / den) * den := by
  have hnear := @nearest_near num _ (Nat.mul_pos hden (gap_pos (num / den)))
  have hscale : nearest num (den * gap (num / den)) * (den * gap (num / den)) = roundedUnits num den * den := by
    rw [roundedUnits]
    ring
  rw [hscale, Nat.mul_comm den] at hnear
  exact hnear

theorem gap_le_of_lt {n j : Nat} (h : n < twoPower (j + 53)) : gap n ≤ twoPower j := by
  rcases Nat.eq_zero_or_pos n with rfl | hpos
  · exact twoPower_le (Nat.zero_le j)
  · have hlog : n.log2 < j + 53 := (Nat.log2_lt hpos.ne').2 h
    exact twoPower_le (by omega)

namespace Double

/-- The whole number of units that a fraction of units is rounded to, where neighbouring doubles are at most `2 ^ j`
units apart. -/
structure RoundsTo (j : Nat) (num : Int) (den : Nat) (m : Int) : Prop where
  above : 2 * (m * den - num) ≤ twoPower j * den
  below : 2 * (num - m * den) ≤ twoPower j * den
  exact : ∀ k : Int, num = k * den → Representable k.natAbs → m = k

/-- A size with a sign, in units. -/
def signed (negative : Bool) (size : Nat) : Int := if negative then -(size : Int) else size

theorem signed_natAbs (i : Int) : signed (decide (i < 0)) i.natAbs = i := by
  unfold signed
  simp only [decide_eq_true_eq]
  split <;> omega

theorem signed_mul (negative : Bool) (size k : Nat) : signed negative (size * k) = signed negative size * k := by
  cases negative <;> simp [signed]

theorem units?_finite (negative : Bool) (size : Nat) (fits : Representable size) :
    units? (.finite negative size fits) = some (signed negative size) := rfl

/-- A fraction of a size that is far from the limit is rounded to such a whole number. -/
theorem units?_round {j : Nat} {num : Int} (hden : 0 < den) (hsize : num.natAbs / den < twoPower (j + 52))
    (hj : j + 52 < 2097) :
    ∃ m, (round (decide (num < 0)) num.natAbs den).units? = some m ∧ RoundsTo j num den m := by
  have hlog : (num.natAbs / den).log2 < 2097 := Nat.lt_of_le_of_lt (log2_le_of_lt_twoPower hsize) hj
  obtain ⟨habove, hbelow⟩ := @roundedUnits_near num.natAbs den hden
  have hgap : gap (num.natAbs / den) * den ≤ twoPower j * den :=
    Nat.mul_le_mul_right den (gap_le_of_lt (hsize.trans (twoPower_lt (by omega))))
  have hexact (k : Nat) (hnum : num.natAbs = k * den) (hk : Representable k) : roundedUnits num.natAbs den = k := by
    have hscaled := @roundedUnits_mul_right k 1 den hden
    rw [Nat.one_mul, ← hnum, hk.roundedUnits] at hscaled
    exact hscaled
  rw [round_of_lt (roundedUnits_lt_sizeLimit hlog), units?_finite]
  generalize roundedUnits num.natAbs den = size at habove hbelow hexact ⊢
  generalize gap (num.natAbs / den) * den = width at habove hbelow hgap
  have herror : signed (decide (num < 0)) size * den - num = ((size * den : Nat) : Int) - num.natAbs ∨
      signed (decide (num < 0)) size * den - num = num.natAbs - ((size * den : Nat) : Int) := by
    rcases Int.lt_or_le num 0 with hneg | hpos
    · rw [signed, if_pos (by simpa using hneg), Int.neg_mul, ← Nat.cast_mul]
      omega
    · rw [signed, if_neg (by simpa using hpos), ← Nat.cast_mul]
      omega
  refine ⟨_, rfl, ?_, ?_, ?_⟩
  · rw [← Nat.cast_mul]
    omega
  · rw [← Nat.cast_mul]
    omega
  · rintro k rfl hk
    rw [hexact k.natAbs (by rw [Int.natAbs_mul, Int.natAbs_natCast]) hk]
    have hsign : k * den < 0 ↔ k < 0 := by
      rw [Int.mul_neg_iff]
      omega
    rw [decide_eq_decide.2 hsign, signed_natAbs]

variable {j : Nat} {x y : Double} {m n : Int}

theorem inRange_of_units (hx : x.units? = some m) : inRange x = .ok x := by
  cases x with
  | infinite => cases hx
  | _ => rfl

/-- A quotient of integers, rounded once. -/
theorem ofQuotient_roundsTo (a : Int) {b : Int} (hb : 0 < b)
    (hsize : a.natAbs * unitsPerOne / b.natAbs < twoPower (j + 52)) (hj : j + 52 < 2097) :
    ∃ q m, ofQuotient a b = .ok q ∧ q.units? = some m ∧ RoundsTo j (a * unitsPerOne) b.natAbs m := by
  have hnum : (a * unitsPerOne).natAbs = a.natAbs * unitsPerOne := by rw [Int.natAbs_mul, Int.natAbs_natCast]
  have hsign : a * unitsPerOne < 0 ↔ a < 0 := by
    rw [Int.mul_neg_iff]
    have hpos := unitsPerOne_pos
    omega
  obtain ⟨m, hm, hround⟩ := @units?_round _ j (a * unitsPerOne) (Int.natAbs_pos.2 hb.ne') (hnum.symm ▸ hsize) hj
  rw [decide_eq_decide.2 hsign, hnum] at hm
  have hnonneg : decide (b < 0) = false := decide_eq_false hb.not_gt
  refine ⟨_, m, ?_, hm, hround⟩
  rw [ofQuotient, if_neg hb.ne', hnonneg, Bool.bne_false]
  exact inRange_of_units hm

/-- A sum, exact before it is rounded. -/
theorem add_roundsTo (hx : x.units? = some m) (hy : y.units? = some n) (hsize : (m + n).natAbs < twoPower (j + 52))
    (hj : j + 52 < 2097) : ∃ s, (x.add y).units? = some s ∧ RoundsTo j (m + n) 1 s := by
  cases x with
  | finite a i hi =>
    cases y with
    | finite b k hk =>
      obtain rfl := Option.some.inj hx
      obtain rfl := Option.some.inj hy
      obtain ⟨s, hs, hround⟩ := @units?_round _ j (signed a i + signed b k) Nat.one_pos (by rwa [Nat.div_one]) hj
      refine ⟨s, ?_, hround⟩
      change units? (if signed a i + signed b k = 0 then zero (a && b) else
        round (decide (signed a i + signed b k < 0)) (signed a i + signed b k).natAbs 1) = some s
      split
      · rename_i hzero
        have hs0 : s = 0 := hround.exact 0 (by rw [hzero, Int.zero_mul]) representable_zero
        rw [zero, units?_finite, hs0]
        cases a && b <;> rfl
      · exact hs
    | _ => cases hy
  | _ => cases hx

theorem floor_of_units (hx : x.units? = some m) : x.floor = .ok (m / unitsPerOne) := by
  cases x with
  | finite a i hi =>
    obtain rfl := Option.some.inj hx
    exact congrArg Except.ok (Int.fdiv_eq_ediv_of_nonneg _ (Int.natCast_nonneg _))
  | _ => cases hx

end Double

end DashboardCompiler
