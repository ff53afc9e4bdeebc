import DashboardCompiler.Proofs.Double.Rounding

/-!
# The shortest digits read back

`Double.shortest` selects digits by `readsBack`, moves their trailing zeros into the exponent and falls back on the
exact decimal. Each of the three gives a decimal that `Double.ofDecimal` rounds to the size it was selected for, so
what is written with these digits denotes the double itself.
-/

namespace DashboardCompiler

namespace Decimal

/-- The fraction of units that a decimal is: its numerator. -/
def numerator (d : Decimal) : Nat := d.digits * Nat.pow 10 d.exponent.toNat * unitsPerOne

def denominator (d : Decimal) : Nat := Nat.pow 10 (-d.exponent).toNat

theorem denominator_pos (d : Decimal) : 0 < d.denominator := Nat.pow_pos (by decide)

/-- A decimal near enough to be rounded by its power, which is rounded to a size. -/
structure ReadsAs (u : Nat) (d : Decimal) : Prop where
  digits_ne : d.digits ≠ 0
  low : -(d.digits.log2 + 1 : Int) - 400 ≤ d.exponent
  high : d.exponent ≤ 400
  rounded : roundedUnits d.numerator d.denominator = u

/-- Zeros at the end count as powers of ten. -/
theorem numerator_shift (c k : Nat) (e : Int) :
    numerator ⟨c * Nat.pow 10 k, e⟩ * denominator ⟨c, e + k⟩ =
      numerator ⟨c, e + k⟩ * denominator ⟨c * Nat.pow 10 k, e⟩ := by
  have hpowers : Nat.pow 10 k * Nat.pow 10 e.toNat * Nat.pow 10 (-(e + k)).toNat =
      Nat.pow 10 (e + k).toNat * Nat.pow 10 (-e).toNat := by
    change 10 ^ k * 10 ^ e.toNat * 10 ^ (-(e + k)).toNat = 10 ^ (e + k).toNat * 10 ^ (-e).toNat
    rw [← Nat.pow_add, ← Nat.pow_add, ← Nat.pow_add]
    congr 1
    omega
  simp only [numerator, denominator]
  calc c * Nat.pow 10 k * Nat.pow 10 e.toNat * unitsPerOne * Nat.pow 10 (-(e + k)).toNat
      = c * unitsPerOne * (Nat.pow 10 k * Nat.pow 10 e.toNat * Nat.pow 10 (-(e + k)).toNat) := by ring
    _ = c * unitsPerOne * (Nat.pow 10 (e + k).toNat * Nat.pow 10 (-e).toNat) := by rw [hpowers]
    _ = c * Nat.pow 10 (e + k).toNat * unitsPerOne * Nat.pow 10 (-e).toNat := by ring

theorem roundedUnits_shift (c k : Nat) (e : Int) :
    roundedUnits (numerator ⟨c * Nat.pow 10 k, e⟩) (denominator ⟨c * Nat.pow 10 k, e⟩) =
      roundedUnits (numerator ⟨c, e + k⟩) (denominator ⟨c, e + k⟩) :=
  roundedUnits_congr (denominator_pos _) (denominator_pos _) (numerator_shift c k e)

variable {u c k : Nat} {e : Int}

theorem ReadsAs.shift (h : ReadsAs u ⟨c * Nat.pow 10 k, e⟩) (hlow : -400 ≤ e) (hhigh : e + k ≤ 400) :
    ReadsAs u ⟨c, e + k⟩ where
  digits_ne := by
    intro hzero
    exact h.digits_ne (Nat.mul_eq_zero.2 (.inl hzero))
  low := by
    show -((c.log2 : Int) + 1) - 400 ≤ e + k
    omega
  high := hhigh
  rounded := (roundedUnits_shift c k e).symm.trans h.rounded

end Decimal

namespace Double

theorem ofDecimal_eq_round {d : Decimal} (hdigits : d.digits ≠ 0)
    (hlow : -(d.digits.log2 + 1 : Int) - 400 ≤ d.exponent) (hhigh : d.exponent ≤ 400) (negative : Bool) :
    ofDecimal negative d.digits d.exponent = round negative d.numerator d.denominator := by
  rw [ofDecimal, if_neg hdigits, if_neg (by omega), if_neg (by omega), Decimal.numerator, Decimal.denominator]
  rcases Int.lt_or_le d.exponent 0 with hneg | hpos
  · rw [if_neg (by omega), Int.toNat_of_nonpos hneg.le]
    congr 2
    exact (Nat.mul_one _).symm
  · rw [if_pos hpos, Int.toNat_of_nonpos (show -d.exponent ≤ 0 by omega)]

theorem ofDecimal_shift {c k : Nat} {e : Int} (hc : c ≠ 0) (hlow : -400 ≤ e) (hhigh : e + k ≤ 400) (negative : Bool) :
    ofDecimal negative (c * Nat.pow 10 k) e = ofDecimal negative c (e + k) := by
  have hlong : c * Nat.pow 10 k ≠ 0 := Nat.mul_ne_zero hc (Nat.pow_pos (by decide)).ne'
  have hleft := ofDecimal_eq_round (d := ⟨c * Nat.pow 10 k, e⟩) hlong (by simp only; omega) (by simp only; omega)
    negative
  have hright := ofDecimal_eq_round (d := ⟨c, e + k⟩) hc (by simp only; omega) (by simp only; omega) negative
  rw [hleft, hright]
  exact round_congr (Decimal.denominator_pos _) (Decimal.denominator_pos _) (Decimal.numerator_shift c k e) negative

theorem ofDecimal_of_readsAs {u : Nat} {d : Decimal} (h : d.ReadsAs u) (hu : Representable u) (negative : Bool) :
    ofDecimal negative d.digits d.exponent = .finite negative u hu := by
  rw [ofDecimal_eq_round h.digits_ne h.low h.high, round_of_eq h.rounded hu]

/-- A whole number is its own decimal. -/
theorem ofDecimal_whole (negative : Bool) (n : Nat) : ofDecimal negative n 0 = round negative (n * unitsPerOne) 1 := by
  rcases Nat.eq_zero_or_pos n with rfl | hpos
  · rw [ofDecimal, if_pos rfl, Nat.zero_mul, round_of_eq (roundedUnits_zero 1) representable_zero, zero]
  · have hround := ofDecimal_eq_round (d := ⟨n, 0⟩) hpos.ne' (by simp only; omega) (by simp) negative
    rw [hround, Decimal.numerator, Decimal.denominator]
    exact congrArg (fun m => round negative (m * unitsPerOne) 1) (Nat.mul_one n)

/-- A candidate that passes the test lies within the bounds of its size. -/
theorem within_of_readsBack {u c : Nat} {e : Int} (h : readsBack u c e = true) :
    Within u (Decimal.numerator ⟨c, e⟩) (Decimal.denominator ⟨c, e⟩) := by
  have hvalue : (if 0 ≤ e then (4 * c * Nat.pow 10 e.toNat * unitsPerOne, 1)
      else (4 * c * unitsPerOne, Nat.pow 10 (-e).toNat)) =
      (4 * Decimal.numerator ⟨c, e⟩, Decimal.denominator ⟨c, e⟩) := by
    simp only [Decimal.numerator, Decimal.denominator]
    rcases Int.lt_or_le e 0 with hneg | hpos
    · rw [if_neg (by omega), Int.toNat_of_nonpos hneg.le, show Nat.pow 10 0 = 1 from rfl, Nat.mul_one,
        Nat.mul_assoc]
    · rw [if_pos hpos, Int.toNat_of_nonpos (show -e ≤ 0 by omega), show Nat.pow 10 0 = 1 from rfl, Nat.mul_assoc 4,
        Nat.mul_assoc 4]
  simp only [readsBack, hvalue, Bool.or_eq_true, Bool.and_eq_true, decide_eq_true_eq] at h
  have horder : (roundingBounds u).1 ≤ (roundingBounds u).2 := Nat.le_trans (Nat.sub_le _ _) (Nat.le_add_right _ _)
  have hscaled := Nat.mul_le_mul_right (Decimal.denominator ⟨c, e⟩) horder
  rcases h with ⟨hlow, hhigh⟩ | ⟨heven, hlow | hhigh⟩
  · exact ⟨hlow.le, hhigh.le, .inr ⟨hlow, hhigh⟩⟩
  · exact ⟨hlow.ge, hlow.trans_le hscaled, .inl heven⟩
  · exact ⟨hscaled.trans hhigh.ge, hhigh.le, .inl heven⟩

theorem candidate_ne_zero {u c : Nat} {e : Int} (hu : Representable u) (hpos : 0 < u) (h : readsBack u c e = true) :
    c ≠ 0 := by
  rintro rfl
  have hround := (within_of_readsBack h).roundedUnits hu hpos (Decimal.denominator_pos _)
  have hzero : Decimal.numerator ⟨0, e⟩ = 0 := by simp [Decimal.numerator]
  rw [hzero, roundedUnits_zero] at hround
  exact hpos.ne hround

theorem candidate?_readsBack {u c : Nat} {e : Int} (h : candidate? u e = some c) : readsBack u c e = true := by
  simp only [candidate?] at h
  split at h
  · rename_i hlow hhigh
    cases h
    split
    · exact hhigh
    · exact hlow
  · rename_i hlow _
    cases h
    exact hlow
  · rename_i _ hhigh
    cases h
    exact hhigh
  · exact absurd h (by simp)

theorem firstCandidate_spec {u : Nat} {scale : Int} {d : Decimal} (fuel places : Nat)
    (h : firstCandidate u scale fuel places = some d) :
    readsBack u d.digits d.exponent = true ∧ scale - (places + fuel : Nat) ≤ d.exponent ∧
      d.exponent ≤ scale - places := by
  induction fuel generalizing places with
  | zero => exact absurd h (by simp [firstCandidate])
  | succ fuel ih =>
    simp only [firstCandidate] at h
    split at h
    · rename_i c hc
      cases h
      exact ⟨candidate?_readsBack hc, by simp only; omega, le_rfl⟩
    · have hlater := ih (places + 1) h
      exact ⟨hlater.1, by omega, by omega⟩

theorem scaleFrom_bounds (u fuel : Nat) (k : Int) : k ≤ scaleFrom u fuel k ∧ scaleFrom u fuel k ≤ k + fuel := by
  induction fuel generalizing k with
  | zero => simp [scaleFrom]
  | succ fuel ih =>
    have hlater := ih (k + 1)
    simp only [scaleFrom]
    split
    · omega
    · omega

theorem decimalScale_bounds {u : Nat} (hu : Representable u) : -326 ≤ decimalScale u ∧ decimalScale u ≤ 314 := by
  have hlog : u.log2 ≤ 2098 := log2_le_of_lt_twoPower hu.2
  have hbounds := scaleFrom_bounds u 8 (((u.log2 : Int) - 1074) * 30103 / 100000 - 2)
  simp only [decimalScale]
  omega

/-- Only zeros are taken away, one power of ten for each. -/
theorem stripZeros_spec (fuel : Nat) (d : Decimal) :
    ∃ k ≤ fuel, d = ⟨(stripZeros fuel d).digits * Nat.pow 10 k, (stripZeros fuel d).exponent - k⟩ := by
  induction fuel generalizing d with
  | zero => exact ⟨0, le_rfl, by simp [stripZeros]⟩
  | succ fuel ih =>
    obtain ⟨c, e⟩ := d
    simp only [stripZeros]
    split
    · rename_i hzero
      obtain ⟨k, hk, hlater⟩ := ih ⟨c / 10, e + 1⟩
      obtain ⟨hdigits, hexponent⟩ := Decimal.mk.inj hlater
      have hwhole : c = c / 10 * 10 := by omega
      have hpower : Nat.pow 10 (k + 1) = Nat.pow 10 k * 10 := rfl
      refine ⟨k + 1, by omega, ?_⟩
      rw [hpower, ← Nat.mul_assoc, ← hdigits, ← hwhole]
      congr 1
      omega
    · exact ⟨0, Nat.zero_le _, by simp⟩

/-- A candidate's power of ten is far from the cutoffs of the reader. -/
theorem readsAs_candidate {u : Nat} {d : Decimal} (hu : Representable u) (hpos : 0 < u)
    (h : readsBack u d.digits d.exponent = true) (hlow : -400 ≤ d.exponent) (hhigh : d.exponent ≤ 400) :
    d.ReadsAs u where
  digits_ne := candidate_ne_zero hu hpos h
  low := by omega
  high := hhigh
  rounded := (within_of_readsBack h).roundedUnits hu hpos (Decimal.denominator_pos _)

theorem readsAs_stripZeros {u : Nat} {d : Decimal} (fuel : Nat) (h : d.ReadsAs u) (hlow : -400 ≤ d.exponent)
    (hhigh : d.exponent + fuel ≤ 400) : (stripZeros fuel d).ReadsAs u := by
  obtain ⟨k, hk, heq⟩ := stripZeros_spec fuel d
  generalize stripZeros fuel d = stripped at heq ⊢
  cases stripped with
  | mk c e =>
    subst heq
    have hshift := h.shift hlow (by simp only at hhigh ⊢; omega)
    rwa [Int.sub_add_cancel] at hshift

theorem mul_five_pow_ne_zero {u : Nat} (hpos : 0 < u) (n : Nat) : u * Nat.pow 5 n ≠ 0 :=
  (Nat.mul_pos hpos (Nat.pow_pos (by decide))).ne'

theorem five_pow_mul_twoPower (n : Nat) : Nat.pow 5 n * twoPower n = Nat.pow 10 n := (Nat.mul_pow 5 2 n).symm

theorem le_log2_mul_five_pow {u : Nat} (hpos : 0 < u) (n : Nat) : n ≤ (u * Nat.pow 5 n).log2 := by
  refine (Nat.le_log2 (mul_five_pow_ne_zero hpos n)).2 ?_
  calc 2 ^ n ≤ Nat.pow 5 n := Nat.pow_le_pow_left (by decide) n
    _ ≤ u * Nat.pow 5 n := Nat.le_mul_of_pos_left _ hpos

/-- The last resort has the value of the size itself. -/
theorem readsAs_exact {u n : Nat} {e : Int} (hu : Representable u) (hpos : 0 < u) (hn : unitsPerOne = twoPower n)
    (he : e = -n) : Decimal.ReadsAs u ⟨u * Nat.pow 5 n, e⟩ where
  digits_ne := mul_five_pow_ne_zero hpos n
  low := by
    have hlog := le_log2_mul_five_pow hpos n
    simp only
    omega
  high := by
    simp only
    omega
  rounded := by
    refine (roundedUnits_congr (Decimal.denominator_pos _) Nat.one_pos ?_).trans hu.roundedUnits
    simp only [Decimal.numerator, Decimal.denominator, hn, he, Int.neg_neg, Int.toNat_natCast, Nat.mul_one,
      Int.toNat_of_nonpos (show -(n : Int) ≤ 0 by omega), show Nat.pow 10 0 = 1 from rfl]
    rw [Nat.mul_assoc, five_pow_mul_twoPower]

/-- **The selected digits read back.** -/
theorem shortest_readsAs {u : Nat} (hu : Representable u) (hpos : 0 < u) : (shortest u).ReadsAs u := by
  have hscale := decimalScale_bounds hu
  unfold shortest
  split
  · rename_i d hfound
    have hspec := firstCandidate_spec 17 1 hfound
    exact readsAs_stripZeros 20 (readsAs_candidate hu hpos hspec.1 (by omega) (by omega)) (by omega) (by omega)
  · have hone : unitsPerOne = twoPower 1074 := rfl
    generalize hn : 1074 = n at hone ⊢
    exact readsAs_exact hu hpos hone (by omega)

/-- Every finite double is the value of the digits that are written for it. -/
theorem ofDecimal_shortest {u : Nat} (hu : Representable u) (hpos : 0 < u) (negative : Bool) :
    ofDecimal negative (shortest u).digits (shortest u).exponent = .finite negative u hu :=
  ofDecimal_of_readsAs (shortest_readsAs hu hpos) hu negative

end Double

end DashboardCompiler
