import DashboardCompiler.Proofs.Double.Accuracy
import DashboardCompiler.Proofs.Double.Rounding

/-!
# Differences and shares

What the displays compute with finite doubles: the difference of two, the quotient of a difference by one that is no
smaller, and a multiple of that quotient as a whole number. A difference is either rounded to a finite double or, from
`overflowSize` on, to an infinity. A quotient of finite doubles by a larger one lies between zero and one, and neither
it nor its multiples leave the range that their exact values have.
-/

namespace DashboardCompiler.Double

variable {x y : Double}

/-- A whole number that is a double is not rounded. -/
theorem ofInt_natCast {n : Nat} (hn : n ≤ twoPower 53) :
    ofInt n = .finite false (n * unitsPerOne) (whole_representable hn) := by
  have hsign : decide ((n : Int) < 0) = false := decide_eq_false (by omega)
  rw [ofInt, hsign, Int.natAbs_natCast]
  exact round_of_eq (whole_representable hn).roundedUnits _ false

theorem units?_ofInt {n : Int} (hn : n.natAbs ≤ twoPower 53) : (ofInt n).units? = some (n * unitsPerOne) := by
  have hround : ofInt n = .finite (n < 0) (n.natAbs * unitsPerOne) (whole_representable hn) :=
    round_of_eq (whole_representable hn).roundedUnits _ _
  rw [hround, units?_finite, signed_mul, signed_natAbs]

theorem ofQuotient_natCast {a b u : Nat} (hb : 0 < b) (hu : roundedUnits (a * unitsPerOne) b = u)
    (hfits : Representable u) : ofQuotient a b = .ok (.finite false u hfits) := by
  have hsign : (decide ((a : Int) < 0) != decide ((b : Int) < 0)) = false := by
    rw [decide_eq_false (by omega), decide_eq_false (by omega)]
    rfl
  rw [ofQuotient, if_neg (by omega), hsign, Int.natAbs_natCast, Int.natAbs_natCast, round_of_eq hu hfits]
  rfl

theorem exists_units {x : Double} (hx : x.isFinite = true) : ∃ m, x.units? = some m := by
  cases x with
  | finite => exact ⟨_, rfl⟩
  | _ => cases hx

/-- The sign of a zero is not in its units. -/
theorem signed_of_zero {negative : Bool} {size : Nat} (h : negative = true → size = 0) : signed negative size = size := by
  cases negative with
  | false => rfl
  | true => rw [h rfl]; rfl

/-- Of the finite doubles without negative units only a zero may have a sign. -/
theorem finite_of_units {i : Nat} (hx : x.units? = some (i : Int)) :
    ∃ negative hfits, x = .finite negative i hfits ∧ (negative = true → i = 0) := by
  cases x with
  | finite negative k hfits =>
    have hunits : signed negative k = i := Option.some.inj hx
    cases negative with
    | false =>
      obtain rfl : k = i := by simpa [signed] using hunits
      exact ⟨false, hfits, rfl, fun h => absurd h Bool.false_ne_true⟩
    | true =>
      obtain rfl : k = 0 := by simp only [signed, if_pos] at hunits; omega
      obtain rfl : i = 0 := by simp only [signed, if_pos] at hunits; omega
      exact ⟨true, hfits, rfl, fun _ => rfl⟩
  | _ => cases hx

theorem lt_of_units {m n : Int} (hx : x.units? = some m) (hy : y.units? = some n) : x.lt y = decide (m < n) := by
  cases x with
  | finite =>
    cases y with
    | finite =>
      obtain rfl := Option.some.inj hx
      obtain rfl := Option.some.inj hy
      rfl
    | _ => cases hy
  | _ => cases hx

/-- The infinities are the ends of the line. -/
theorem lt_infinite {m : Int} (hx : x.units? = some m) (negative : Bool) :
    x.lt (.infinite negative) = !negative ∧ (infinite negative).lt x = negative := by
  cases x with
  | finite => exact ⟨rfl, rfl⟩
  | _ => cases hx

theorem truncate_of_units {m : Int} (hx : x.units? = some m) : x.truncate = .ok (m.tdiv unitsPerOne) := by
  cases x with
  | finite =>
    obtain rfl := Option.some.inj hx
    rfl
  | _ => cases hx

/-- The gap around a quotient of whole numbers. -/
theorem gap_quotient_le {n den k : Nat} (hden : 0 < den) (hn : n < twoPower k * den) :
    gap (n * unitsPerOne / den) ≤ twoPower (k + 1021) := by
  refine gap_le_of_lt ((Nat.div_lt_iff_lt_mul hden).2 ?_)
  calc n * unitsPerOne < twoPower k * den * unitsPerOne := Nat.mul_lt_mul_of_pos_right hn unitsPerOne_pos
    _ = twoPower (k + 1021 + 53) * den := by
      rw [Nat.add_assoc, twoPower_add k, Nat.mul_right_comm]
      rfl

theorem ceil_of_units {m : Int} (hx : x.units? = some m) : x.ceil = .ok (-((-m) / unitsPerOne)) := by
  cases x with
  | finite a i =>
    obtain rfl : signed a i = m := Option.some.inj hx
    exact congrArg (fun k => Except.ok (-k)) (Int.fdiv_eq_ediv_of_nonneg _ (Int.natCast_nonneg _))
  | _ => cases hx

/-! ## Differences -/

theorem overflowSize_pos : 0 < overflowSize := Nat.sub_pos_of_lt (twoPower_lt (by decide))

/-- Two finite doubles whose exact difference is rounded out of the finite range. -/
def FarApart (x y : Double) : Prop :=
  ∃ m n, x.units? = some m ∧ y.units? = some n ∧ overflowSize * unitsPerOne ≤ (m - n).natAbs

section Difference

variable {m n : Int} (hx : x.units? = some m) (hy : y.units? = some n)

include hx hy

theorem farApart_iff : x.FarApart y ↔ overflowSize * unitsPerOne ≤ (m - n).natAbs := by
  constructor
  · rintro ⟨m', n', hm', hn', hfar⟩
    obtain rfl : m = m' := Option.some.inj (hx.symm.trans hm')
    obtain rfl : n = n' := Option.some.inj (hy.symm.trans hn')
    exact hfar
  · intro hfar
    exact ⟨m, n, hx, hy, hfar⟩

theorem FarApart.ne (hfar : x.FarApart y) : m ≠ n := by
  rintro rfl
  rw [farApart_iff hx hy, Int.sub_self, Int.natAbs_zero] at hfar
  exact absurd hfar (Nat.not_le.2 (Nat.mul_pos overflowSize_pos unitsPerOne_pos))

/-- A difference is exact before it is rounded. -/
theorem sub_of_units : (m = n → (x.sub y).units? = some 0) ∧
    (m ≠ n → x.sub y = round (decide (m < n)) (m - n).natAbs 1) := by
  cases x with
  | finite a i hi =>
    cases y with
    | finite b k hk =>
      obtain rfl : signed a i = m := Option.some.inj hx
      obtain rfl : signed b k = n := Option.some.inj hy
      have hneg : signed (!b) k = -signed b k := by cases b <;> simp [signed]
      have hsub : (finite a i hi).sub (.finite b k hk) = if signed a i - signed b k = 0 then zero (a && !b) else
          round (decide (signed a i - signed b k < 0)) (signed a i - signed b k).natAbs 1 := by
        rw [Int.sub_eq_add_neg, ← hneg]
        rfl
      constructor
      · intro hsame
        rw [hsub, if_pos (sub_eq_zero.2 hsame)]
        cases a && !b <;> rfl
      · intro hother
        have hsign : decide (signed a i - signed b k < 0) = decide (signed a i < signed b k) :=
          decide_eq_decide.2 (by omega)
        rw [hsub, if_neg (sub_ne_zero.2 hother), hsign]
    | _ => cases hy
  | _ => cases hx

theorem sub_of_farApart (hfar : x.FarApart y) : x.sub y = .infinite (decide (m < n)) := by
  have hlarge := (farApart_iff hx hy).1 hfar
  rw [(sub_of_units hx hy).2 (hfar.ne hx hy), round_of_le]
  exact (sizeLimit_le_roundedUnits_iff Nat.one_pos).2 (by rwa [Nat.mul_one])

theorem units?_sub (hnear : ¬ x.FarApart y) :
    (x.sub y).units? = some (signed (decide (m < n)) (roundedUnits (m - n).natAbs 1)) := by
  rcases eq_or_ne m n with rfl | hother
  · rw [(sub_of_units hx hy).1 rfl, Int.sub_self, Int.natAbs_zero, roundedUnits_zero]
    simp [signed]
  · have hfits : roundedUnits (m - n).natAbs 1 < sizeLimit := by
      rw [farApart_iff hx hy] at hnear
      rw [← not_le, sizeLimit_le_roundedUnits_iff Nat.one_pos, Nat.mul_one]
      exact hnear
    rw [(sub_of_units hx hy).2 hother, round_of_lt hfits, units?_finite]

end Difference

/-- Two doubles of a list are far apart exactly if its ends are. -/
theorem farApart_ends {xs : List Double} {l g : Int} (hlo : y ∈ xs) (hhi : x ∈ xs) (hl : y.units? = some l)
    (hg : x.units? = some g) (hbounds : ∀ z ∈ xs, ∃ m, z.units? = some m ∧ l ≤ m ∧ m ≤ g) :
    x.FarApart y ↔ ∃ z ∈ xs, ∃ w ∈ xs, z.FarApart w := by
  refine ⟨fun hwide => ⟨x, hhi, y, hlo, hwide⟩, ?_⟩
  rintro ⟨z, hz, w, hw, hfar⟩
  obtain ⟨m, hm, hm'⟩ := hbounds z hz
  obtain ⟨n, hn, hn'⟩ := hbounds w hw
  rw [farApart_iff hm hn] at hfar
  rw [farApart_iff hg hl]
  omega

/-- The difference to a double that is no larger is its own size. -/
theorem units?_rise {m n : Int} (hx : x.units? = some m) (hy : y.units? = some n) (hle : n ≤ m)
    (hnear : ¬ x.FarApart y) : (x.sub y).units? = some (roundedUnits (m - n).natAbs 1 : Int) := by
  rw [units?_sub hx hy hnear, decide_eq_false (by omega)]
  rfl

/-- Different doubles have a difference. -/
theorem roundedUnits_pos {size : Nat} (hsize : 0 < size) : 0 < roundedUnits size 1 := by
  have hunit : Representable 1 := by decide +kernel
  exact hunit.le_roundedUnits Nat.one_pos (by omega)

/-! ## Shares -/

/-- The share of a range, in units, that a rise from its beginning makes. -/
def shareOf (rise range : Nat) : Nat := roundedUnits (rise * unitsPerOne) range

variable {rise rise' range : Nat}

theorem shareOf_le (hrange : 0 < range) (h : rise ≤ range) : shareOf rise range ≤ unitsPerOne := by
  refine one_representable.roundedUnits_le hrange ?_
  rw [Nat.mul_comm unitsPerOne]
  exact Nat.mul_le_mul_right _ h

theorem shareOf_mono (hrange : 0 < range) (h : rise ≤ rise') : shareOf rise range ≤ shareOf rise' range :=
  roundedUnits_mono hrange (Nat.mul_le_mul_right _ h)

theorem shareOf_zero (range : Nat) : shareOf 0 range = 0 := by rw [shareOf, Nat.zero_mul, roundedUnits_zero]

theorem shareOf_self (hrange : 0 < range) : shareOf range range = unitsPerOne := by
  rw [shareOf, Nat.mul_comm]
  exact one_representable.roundedUnits_mul hrange

theorem share_representable (hrange : 0 < range) (h : rise ≤ range) : Representable (shareOf rise range) :=
  roundedUnits_representable (Nat.lt_of_le_of_lt (shareOf_le hrange h) one_representable.2)

theorem ofQuotient_share (hrange : 0 < range) (h : rise ≤ range) :
    ofQuotient rise range = .ok (.finite false (shareOf rise range) (share_representable hrange h)) :=
  ofQuotient_natCast hrange rfl _

theorem div_positive {a b : Bool} {i k : Nat} (hi : Representable i) (hk : Representable k) (hpos : 0 < k) :
    (finite a i hi).div (.finite b k hk) = .ok (round (a != b) (i * unitsPerOne) k) :=
  if_neg hpos.ne'

theorem div_share (hx : x.units? = some (rise : Int)) (hy : y.units? = some (range : Int)) (hrange : 0 < range)
    (h : rise ≤ range) : ∃ q, x.div y = .ok q ∧ q.units? = some (shareOf rise range : Int) := by
  obtain ⟨a, hi, rfl, ha⟩ := finite_of_units hx
  obtain ⟨b, hk, rfl, hb⟩ := finite_of_units hy
  have hpositive : b = false := by
    cases b with
    | false => rfl
    | true => exact absurd (hb rfl) hrange.ne'
  have hquotient : round (a != b) (rise * unitsPerOne) range =
      .finite (a != b) (shareOf rise range) (share_representable hrange h) := round_of_eq rfl _ _
  refine ⟨round (a != b) (rise * unitsPerOne) range, div_positive hi hk hrange, ?_⟩
  rw [hquotient, units?_finite, hpositive, Bool.bne_false, signed_of_zero]
  intro hnegative
  rw [ha hnegative, shareOf_zero]

/-- Only the quotient of two infinities, or one of nan, is nan. -/
theorem div_finite {k : Int} (hx : x ≠ .nan) (hy : y.units? = some k) (hk : k ≠ 0) :
    ∃ q, x.div y = .ok q ∧ q ≠ .nan := by
  have hround (negative : Bool) (num den : Nat) : round negative num den ≠ .nan := by
    rcases Nat.lt_or_ge (roundedUnits num den) sizeLimit with hfits | hlarge
    · rw [round_of_lt hfits]
      exact nofun
    · rw [round_of_le hlarge]
      exact nofun
  cases y with
  | finite b size hsize =>
    have hpos : 0 < size := by
      refine Nat.pos_of_ne_zero ?_
      rintro rfl
      obtain rfl : signed b 0 = k := Option.some.inj hy
      cases b <;> exact hk rfl
    cases x with
    | nan => exact absurd rfl hx
    | infinite a => exact ⟨.infinite (a != b), if_neg hpos.ne', nofun⟩
    | finite a i hi => exact ⟨_, div_positive hi hsize hpos, hround _ _ _⟩
  | _ => cases hy

/-- A finite double has no share of an infinite range. -/
theorem div_infinite {m : Int} (hx : x.units? = some m) (negative : Bool) :
    ∃ q, x.div (.infinite negative) = .ok q ∧ q.units? = some 0 := by
  cases x with
  | finite a =>
    refine ⟨zero (a != negative), rfl, ?_⟩
    cases a != negative <;> rfl
  | _ => cases hx

/-- The step of a scale that a share, in units, reaches. -/
def stepAt (steps share : Nat) : Nat := roundedUnits (share * steps) 1 / unitsPerOne

variable {steps share share' : Nat}

theorem stepAt_mono (h : share ≤ share') : stepAt steps share ≤ stepAt steps share' :=
  Nat.div_le_div_right (roundedUnits_mono Nat.one_pos (Nat.mul_le_mul_right _ h))

theorem stepAt_zero (steps : Nat) : stepAt steps 0 = 0 := by
  rw [stepAt, Nat.zero_mul, roundedUnits_zero, Nat.zero_div]

theorem stepAt_one (hsteps : steps ≤ twoPower 53) : stepAt steps unitsPerOne = steps := by
  rw [stepAt, Nat.mul_comm, (whole_representable hsteps).roundedUnits]
  exact Nat.mul_div_cancel steps unitsPerOne_pos

theorem stepAt_le (hsteps : steps ≤ twoPower 53) (h : share ≤ unitsPerOne) : stepAt steps share ≤ steps :=
  (stepAt_mono h).trans (stepAt_one hsteps).le

/-- No multiple of a share is a fault. -/
theorem truncate_share (hx : x.units? = some (share : Int)) (h : share ≤ unitsPerOne) (hsteps : steps ≤ twoPower 53) :
    (x.mul (ofInt steps)).truncate = .ok (stepAt steps share : Int) := by
  obtain ⟨a, hi, rfl, ha⟩ := finite_of_units hx
  have hproduct : roundedUnits (share * (steps * unitsPerOne)) unitsPerOne = roundedUnits (share * steps) 1 := by
    have hscale := @roundedUnits_mul_right (share * steps) 1 unitsPerOne unitsPerOne_pos
    rwa [Nat.one_mul, Nat.mul_assoc] at hscale
  have hle : roundedUnits (share * steps) 1 ≤ steps * unitsPerOne := by
    refine (whole_representable hsteps).roundedUnits_le Nat.one_pos ?_
    rw [Nat.mul_one, Nat.mul_comm steps]
    exact Nat.mul_le_mul_right _ h
  have hfits : Representable (roundedUnits (share * steps) 1) :=
    roundedUnits_representable (Nat.lt_of_le_of_lt hle (whole_representable hsteps).2)
  have hmul : (finite a share hi).mul (ofInt steps) = .finite a (roundedUnits (share * steps) 1) hfits := by
    rw [ofInt_natCast hsteps]
    refine Eq.trans ?_ (round_of_eq hproduct hfits a)
    show round (a != false) (share * (steps * unitsPerOne)) unitsPerOne = _
    rw [Bool.bne_false]
  have hunits : signed a (roundedUnits (share * steps) 1) = roundedUnits (share * steps) 1 :=
    signed_of_zero fun hnegative => by rw [ha hnegative, Nat.zero_mul, roundedUnits_zero]
  rw [hmul, truncate_of_units (units?_finite ..), hunits, stepAt, Int.natCast_ediv]
  exact congrArg Except.ok (Int.tdiv_eq_ediv_of_nonneg (Int.natCast_nonneg _))

end DashboardCompiler.Double
