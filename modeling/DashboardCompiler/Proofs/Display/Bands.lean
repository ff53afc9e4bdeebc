import DashboardCompiler.Display.Plot
import DashboardCompiler.Proofs.Double.Shares
import DashboardCompiler.Proofs.Except
import DashboardCompiler.Proofs.Number
import Mathlib.Order.Bounds.Basic
import Mathlib.Tactic.Linarith

/-!
# Bands of a bar chart

The number of bands is the ceiling of a rounded quotient. A quotient of an integer by five is at least a fifth away
from every whole number that it is not, and below `2 ^ 53` it is rounded by an eighth at most, so the ceiling is that
of the exact quotient. The bands are then all multiples of five from the top down, and those that a bar reaches are as
many as its value has fives.
-/

namespace DashboardCompiler.Display

/-! ## Multiples from the top down -/

theorem mem_bandsFrom {n : Nat} {b : Int} : b ∈ bandsFrom n ↔ 0 < b ∧ 5 ∣ b ∧ b ≤ 5 * n := by
  induction n with
  | zero =>
    simp only [bandsFrom, List.not_mem_nil, false_iff]
    omega
  | succ n ih =>
    have hband : (((n + 1) * barBand : Nat) : Int) = 5 * (n + 1) := by
      rw [barBand]
      omega
    rw [bandsFrom, List.mem_cons, ih, hband]
    omega

theorem pairwise_bandsFrom (n : Nat) : (bandsFrom n).Pairwise (· > ·) := by
  induction n with
  | zero => exact List.Pairwise.nil
  | succ n ih =>
    refine List.Pairwise.cons (fun b hb => ?_) ih
    have hle := (mem_bandsFrom.1 hb).2.2
    show b < ((n + 1) * 5 : Nat)
    omega

/-- A bar reaches as many bands as its value has fives, up to the top. -/
theorem countP_bandsFrom (n : Nat) {v : Int} (hv : 0 ≤ v) :
    ((bandsFrom n).countP (· ≤ v) : Int) = min (n : Int) (v / 5) := by
  induction n with
  | zero =>
    show (0 : Int) = min (0 : Int) (v / 5)
    omega
  | succ n ih =>
    have hband : (((n + 1) * barBand : Nat) : Int) = 5 * (n + 1) := by
      rw [barBand]
      omega
    rw [bandsFrom, List.countP_cons, Nat.cast_add, ih, hband]
    by_cases hreached : 5 * ((n : Int) + 1) ≤ v
    · rw [if_pos (decide_eq_true hreached)]
      omega
    · rw [if_neg (by simpa using hreached)]
      omega

/-! ## The top band -/

/-- The rounded quotient of a whole number by five lies in the same place between whole numbers as the exact one. -/
theorem roundedUnits_fifth {a c : Nat} (ha : a ≤ twoPower 53) (hlow : 5 * c < a + 5) (hhigh : a ≤ 5 * c) :
    roundedUnits (a * unitsPerOne) 5 ≤ c * unitsPerOne ∧
      c * unitsPerOne < roundedUnits (a * unitsPerOne) 5 + unitsPerOne := by
  have hlimit : twoPower 53 = 9007199254740992 := rfl
  constructor
  · refine (whole_representable (by omega)).roundedUnits_le (by decide) ?_
    calc a * unitsPerOne ≤ 5 * c * unitsPerOne := Nat.mul_le_mul_right _ hhigh
      _ = c * unitsPerOne * 5 := by ring
  · have hnear := (@roundedUnits_near (a * unitsPerOne) 5 (by decide)).2
    have hgap : gap (a * unitsPerOne / 5) ≤ twoPower 1072 :=
      @Double.gap_quotient_le a 5 51 (by decide) (by rw [show twoPower 51 = 2251799813685248 from rfl]; omega)
    have hquarter : unitsPerOne = 4 * twoPower 1072 := by
      rw [show 4 = twoPower 2 from rfl, ← twoPower_add, unitsPerOne]
    have hproduct : 5 * c * unitsPerOne ≤ (a + 4) * unitsPerOne := Nat.mul_le_mul_right _ (by omega)
    have hpos := twoPower_pos 1072
    generalize roundedUnits (a * unitsPerOne) 5 = u at *
    generalize gap (a * unitsPerOne / 5) = g at *
    rw [hquarter] at hnear hproduct ⊢
    generalize twoPower 1072 = quarter at *
    linarith

theorem ceil_fifth {a c : Nat} (ha : a ≤ twoPower 53) (hlow : 5 * c < a + 5) (hhigh : a ≤ 5 * c) :
    ∃ q, Number.div (.int a) (.int barBand) = .ok q ∧ q.ceil = .ok (c : Int) := by
  obtain ⟨hle, hlt⟩ := roundedUnits_fifth ha hlow hhigh
  obtain ⟨_, hdiv⟩ := Number.div_natCast ha (show 0 < barBand by decide)
  refine ⟨_, hdiv, ?_⟩
  rw [Double.ceil_of_units (Double.units?_finite ..)]
  have hpos : (0 : Int) < unitsPerOne := by exact_mod_cast unitsPerOne_pos
  have hceil : -(roundedUnits (a * unitsPerOne) 5 : Int) / unitsPerOne = -c := by
    refine le_antisymm (Int.le_of_lt_add_one (Int.ediv_lt_of_lt_mul hpos ?_)) (Int.le_ediv_of_mul_le hpos ?_)
    · zify at hlt
      linarith
    · zify at hle
      linarith
  show Except.ok (-(-(roundedUnits (a * unitsPerOne) 5 : Int) / unitsPerOne)) = _
  rw [hceil, Int.neg_neg]

/-- The greatest of a list and zero. -/
theorem exists_top (first : Int) (rest : List Int) : ∃ top : Nat,
    Number.greatest (Number.greatest (.int first) (rest.map .int)) [.int 0] = .int top ∧
      ((top : Int) = 0 ∨ (top : Int) ∈ first :: rest) ∧ ∀ v ∈ first :: rest, v ≤ top := by
  obtain ⟨_, _, g, hg, _, hgreatest, hbounds⟩ := Number.exists_bounds first rest
  obtain ⟨_, _, t, ht, _, htop, hbounds'⟩ := Number.exists_bounds g [0]
  obtain ⟨top, rfl⟩ := Int.eq_ofNat_of_zero_le (hbounds' 0 (by simp)).2
  refine ⟨top, ?_, ?_, fun v hv => (hbounds v hv).2.trans (hbounds' g (by simp)).2⟩
  · rw [hgreatest]
    exact htop
  · rcases List.mem_cons.1 ht with heq | hzero
    · exact .inr (heq ▸ hg)
    · exact .inl (List.mem_singleton.1 hzero)

/-- The thresholds of a chart: the multiples of five from the least one that no value exceeds down to five, so that a
bar reaches one for each five of its value. -/
structure Thresholds (values : List Int) (top : Int) (bands : List Int) : Prop where
  top_least : IsLeast {t : Int | 5 ∣ t ∧ 0 ≤ t ∧ ∀ v ∈ values, v ≤ t} top
  mem_iff : ∀ b, b ∈ bands ↔ 0 < b ∧ 5 ∣ b ∧ b ≤ top
  descending : bands.Pairwise (· > ·)
  height : ∀ v ∈ values, 0 ≤ v → (bands.countP (· ≤ v) : Int) = v / 5

theorem thresholds_bandsFrom {values : List Int} {n : Nat}
    (htop : IsLeast {t : Int | 5 ∣ t ∧ 0 ≤ t ∧ ∀ v ∈ values, v ≤ t} (5 * n)) :
    Thresholds values (5 * n) (bandsFrom n) where
  top_least := htop
  mem_iff b := mem_bandsFrom
  descending := pairwise_bandsFrom n
  height v hv hpositive := by
    have hle := htop.1.2.2 v hv
    rw [countP_bandsFrom n hpositive]
    omega

/-- **The bands of integers are exact.** -/
theorem barBands_exact {values : List Int} (hvalues : ∀ v ∈ values, v.natAbs ≤ 2 ^ 53) :
    ∃ top bands, barBands (values.map .int) = .ok bands ∧ Thresholds values top bands := by
  cases values with
  | nil =>
    refine ⟨5 * (0 : Nat), [], rfl, thresholds_bandsFrom ⟨by simp, fun t ht => ?_⟩⟩
    exact ht.2.1
  | cons first rest =>
    obtain ⟨top, htop, hmem, hbound⟩ := exists_top first rest
    have hsize : top ≤ twoPower 53 := by
      rcases hmem with hzero | hmem
      · omega
      · exact hvalues _ hmem
    obtain ⟨q, hq, hceil⟩ := @ceil_fifth top ((top + 4) / 5) hsize (by omega) (by omega)
    refine ⟨5 * ((top + 4) / 5 : Nat), bandsFrom ((top + 4) / 5), ?_, thresholds_bandsFrom ⟨?_, ?_⟩⟩
    · show (Number.div (Number.greatest (Number.greatest (.int first) (rest.map .int)) [.int 0]) (.int barBand) >>=
        fun x => x.ceil >>= fun bands => Except.ok (bandsFrom bands.toNat)) = _
      rw [htop]
      exact bind_ok_iff.2 ⟨q, hq, bind_ok_iff.2 ⟨_, hceil, rfl⟩⟩
    · refine ⟨Dvd.intro _ rfl, by omega, fun v hv => ?_⟩
      have hle := hbound v hv
      omega
    · rintro t ⟨⟨k, rfl⟩, hpositive, hall⟩
      have hle : (top : Int) ≤ 5 * k := by
        rcases hmem with hzero | hmem
        · omega
        · exact hall _ hmem
      omega

/-- Thirteen needs a third band, and a value below zero needs none. -/
theorem barBands_exact_mixed : ∃ top, barBands [.int 13, .int (-7), .int 0] = .ok [15, 10, 5] ∧
    Thresholds [13, -7, 0] top [15, 10, 5] := by
  obtain ⟨top, bands, hbands, hthresholds⟩ := @barBands_exact [13, -7, 0] (by decide)
  have hrun : barBands [.int 13, .int (-7), .int 0] = .ok [15, 10, 5] := by decide +kernel
  obtain rfl := Except.ok.inj (hbands.symm.trans hrun)
  exact ⟨top, hrun, hthresholds⟩

end DashboardCompiler.Display
