import DashboardCompiler.Display.Format
import DashboardCompiler.Proofs.Double.Shares
import DashboardCompiler.Proofs.Except
import DashboardCompiler.Proofs.Number
import Mathlib.Tactic.IntervalCases
import Mathlib.Tactic.Linarith

/-!
# Readouts on a ladder of units

A whole number is shown on the rung of the ladder whose unit it reaches, as the number of tenths of that unit that is
nearest to it. The sizes of the byte ladder are powers of two, so all its quotients are doubles; the quotients by a
thousand and a million are rounded, but far too little to move a number past the middle between two tenths.

The rung is chosen on the number itself. So just below the next unit, where the nearest number of tenths is all of
that unit, the readout is still on the lower rung: it shows 1024.0 KB or 1000.0K where the next unit would be meant.
-/

namespace DashboardCompiler.Display

open Double (scaled)

/-- A number of tenths with its point. -/
def tenthsText (t : Nat) : String := Notation.digitText (t / 10) ++ "." ++ Notation.digitText (t % 10)

/-- The readout of a whole number on a ladder whose units are the powers of a base: its rung, and the tenths it shows
there. -/
structure OnRung (base last n rung tenths : Nat) : Prop where
  le_last : rung ≤ last
  /-- the number reaches the unit of the rung -/
  reached : rung = 0 ∨ base ^ rung ≤ n
  /-- and not the next one -/
  below : rung < last → n < base ^ (rung + 1)
  /-- the tenths are at most half a tenth away from the number -/
  near : 2 * (tenths * base ^ rung) ≤ 2 * (10 * n) + base ^ rung ∧
    2 * (10 * n) ≤ 2 * (tenths * base ^ rung) + base ^ rung
  /-- the tenths make up the next unit from half a tenth below it on -/
  carried : rung < last → (10 * base ≤ tenths ↔ (20 * base - 1) * base ^ rung ≤ 20 * n)

/-- Off the middle half a tenth below the next unit, the nearest tenths decide whether they make it up. -/
theorem carried_iff {base n t step : Nat} (hbase : 0 < base) (hstep : 0 < step)
    (hnear : 2 * (t * step) ≤ 2 * (10 * n) + step ∧ 2 * (10 * n) ≤ 2 * (t * step) + step)
    (hmiddle : (20 * base - 1) * step = 20 * n → 10 * base ≤ t) :
    10 * base ≤ t ↔ (20 * base - 1) * step ≤ 20 * n := by
  have hscale : (20 * base - 1) * step = 20 * (base * step) - step := by
    rw [Nat.sub_mul, Nat.one_mul, Nat.mul_assoc]
  have hwide : step ≤ base * step := Nat.le_mul_of_pos_left step hbase
  constructor
  · intro hle
    have hproduct : 10 * (base * step) ≤ t * step := by
      rw [← Nat.mul_assoc]
      exact Nat.mul_le_mul_right step hle
    omega
  · intro hle
    rcases hle.eq_or_lt with heq | hlt
    · exact hmiddle heq
    · have hpassed : 10 * base - 1 < t := by
        refine Nat.lt_of_mul_lt_mul_right (a := step) ?_
        rw [Nat.sub_mul, Nat.one_mul, Nat.mul_assoc]
        omega
      omega

theorem tenths_finite {u : Nat} (hfits : Representable u) :
    (Double.finite false u hfits).tenths = tenthsText (scaled u 1) := by
  simp only [Double.tenths, Notation.signText, tenthsText]
  rfl

/-! ## Bytes -/

theorem twoPower_ten_mul (r : Nat) : twoPower (10 * r) = 1024 ^ r := Nat.pow_mul 2 10 r

/-- A size on a rung of the byte ladder: the number over the unit of the rung. -/
theorem tenths_size {n r j : Nat} (hj : 10 * r + j = 1074) (hfits : Representable (n * twoPower j)) :
    (Double.finite false (n * twoPower j) hfits).tenths = tenthsText (nearest (10 * n) (1024 ^ r)) := by
  have hone : unitsPerOne = 1024 ^ r * twoPower j := by
    rw [← twoPower_ten_mul, ← twoPower_add, hj]
    rfl
  have hnum : n * twoPower j * Nat.pow 10 1 = 10 * n * twoPower j := by
    rw [show Nat.pow 10 1 = 10 from rfl]
    ring
  rw [tenths_finite, Double.scaled, hnum, hone, nearest_mul_right (twoPower_pos j)]

theorem kilo_units : twoPower 10 * unitsPerOne = twoPower 1084 := by
  rw [unitsPerOne, ← twoPower_add]

/-- The step of the ladder is a power of two. -/
theorem exists_kilo : ∃ hfits, Double.ofInt 1024 = .finite false (twoPower 1084) hfits := by
  have hkilo := @Double.ofInt_natCast (twoPower 10) (twoPower_le (by decide))
  simp only [kilo_units] at hkilo
  exact ⟨_, hkilo⟩

section Bytes

variable {n r j : Nat}

theorem lt_kilo (hj : 10 * r + j = 1074) (hfits : Representable (n * twoPower j)) :
    (Double.finite false (n * twoPower j) hfits).lt (Double.ofInt 1024) = decide (n < 1024 ^ (r + 1)) := by
  obtain ⟨hkilo, heq⟩ := exists_kilo
  have hnext : twoPower 1084 = 1024 ^ (r + 1) * twoPower j := by
    rw [← twoPower_ten_mul, ← twoPower_add, show 10 * (r + 1) + j = 1084 by omega]
  rw [heq]
  refine (Double.lt_of_units (Double.units?_finite ..) (Double.units?_finite ..)).trans (decide_eq_decide.2 ?_)
  simp only [Double.signed, hnext, Bool.false_eq_true, if_false, Int.ofNat_lt]
  exact Nat.mul_lt_mul_right (twoPower_pos j)

/-- A size below `2 ^ 53` bytes is divided exactly. -/
theorem div_kilo (hn : n ≤ twoPower 53) (hj : j + 10 ≤ 1074) (hfits : Representable (n * twoPower (j + 10))) :
    ∃ hless : Representable (n * twoPower j),
      (Double.finite false (n * twoPower (j + 10)) hfits).div (Double.ofInt 1024) =
        .ok (.finite false (n * twoPower j) hless) := by
  obtain ⟨hkilo, heq⟩ := exists_kilo
  have hless : Representable (n * twoPower j) := small_multiple_representable hn (by omega)
  have hscale : n * twoPower (j + 10) * unitsPerOne = n * twoPower j * twoPower 1084 := by
    rw [twoPower_add, ← kilo_units]
    ring
  refine ⟨hless, ?_⟩
  rw [heq, Double.div_positive hfits hkilo (twoPower_pos 1084), hscale]
  exact congrArg Except.ok (Double.round_of_eq (hless.roundedUnits_mul (twoPower_pos 1084)) hless _)

/-- A size goes up the ladder to the rung whose unit it reaches. -/
theorem onLadder_eq (hn : n ≤ twoPower 53) (last : String) (rungs : List String) {r j : Nat} (hj : 10 * r + j = 1074)
    (hrungs : 10 * rungs.length ≤ j) (hreached : r = 0 ∨ 1024 ^ r ≤ n) (hfits : Representable (n * twoPower j)) :
    ∃ k unit, (rungs ++ [last])[k]? = some unit ∧
      onLadder last rungs (.finite false (n * twoPower j) hfits) =
        .ok (tenthsText (nearest (10 * n) (1024 ^ (r + k))) ++ " " ++ unit) ∧
      (r + k = 0 ∨ 1024 ^ (r + k) ≤ n) ∧ (k < rungs.length → n < 1024 ^ (r + k + 1)) := by
  induction rungs generalizing r j with
  | nil => exact ⟨0, last, rfl, by rw [onLadder, tenths_size hj]; rfl, hreached, nofun⟩
  | cons rung rungs ih =>
    by_cases hbelow : n < 1024 ^ (r + 1)
    · refine ⟨0, rung, rfl, ?_, hreached, fun _ => hbelow⟩
      rw [onLadder, lt_kilo hj, decide_eq_true hbelow, if_pos rfl, tenths_size hj]
      rfl
    · rw [List.length_cons] at hrungs
      obtain ⟨i, rfl⟩ : ∃ i, j = i + 10 := ⟨j - 10, by omega⟩
      obtain ⟨hless, hdiv⟩ := div_kilo hn (by omega) hfits
      obtain ⟨k, unit, hunit, hladder, hreached', hbelow'⟩ :=
        @ih (r + 1) i (by omega) (by omega) (.inr (not_lt.1 hbelow)) hless
      rw [show r + 1 + k = r + (k + 1) by omega] at hladder hreached' hbelow'
      refine ⟨k + 1, unit, hunit, ?_, hreached', fun hk => hbelow' (Nat.lt_of_succ_lt_succ hk)⟩
      rw [onLadder, lt_kilo hj, decide_eq_false hbelow, hdiv]
      exact hladder

theorem toDouble_whole (hn : n ≤ twoPower 53) :
    (Number.int n).toDouble = .ok (.finite false (n * unitsPerOne) (whole_representable hn)) := by
  show Double.inRange (Double.ofInt n) = _
  rw [Double.ofInt_natCast hn]
  rfl

theorem formatBytes_onRung (hn : n ≤ twoPower 53) : ∃ r t unit, byteUnits[r]? = some unit ∧
    formatBytes (.int n) = .ok (tenthsText t ++ " " ++ unit) ∧ OnRung 1024 4 n r t := by
  obtain ⟨r, unit, hunit, hladder, hreached, hbelow⟩ := onLadder_eq hn "TB" ["B", "KB", "MB", "GB"] (Nat.zero_add 1074)
    (by decide) (.inl rfl) (whole_representable hn)
  rw [Nat.zero_add] at hladder hreached hbelow
  have hlast : r < 5 := (List.getElem?_eq_some_iff.1 hunit).1
  have hstep : 0 < 1024 ^ r := Nat.pow_pos (by decide)
  have hnear := @nearest_near (10 * n) (1024 ^ r) hstep
  refine ⟨r, _, unit, hunit, bind_ok_iff.2 ⟨_, toDouble_whole hn, hladder⟩, by omega, hreached, hbelow, hnear, ?_⟩
  intro hbelow
  refine carried_iff (by decide) hstep hnear fun hmiddle => ?_
  -- No power of two lies on a middle between two tenths of itself.
  interval_cases r <;> omega

end Bytes

/-! ## Thousands and millions -/

section Thousands

variable {n den : Nat}

/-- A quotient that is rounded by less than a tenth of the distance between two quotients is shown with the tenths
nearest to the quotient itself. -/
theorem near_of_quotient {k : Nat} (hden : 0 < den) (hwhole : 20 ∣ den) (hn : n < twoPower k * den)
    (hsmall : 10 * twoPower (k + 1021) * den < 20 * unitsPerOne) :
    2 * (scaled (roundedUnits (n * unitsPerOne) den) 1 * den) ≤ 2 * (10 * n) + den ∧
      2 * (10 * n) ≤ 2 * (scaled (roundedUnits (n * unitsPerOne) den) 1 * den) + den := by
  have hgap := Double.gap_quotient_le hden hn
  obtain ⟨e, rfl⟩ := hwhole
  obtain ⟨hquotient, hquotient'⟩ := @roundedUnits_near (n * unitsPerOne) (20 * e) hden
  have hscaled : scaled (roundedUnits (n * unitsPerOne) (20 * e)) 1 =
      nearest (roundedUnits (n * unitsPerOne) (20 * e) * 10) unitsPerOne := rfl
  obtain ⟨habove', hbelow'⟩ :=
    @nearest_near (roundedUnits (n * unitsPerOne) (20 * e) * 10) unitsPerOne unitsPerOne_pos
  rw [← hscaled] at habove' hbelow'
  have hwidth := Nat.mul_le_mul_right (20 * e) hgap
  generalize scaled (roundedUnits (n * unitsPerOne) (20 * e)) 1 = t at *
  generalize roundedUnits (n * unitsPerOne) (20 * e) = u at *
  generalize gap (n * unitsPerOne / (20 * e)) = g at *
  generalize twoPower (k + 1021) = width at *
  generalize unitsPerOne = one at *
  have habove := Nat.mul_le_mul_right e habove'
  have hbelow := Nat.mul_le_mul_right e hbelow'
  have hupper : 2 * (t * e) < n + e + 1 := by
    refine Nat.lt_of_mul_lt_mul_right (a := one) ?_
    linarith
  have hlower : n < 2 * (t * e) + e + 1 := by
    refine Nat.lt_of_mul_lt_mul_right (a := one) ?_
    linarith
  rw [Nat.mul_left_comm t 20 e]
  omega

theorem div_whole (hn : n ≤ twoPower 53) (hden : 0 < den) :
    ∃ x, Number.div (.int n) (.int den) = .ok x ∧
      x.tenths = tenthsText (scaled (roundedUnits (n * unitsPerOne) den) 1) := by
  obtain ⟨hfits, hdiv⟩ := Number.div_natCast hn hden
  exact ⟨_, hdiv, tenths_finite hfits⟩

theorem tenths_whole (hn : n ≤ twoPower 53) : (Number.int n).tenths = .ok (tenthsText (10 * n)) := by
  have hscaled : scaled (n * unitsPerOne) 1 = 10 * n := by
    have hnum : n * unitsPerOne * Nat.pow 10 1 = 10 * n * unitsPerOne := by
      rw [show Nat.pow 10 1 = 10 from rfl]
      ring
    rw [Double.scaled, hnum, nearest_mul_self _ unitsPerOne_pos]
  refine bind_ok_iff.2 ⟨_, toDouble_whole hn, ?_⟩
  rw [tenths_finite, hscaled]
  rfl

/-- The one number in the middle between 999.9 and 1000.0 thousands is rounded up. -/
theorem carries_middle : 10 * 1000 ≤ scaled (roundedUnits (999950 * unitsPerOne) 1000) 1 := by decide +kernel

theorem formatNumber_onRung (hn : n ≤ twoPower 53) : ∃ r t suffix, ["", "K", "M"][r]? = some suffix ∧
    formatNumber (.int n) = .ok (tenthsText t ++ suffix) ∧ OnRung 1000 2 n r t := by
  have hlimit : twoPower 53 = 9007199254740992 := rfl
  simp only [formatNumber, Number.le_int, decide_eq_true_eq]
  by_cases hmillion : 1000000 ≤ n
  · obtain ⟨x, hdiv, hx⟩ := div_whole hn (show 0 < 1000000 by decide)
    have hnear := @near_of_quotient n 1000000 34 (by decide) (by decide)
      (by rw [show twoPower 34 = 17179869184 from rfl]; omega) (by decide +kernel)
    refine ⟨2, _, "M", rfl, ?_, le_rfl, .inr hmillion, nofun, hnear, nofun⟩
    rw [if_pos (by omega), ← hx]
    exact bind_ok_iff.2 ⟨x, hdiv, rfl⟩
  · rw [if_neg (by omega)]
    by_cases hthousand : 1000 ≤ n
    · obtain ⟨x, hdiv, hx⟩ := div_whole hn (show 0 < 1000 by decide)
      have hnear := @near_of_quotient n 1000 10 (by decide) (by decide)
        (by rw [show twoPower 10 = 1024 from rfl]; omega) (by decide +kernel)
      have hcarried := carried_iff (show 0 < 1000 by decide) (by decide) hnear fun hmiddle => by
        obtain rfl : n = 999950 := by omega
        exact carries_middle
      refine ⟨1, _, "K", rfl, ?_, by decide, .inr hthousand, fun _ => by omega, hnear, fun _ => hcarried⟩
      rw [if_pos (by omega), ← hx]
      exact bind_ok_iff.2 ⟨x, hdiv, rfl⟩
    · have htenths := tenths_whole hn
      refine ⟨0, 10 * n, "", rfl, ?_, by decide, .inl rfl, fun _ => by omega, by omega, fun _ => by omega⟩
      rw [if_neg (by omega), htenths, String.append_empty]

end Thousands

/-- **The readouts of whole numbers, and where they make up the next unit.** -/
theorem readouts_exact {n : Nat} (hn : n < 2 ^ 53) :
    (∃ rung tenths unit, byteUnits[rung]? = some unit ∧
      formatBytes (.int n) = .ok (tenthsText tenths ++ " " ++ unit) ∧ OnRung 1024 4 n rung tenths) ∧
    ∃ rung tenths suffix, ["", "K", "M"][rung]? = some suffix ∧
      formatNumber (.int n) = .ok (tenthsText tenths ++ suffix) ∧ OnRung 1000 2 n rung tenths :=
  ⟨formatBytes_onRung hn.le, formatNumber_onRung hn.le⟩

/-- The last number below a mebibyte shows at least 1024 kibibytes, and the last one below a million at least 1000
thousands. -/
theorem readouts_exact_lowerUnit :
    (∃ tenths, formatBytes (.int (1048575 : Nat)) = .ok (tenthsText tenths ++ " " ++ "KB") ∧ 10 * 1024 ≤ tenths) ∧
      ∃ tenths, formatNumber (.int (999999 : Nat)) = .ok (tenthsText tenths ++ "K") ∧ 10 * 1000 ≤ tenths := by
  constructor
  · obtain ⟨r, t, unit, hunit, htext, hrung⟩ := (@readouts_exact 1048575 (by decide)).1
    have hlast := hrung.le_last
    have hreached := hrung.reached
    have hbelow := hrung.below
    obtain rfl : r = 1 := by interval_cases r <;> omega
    obtain rfl : "KB" = unit := Option.some.inj hunit
    exact ⟨t, htext, (hrung.carried (by decide)).2 (by decide)⟩
  · obtain ⟨r, t, suffix, hsuffix, htext, hrung⟩ := (@readouts_exact 999999 (by decide)).2
    have hlast := hrung.le_last
    have hreached := hrung.reached
    have hbelow := hrung.below
    obtain rfl : r = 1 := by interval_cases r <;> omega
    obtain rfl : "K" = suffix := Option.some.inj hsuffix
    exact ⟨t, htext, (hrung.carried (by decide)).2 (by decide)⟩

end DashboardCompiler.Display
