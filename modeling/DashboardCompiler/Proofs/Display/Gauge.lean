import DashboardCompiler.Proofs.Display.Sparkline

/-!
# Gauges

The share of a range that lies below a value is a quotient of two differences, clamped between zero and one. The clamp
sorts out every quotient that left its range, the infinite ones included, but nan is on no side of anything and passes
it. For finite doubles nan arises in one way only: both differences are rounded to infinities, that is, the range is
wider than the finite doubles are and the value lies as far from its beginning. Everywhere else the share is a number
between zero and one, and both scales of a gauge have a step for it.
-/

namespace DashboardCompiler.Display

/-- A number between zero and one. -/
def IsShare (x : Double) : Prop := ∃ share : Nat, x.units? = some (share : Int) ∧ share ≤ unitsPerOne

/-- The cells of a gauge, the filled ones first. -/
structure IsArc (s : String) : Prop where
  length_eq : s.length = gaugeArcCells
  filled_first : ∃ filled ≤ gaugeArcCells,
    s.toList = List.replicate filled fillGlyph ++ List.replicate (gaugeArcCells - filled) emptyGlyph

/-- A range that is too wide for a double, with a value that is as far from its beginning. -/
def Lost (value low high : Double) : Prop := low.lt high = true ∧ high.FarApart low ∧ value.FarApart low

/-! ## Shares -/

theorem doubleZero_units : doubleZero.units? = some 0 := by
  have hunits := @Double.units?_ofInt 0 (Nat.zero_le _)
  rwa [Int.zero_mul] at hunits

theorem doubleOne_units : doubleOne.units? = some (unitsPerOne : Int) := by
  have hunits := @Double.units?_ofInt 1 (twoPower_pos 53)
  rwa [Int.one_mul] at hunits

theorem isShare_zero : IsShare doubleZero := ⟨0, doubleZero_units, Nat.zero_le _⟩

theorem isShare_one : IsShare doubleOne := ⟨unitsPerOne, doubleOne_units, le_rfl⟩

/-- A double moved to the nearer end of the range from zero to one if it lies outside. -/
def clamped (x : Double) : Double :=
  let raised := if x.lt doubleZero then doubleZero else x
  if doubleOne.lt raised then doubleOne else raised

theorem lt_doubleZero_iff {x : Double} {m : Int} (hx : x.units? = some m) : x.lt doubleZero = decide (m < 0) :=
  Double.lt_of_units hx doubleZero_units

theorem doubleOne_lt_iff {x : Double} {m : Int} (hx : x.units? = some m) :
    doubleOne.lt x = decide ((unitsPerOne : Int) < m) :=
  Double.lt_of_units doubleOne_units hx

theorem clamped_infinite (negative : Bool) :
    clamped (.infinite negative) = if negative then doubleZero else doubleOne := by
  have hstart : doubleOne.lt doubleZero = false := by
    rw [doubleOne_lt_iff doubleZero_units, decide_eq_false (by omega)]
  simp only [clamped, (Double.lt_infinite doubleZero_units negative).2]
  cases negative with
  | true => exact if_neg (by rw [if_pos rfl, hstart]; exact Bool.false_ne_true)
  | false => exact if_pos (Double.lt_infinite doubleOne_units false).1

theorem clamped_nan : clamped .nan = .nan := by
  have hside (x : Double) : x.lt .nan = false := by cases x <;> rfl
  show (if doubleOne.lt .nan then doubleOne else .nan) = Double.nan
  rw [hside]
  rfl

/-- Only nan is left outside. -/
theorem isShare_clamped {x : Double} (hx : x ≠ .nan) : IsShare (clamped x) := by
  cases x with
  | nan => exact absurd rfl hx
  | infinite negative =>
    rw [clamped_infinite]
    split
    · exact isShare_zero
    · exact isShare_one
  | finite negative size hfits =>
    have hunits := Double.units?_finite negative size hfits
    generalize Double.signed negative size = m at hunits
    simp only [clamped, lt_doubleZero_iff hunits, decide_eq_true_eq]
    by_cases hbelow : m < 0
    · rw [if_pos hbelow, doubleOne_lt_iff doubleZero_units, decide_eq_false (by omega)]
      exact isShare_zero
    · rw [if_neg hbelow, doubleOne_lt_iff hunits]
      by_cases habove : (unitsPerOne : Int) < m
      · rw [decide_eq_true habove]
        exact isShare_one
      · rw [decide_eq_false habove]
        exact ⟨m.toNat, by rw [Int.toNat_of_nonneg (by omega)]; exact hunits, by omega⟩

theorem normalize_double (value low high : Double) :
    normalize (.double value) (.double low) (.double high) =
      if (Number.double high).le (.double low) then .ok doubleZero
      else (value.sub low).div (high.sub low) >>= fun share => .ok (clamped share) := rfl

section Normalize

variable {value low high : Double} (hvalue : value.isFinite = true) (hlow : low.isFinite = true)
  (hhigh : high.isFinite = true)

include hvalue hlow hhigh

theorem normalize_lost (h : Lost value low high) :
    normalize (.double value) (.double low) (.double high) = .ok .nan := by
  obtain ⟨horder, hwide, hfar⟩ := h
  obtain ⟨v, hv⟩ := Double.exists_units hvalue
  obtain ⟨l, hl⟩ := Double.exists_units hlow
  obtain ⟨g, hg⟩ := Double.exists_units hhigh
  have hle : (Number.double high).le (.double low) = false := by
    rw [Double.lt_of_units hl hg, decide_eq_true_eq] at horder
    rw [Number.le_at (Number.place?_double hg) (Number.place?_double hl), decide_eq_false (by omega)]
  rw [normalize_double, hle, Double.sub_of_farApart hv hl hfar, Double.sub_of_farApart hg hl hwide]
  exact congrArg Except.ok clamped_nan

theorem normalize_share (h : ¬ Lost value low high) :
    ∃ share, normalize (.double value) (.double low) (.double high) = .ok share ∧ IsShare share := by
  obtain ⟨v, hv⟩ := Double.exists_units hvalue
  obtain ⟨l, hl⟩ := Double.exists_units hlow
  obtain ⟨g, hg⟩ := Double.exists_units hhigh
  rw [normalize_double, Number.le_at (Number.place?_double hg) (Number.place?_double hl)]
  by_cases hempty : g ≤ l
  · rw [decide_eq_true hempty]
    exact ⟨doubleZero, rfl, isShare_zero⟩
  · have horder : low.lt high = true := by
      rw [Double.lt_of_units hl hg]
      exact decide_eq_true (by omega)
    -- The rise of the value may be an infinity as long as the range is not, and the other way round.
    have hquotient : ∃ q, (value.sub low).div (high.sub low) = .ok q ∧ q ≠ .nan := by
      by_cases hwide : high.FarApart low
      · have hnear : ¬ value.FarApart low := fun hfar => h ⟨horder, hwide, hfar⟩
        obtain ⟨q, hq, hnone⟩ := Double.div_infinite (Double.units?_sub hv hl hnear) (decide (g < l))
        rw [Double.sub_of_farApart hg hl hwide]
        exact ⟨q, hq, by rintro rfl; cases hnone⟩
      · have hrange := Double.roundedUnits_pos (show 0 < (g - l).natAbs by omega)
        refine Double.div_finite ?_ (Double.units?_rise hg hl (by omega) hwide) (by omega)
        by_cases hfar : value.FarApart low
        · rw [Double.sub_of_farApart hv hl hfar]
          exact nofun
        · intro hnan
          have hunits := Double.units?_sub hv hl hfar
          rw [hnan] at hunits
          cases hunits
    obtain ⟨q, hq, hnan⟩ := hquotient
    rw [decide_eq_false hempty, hq]
    exact ⟨clamped q, rfl, isShare_clamped hnan⟩

end Normalize

/-! ## The two scales of a gauge -/

theorem isArc_arc {filled : Nat} (h : filled ≤ gaugeArcCells) : IsArc (arc filled) := by
  have hlist : (arc filled).toList =
      List.replicate filled fillGlyph ++ List.replicate (gaugeArcCells - filled) emptyGlyph := by
    rw [arc, String.toList_ofList, Int.toNat_natCast]
    congr 2
    omega
  refine ⟨?_, filled, h, hlist⟩
  rw [← String.length_toList, hlist, List.length_append, List.length_replicate, List.length_replicate]
  omega

theorem gauge_eq (value low high : Number) : gauge value low high =
    (normalize value low high >>= fun ratio => (ratio.mul (Double.ofInt 4)).truncate >>= fun position =>
      glyphAt gaugeGlyphs position >>= fun glyph => (ratio.mul (Double.ofInt gaugeArcCells)).truncate >>= fun filled =>
        .ok (glyph, arc filled)) := rfl

theorem gauge_of_nan {value low high : Number} (h : normalize value low high = .ok .nan) :
    gauge value low high = .error .undefinedInteger := by
  rw [gauge_eq, h]
  rfl

theorem gauge_of_share {value low high : Number} {ratio : Double} (h : normalize value low high = .ok ratio)
    (hratio : IsShare ratio) : ∃ glyph ∈ gaugeGlyphs, ∃ s, gauge value low high = .ok (glyph, s) ∧ IsArc s := by
  obtain ⟨share, hunits, hshare⟩ := hratio
  have hfour : 4 ≤ twoPower 53 := by decide +kernel
  have hcells : gaugeArcCells ≤ twoPower 53 := by decide +kernel
  have hposition := Double.stepAt_le hfour hshare
  have hlength : gaugeGlyphs.length = 5 := rfl
  have hglyph := List.getElem?_eq_getElem (l := gaugeGlyphs) (show Double.stepAt 4 share < gaugeGlyphs.length by omega)
  refine ⟨_, List.mem_of_getElem? hglyph, _, ?_, isArc_arc (Double.stepAt_le hcells hshare)⟩
  rw [gauge_eq]
  refine bind_ok_iff.2 ⟨ratio, h, bind_ok_iff.2 ⟨_, Double.truncate_share hunits hshare hfour, ?_⟩⟩
  refine bind_ok_iff.2 ⟨_, glyphAt_of_getElem? hglyph, ?_⟩
  exact bind_ok_iff.2 ⟨_, Double.truncate_share hunits hshare hcells, rfl⟩

/-! ## Finite data -/

/-- **On finite doubles the displays fail exactly at spans that no double can hold.** -/
theorem displays_exact {value low high : Double} (hvalue : value.isFinite = true) (hlow : low.isFinite = true)
    (hhigh : high.isFinite = true) (style : SparklineStyle) {values : List Double}
    (hvalues : ∀ x ∈ values, x.isFinite = true) :
    (Lost value low high → normalize (.double value) (.double low) (.double high) = .ok .nan ∧
      gauge (.double value) (.double low) (.double high) = .error .undefinedInteger) ∧
    (¬ Lost value low high →
      (∃ share, normalize (.double value) (.double low) (.double high) = .ok share ∧ IsShare share) ∧
      ∃ glyph ∈ gaugeGlyphs, ∃ s, gauge (.double value) (.double low) (.double high) = .ok (glyph, s) ∧ IsArc s) ∧
    ((∃ x ∈ values, ∃ y ∈ values, x.FarApart y) →
      sparkline style (values.map .double) = .error .undefinedInteger) ∧
    (¬ (∃ x ∈ values, ∃ y ∈ values, x.FarApart y) →
      ∃ s, sparkline style (values.map .double) = .ok s ∧ s.length = values.length) := by
  refine ⟨fun hlost => ?_, fun hkept => ?_, (sparkline_failsIff style hvalues).1, fun hnear => ?_⟩
  · have hnan := normalize_lost hvalue hlow hhigh hlost
    exact ⟨hnan, gauge_of_nan hnan⟩
  · obtain ⟨share, hshare, hrange⟩ := normalize_share hvalue hlow hhigh hkept
    exact ⟨⟨share, hshare, hrange⟩, gauge_of_share hshare hrange⟩
  · obtain ⟨s, hs⟩ := (sparkline_failsIff style hvalues).2 hnear
    refine ⟨s, hs, ?_⟩
    rw [length_sparkline hs, List.length_map]

/-- The double `2 ^ 1023` with a sign. -/
def halfway (negative : Bool) : Double := .finite negative (twoPower 2097) (by decide +kernel)

/-- From `-2 ^ 1023` to `2 ^ 1023` there is no finite span, and the greater of the two has neither share nor glyph. -/
theorem displays_exact_wide :
    (normalize (.double (halfway false)) (.double (halfway true)) (.double (halfway false)) = .ok .nan ∧
      gauge (.double (halfway false)) (.double (halfway true)) (.double (halfway false)) = .error .undefinedInteger) ∧
    sparkline .bar [.double (halfway true), .double (halfway false)] = .error .undefinedInteger := by
  have hfar : (halfway false).FarApart (halfway true) := ⟨_, _, rfl, rfl, by decide +kernel⟩
  have hlost : Lost (halfway false) (halfway true) (halfway false) := ⟨by decide +kernel, hfar, hfar⟩
  have hvalues : ∀ x ∈ [halfway true, halfway false], x.isFinite = true := by decide
  have hdisplays := @displays_exact (halfway false) (halfway true) (halfway false) rfl rfl rfl .bar _ hvalues
  exact ⟨hdisplays.1 hlost, hdisplays.2.2.1 ⟨halfway false, by simp, halfway true, by simp, hfar⟩⟩

end DashboardCompiler.Display
