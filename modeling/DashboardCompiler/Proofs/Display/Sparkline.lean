import DashboardCompiler.Display.Plot
import DashboardCompiler.Proofs.Double.Shares
import DashboardCompiler.Proofs.Except
import DashboardCompiler.Proofs.Number

/-!
# Sparklines

A value is drawn at the step of its ramp that its share of the span reaches. The share is a quotient that is rounded
once and the step is the truncated product of the share with the top of the ramp; both keep order, the least value has
no share and the greatest has all of it. Integers are subtracted exactly, whatever their size, and their quotient
cannot overflow, so every list of integers has its plot.

Differences of doubles are rounded and can overflow. A plot of finite doubles fails exactly where two of its values
are too far apart: then the span is infinite, and so is the rise of the greatest value.
-/

namespace DashboardCompiler.Display

open Double (shareOf stepAt)

/-! ## Ramps -/

theorem length_rampOf (style : SparklineStyle) :
    0 < (rampOf style).length ∧ (rampOf style).length - 1 ≤ twoPower 53 := by
  cases style <;> exact ⟨by decide, by decide +kernel⟩

theorem nodup_rampOf (style : SparklineStyle) : (rampOf style).Nodup := by
  cases style <;> decide

theorem glyphAt_of_getElem? {ramp : List Char} {k : Nat} {c : Char} (h : ramp[k]? = some c) :
    glyphAt ramp k = .ok c := by
  rw [glyphAt, Int.toNat_natCast, h]

/-- The position on the ramp at which a share, in units, is drawn. -/
def level (style : SparklineStyle) (share : Nat) : Nat := stepAt ((rampOf style).length - 1) share

def glyphOf (style : SparklineStyle) (share : Nat) : Char := (rampOf style).getD (level style share) flatLine

variable {style : SparklineStyle} {share share' : Nat}

theorem getElem?_level (h : share ≤ unitsPerOne) : (rampOf style)[level style share]? = some (glyphOf style share) := by
  have hlength := length_rampOf style
  have htop : level style share ≤ (rampOf style).length - 1 := Double.stepAt_le hlength.2 h
  rw [glyphOf, List.getD_eq_getElem?_getD, List.getElem?_eq_getElem (by omega)]
  rfl

theorem glyphOf_mem (h : share ≤ unitsPerOne) : glyphOf style share ∈ rampOf style :=
  List.mem_of_getElem? (getElem?_level h)

theorem idxOf_glyphOf (h : share ≤ unitsPerOne) : (rampOf style).idxOf (glyphOf style share) = level style share := by
  obtain ⟨hlevel, hglyph⟩ := List.getElem?_eq_some_iff.1 (@getElem?_level style _ h)
  rw [← hglyph]
  exact (nodup_rampOf style).idxOf_getElem _ hlevel

theorem glyphOf_zero : (rampOf style).head? = some (glyphOf style 0) := by
  have hfirst := @getElem?_level style 0 (Nat.zero_le _)
  rwa [level, Double.stepAt_zero, ← List.head?_eq_getElem?] at hfirst

theorem glyphOf_one : (rampOf style).getLast? = some (glyphOf style unitsPerOne) := by
  have hlast := @getElem?_level style unitsPerOne le_rfl
  rwa [level, Double.stepAt_one (length_rampOf style).2, ← List.getLast?_eq_getElem?] at hlast

/-- A value whose rise is a share of the span has a glyph. -/
theorem rampGlyph_of_share {least span value d : Number} {x : Double} (hsub : value.sub least = .ok d)
    (hdiv : d.div span = .ok x) (hx : x.units? = some (share : Int)) (h : share ≤ unitsPerOne) :
    rampGlyph (rampOf style) least span value = .ok (glyphOf style share) := by
  have hposition := Double.truncate_share hx h (length_rampOf style).2
  refine bind_ok_iff.2 ⟨d, hsub, bind_ok_iff.2 ⟨x, hdiv, bind_ok_iff.2 ⟨_, hposition, ?_⟩⟩⟩
  exact glyphAt_of_getElem? (getElem?_level h)

/-! ## Spans -/

section Span

variable {first lo hi : Number} {rest : List Number} (hleast : Number.least first rest = lo)
  (hgreatest : Number.greatest first rest = hi)

include hleast hgreatest

theorem sparkline_flat (h : hi.eqValue lo = true) :
    sparkline style (first :: rest) =
      .ok (String.ofList (List.replicate (first :: rest).length (flatGlyph style))) := by
  subst hleast hgreatest
  exact if_pos h

/-- Values that differ are drawn one by one. -/
theorem sparkline_spread {span : Number} (h : hi.eqValue lo = false) (hspan : hi.sub lo = .ok span) :
    sparkline style (first :: rest) = do
      return String.ofList (← (first :: rest).mapM (rampGlyph (rampOf style) lo span)) := by
  subst hleast hgreatest
  simp only [sparkline, h, hspan]
  rfl

end Span

/-- A plot has one glyph for each value. -/
theorem length_sparkline {values : List Number} {s : String} (h : sparkline style values = .ok s) :
    s.length = values.length := by
  cases values with
  | nil =>
    cases h
    rfl
  | cons first rest =>
    rcases hflat : (Number.greatest first rest).eqValue (Number.least first rest) with _ | _
    · simp only [sparkline, hflat] at h
      obtain ⟨span, -, h⟩ := bind_ok_iff.1 h
      obtain ⟨glyphs, hglyphs, h⟩ := bind_ok_iff.1 h
      cases h
      rw [String.length_ofList]
      exact (forall₂_of_mapM_ok hglyphs).length_eq.symm
    · rw [sparkline_flat rfl rfl hflat] at h
      cases h
      rw [String.length_ofList, List.length_replicate]

/-! ## Integers -/

/-- The share of an integer in the span of the integers around it. -/
def shareIn (l g v : Int) : Nat := shareOf (v - l).toNat (g - l).toNat

theorem shareIn_le {l g v : Int} (hspan : l < g) (hv : v ≤ g) : shareIn l g v ≤ unitsPerOne :=
  Double.shareOf_le (by omega) (by omega)

theorem rampGlyph_int {l g v : Int} (hspan : l < g) (hlow : l ≤ v) (hhigh : v ≤ g) :
    rampGlyph (rampOf style) (.int l) (.int (g - l)) (.int v) = .ok (glyphOf style (shareIn l g v)) := by
  have hquotient := @Double.ofQuotient_share (v - l).toNat (g - l).toNat (by omega) (by omega)
  rw [Int.toNat_of_nonneg (by omega), Int.toNat_of_nonneg (by omega)] at hquotient
  exact rampGlyph_of_share (d := .int (v - l)) rfl hquotient rfl (shareIn_le hspan hhigh)

/-- Every value is drawn with a glyph of the ramp, the least with the first, the greatest with the last, and a larger
one never with an earlier one. -/
structure Faithful (ramp : List Char) (values : List Int) (glyph : Int → Char) : Prop where
  drawn : ∀ v ∈ values, glyph v ∈ ramp
  least : ∀ v ∈ values, (∀ w ∈ values, v ≤ w) → ramp.head? = some (glyph v)
  greatest : ∀ v ∈ values, (∀ w ∈ values, w ≤ v) → ramp.getLast? = some (glyph v)
  ordered : ∀ v ∈ values, ∀ w ∈ values, v ≤ w → ramp.idxOf (glyph v) ≤ ramp.idxOf (glyph w)

theorem faithful_glyphOf {values : List Int} {l g : Int} (hspan : l < g) (hl : l ∈ values) (hg : g ∈ values)
    (hbounds : ∀ v ∈ values, l ≤ v ∧ v ≤ g) :
    Faithful (rampOf style) values fun v => glyphOf style (shareIn l g v) where
  drawn v hv := glyphOf_mem (shareIn_le hspan (hbounds v hv).2)
  least v hv hleast := by
    obtain rfl : v = l := le_antisymm (hleast l hl) (hbounds v hv).1
    have hnone : shareIn v g v = 0 := by rw [shareIn, Int.sub_self]; exact Double.shareOf_zero _
    rw [hnone]
    exact glyphOf_zero
  greatest v hv hgreatest := by
    obtain rfl : v = g := le_antisymm (hbounds v hv).2 (hgreatest g hg)
    have hall : shareIn l v v = unitsPerOne := Double.shareOf_self (by omega)
    rw [hall]
    exact glyphOf_one
  ordered v hv w hw hle := by
    rw [idxOf_glyphOf (shareIn_le hspan (hbounds v hv).2), idxOf_glyphOf (shareIn_le hspan (hbounds w hw).2)]
    exact Double.stepAt_mono (Double.shareOf_mono (by omega) (by omega))

/-- **The plot of integers is faithful to them.** -/
theorem sparkline_faithful (style : SparklineStyle) (values : List Int) :
    ∃ glyph : Int → Char, sparkline style (values.map .int) = .ok (String.ofList (values.map glyph)) ∧
      ((∃ v ∈ values, ∃ w ∈ values, v ≠ w) → Faithful (rampOf style) values glyph) := by
  cases values with
  | nil => exact ⟨fun _ => flatLine, rfl, by simp⟩
  | cons first rest =>
    obtain ⟨l, hl, g, hg, hleast, hgreatest, hbounds⟩ := Number.exists_bounds first rest
    rcases (hbounds l hl).2.eq_or_lt with rfl | hspan
    · have hflat : (Number.int l).eqValue (.int l) = true := by
        rw [Number.eqValue_at (Number.place?_int l) (Number.place?_int l)]
        exact decide_eq_true rfl
      refine ⟨fun _ => flatGlyph style, ?_, ?_⟩
      · refine (sparkline_flat hleast hgreatest hflat).trans ?_
        rw [List.length_cons, List.length_map, ← List.length_cons (a := first), ← List.map_const']
      · rintro ⟨v, hv, w, hw, hother⟩
        have hv' := hbounds v hv
        have hw' := hbounds w hw
        omega
    · have hapart : (Number.int g).eqValue (.int l) = false := by
        rw [Number.eqValue_at (Number.place?_int g) (Number.place?_int l)]
        exact decide_eq_false fun hsame => hspan.not_ge (Number.units_le_iff.1 hsame.le)
      have hdraw := mapM_ok fun v hv => @rampGlyph_int style l g v hspan (hbounds v hv).1 (hbounds v hv).2
      have hspread := @sparkline_spread style _ _ _ _ hleast hgreatest (.int (g - l)) hapart rfl
      rw [← List.map_cons, List.mapM_map] at hspread
      refine ⟨fun v => glyphOf style (shareIn l g v), ?_, fun _ => faithful_glyphOf hspan hl hg hbounds⟩
      exact hspread.trans (bind_ok_iff.2 ⟨_, hdraw, rfl⟩)

/-! ## Doubles -/

theorem rampGlyph_double (ramp : List Char) (lo span x : Double) :
    rampGlyph ramp (.double lo) (.double span) (.double x) =
      ((x.sub lo).div span >>= fun share =>
        (share.mul (Double.ofInt (ramp.length - 1 : Nat))).truncate >>= glyphAt ramp) := rfl

section Doubles

variable {x lo hi : Double} {m l g : Int} (hx : x.units? = some m) (hlo : lo.units? = some l) (hhi : hi.units? = some g)
  (hlow : l ≤ m) (hhigh : m ≤ g) (hspan : l < g)

include hx hlo hhi hlow hspan

/-- Over an infinite span the values that are near the least one have no share, and the others no glyph. -/
theorem rampGlyph_wide (hwide : hi.FarApart lo) : FailsIff (x.FarApart lo) .undefinedInteger
    (rampGlyph (rampOf style) (.double lo) (.double (hi.sub lo)) (.double x)) := by
  rw [Double.sub_of_farApart hhi hlo hwide, decide_eq_false (by omega)]
  by_cases hfar : x.FarApart lo
  · rw [rampGlyph_double, Double.sub_of_farApart hx hlo hfar, decide_eq_false (by omega)]
    exact failsIff_error hfar
  · obtain ⟨q, hq, hshare⟩ := Double.div_infinite (Double.units?_rise hx hlo hlow hfar) false
    rw [@rampGlyph_of_share style 0 (.double lo) (.double (.infinite false)) (.double x) _ q rfl hq hshare
      (Nat.zero_le _)]
    exact failsIff_ok hfar _

include hhigh

/-- Over a finite span every value has a share. -/
theorem rampGlyph_narrow (hwide : ¬ hi.FarApart lo) : FailsIff (x.FarApart lo) .undefinedInteger
    (rampGlyph (rampOf style) (.double lo) (.double (hi.sub lo)) (.double x)) := by
  have hnear : ¬ x.FarApart lo := by
    rw [Double.farApart_iff hx hlo]
    rw [Double.farApart_iff hhi hlo] at hwide
    omega
  have hrange := Double.roundedUnits_pos (show 0 < (g - l).natAbs by omega)
  have hle : roundedUnits (m - l).natAbs 1 ≤ roundedUnits (g - l).natAbs 1 := roundedUnits_mono Nat.one_pos (by omega)
  obtain ⟨q, hq, hshare⟩ := Double.div_share (Double.units?_rise hx hlo hlow hnear)
    (Double.units?_rise hhi hlo hspan.le hwide) hrange hle
  rw [@rampGlyph_of_share style _ (.double lo) (.double (hi.sub lo)) (.double x) _ q rfl hq hshare
    (Double.shareOf_le hrange hle)]
  exact failsIff_ok hnear _

theorem rampGlyph_double_failsIff : FailsIff (x.FarApart lo) .undefinedInteger
    (rampGlyph (rampOf style) (.double lo) (.double (hi.sub lo)) (.double x)) := by
  by_cases hwide : hi.FarApart lo
  · exact rampGlyph_wide hx hlo hhi hlow hspan hwide
  · exact rampGlyph_narrow hx hlo hhi hlow hhigh hspan hwide

end Doubles

/-- **Finite doubles have a plot unless two of them are too far apart.** -/
theorem sparkline_failsIff (style : SparklineStyle) {xs : List Double} (hfinite : ∀ x ∈ xs, x.isFinite = true) :
    FailsIff (∃ x ∈ xs, ∃ y ∈ xs, x.FarApart y) .undefinedInteger (sparkline style (xs.map .double)) := by
  cases xs with
  | nil => exact failsIff_ok (by simp) ""
  | cons first rest =>
    obtain ⟨lo, hlo, hi, hhi, hleast, hgreatest, l, g, hl, hg, hbounds⟩ := Number.exists_finite_bounds first rest hfinite
    have hwidest := Double.farApart_ends hlo hhi hl hg hbounds
    have hflat := Number.eqValue_at (Number.place?_double hg) (Number.place?_double hl)
    have hle : l ≤ g := by
      obtain ⟨m, -, hlow, hhigh⟩ := hbounds hi hhi
      exact hlow.trans hhigh
    rcases hle.eq_or_lt with rfl | hspan
    · have hnone : ¬ hi.FarApart lo := fun hwide => hwide.ne hg hl rfl
      rw [List.map_cons, sparkline_flat hleast hgreatest (hflat.trans (decide_eq_true rfl))]
      exact failsIff_ok (mt hwidest.2 hnone) _
    · have hitem : ∀ x ∈ first :: rest, FailsIff (x.FarApart lo) .undefinedInteger
          (rampGlyph (rampOf style) (.double lo) (.double (hi.sub lo)) (.double x)) := by
        intro x hx
        obtain ⟨m, hm, hlow, hhigh⟩ := hbounds x hx
        exact rampGlyph_double_failsIff hm hl hg hlow hhigh hspan
      have hspread := @sparkline_spread style _ _ _ _ hleast hgreatest (.double (hi.sub lo))
        (hflat.trans (decide_eq_false hspan.ne')) rfl
      rw [← List.map_cons, List.mapM_map] at hspread
      rw [hspread]
      refine ((FailsIff.mapM _ hitem).andPure String.ofList).congr ?_
      constructor
      · rintro ⟨x, hx, hfar⟩
        exact ⟨x, hx, lo, hlo, hfar⟩
      · intro hpair
        exact ⟨hi, hhi, hwidest.2 hpair⟩

end DashboardCompiler.Display
