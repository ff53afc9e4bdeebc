import DashboardCompiler.Double.Decimal
import DashboardCompiler.Proofs.Double.Overflow

/-!
# Rounding depends on the value alone

A fraction of units rounds the same way however it is written, a size that is a double rounds to itself, and so does
every fraction between the middles around it, a middle included where the significand is even. Below a power of two
the middle is half as far away as above it; that is the one place where the fraction may lie in the binade below.
-/

namespace DashboardCompiler

theorem nearest_mul_right {num den k : Nat} (hk : 0 < k) : nearest (num * k) (den * k) = nearest num den := by
  have hdiv : num * k / (den * k) = num / den := Nat.mul_div_mul_right num den hk
  have hmod : num * k % (den * k) = num % den * k := Nat.mul_mod_mul_right k num den
  have hless : den * k < 2 * (num % den * k) ↔ den < 2 * (num % den) := by
    rw [← Nat.mul_assoc]
    exact Nat.mul_lt_mul_right hk
  have hsame : 2 * (num % den * k) = den * k ↔ 2 * (num % den) = den := by
    rw [← Nat.mul_assoc]
    exact Nat.mul_left_inj hk.ne'
  simp only [nearest, hdiv, hmod, hless, hsame]

theorem roundedUnits_mul_right {num den k : Nat} (hk : 0 < k) :
    roundedUnits (num * k) (den * k) = roundedUnits num den := by
  simp only [roundedUnits]
  rw [Nat.mul_div_mul_right num den hk, Nat.mul_right_comm, nearest_mul_right hk]

/-- Two fractions of one value round alike. -/
theorem roundedUnits_congr {num den num' den' : Nat} (hden : 0 < den) (hden' : 0 < den')
    (h : num * den' = num' * den) : roundedUnits num den = roundedUnits num' den' := by
  rw [← roundedUnits_mul_right hden', h, Nat.mul_comm den, roundedUnits_mul_right hden]

theorem roundedUnits_zero (den : Nat) : roundedUnits 0 den = 0 := by
  simp [roundedUnits, nearest]

namespace Double

theorem round_congr {num den num' den' : Nat} (hden : 0 < den) (hden' : 0 < den') (h : num * den' = num' * den)
    (negative : Bool) : round negative num den = round negative num' den' := by
  have hunits := roundedUnits_congr hden hden' h
  unfold round
  simp only [hunits]

theorem round_of_eq {u num den : Nat} (h : roundedUnits num den = u) (hu : Representable u) (negative : Bool) :
    round negative num den = .finite negative u hu := by
  subst h
  exact round_of_lt hu.2 negative

end Double

/-- A size that is a double is its significand times the gap. -/
theorem Representable.div_mul {u : Nat} (hu : Representable u) : u / gap u * gap u = u :=
  Nat.div_mul_cancel hu.1

theorem Representable.roundedUnits {u : Nat} (hu : Representable u) : roundedUnits u 1 = u := by
  have hmod : u % gap u = 0 := Nat.mod_eq_zero_of_dvd hu.1
  have hgap := gap_pos u
  simp only [DashboardCompiler.roundedUnits, nearest, Nat.div_one, Nat.one_mul, hmod]
  rw [if_neg (by omega)]
  exact hu.div_mul

/-- Between the middles around a whole number, and on them where it is even, that number is the nearest. -/
theorem nearest_eq {num den k : Nat} (hden : 0 < den)
    (hlow : 2 * k * den ≤ 2 * num + den) (hhigh : 2 * num ≤ 2 * k * den + den)
    (heven : k % 2 = 0 ∨ 2 * k * den < 2 * num + den ∧ 2 * num < 2 * k * den + den) : nearest num den = k := by
  have hmiddle : (2 * k + 1) * den = 2 * k * den + den := by ring
  have hle : ¬ k < nearest num den := by
    rw [lt_nearest_iff hden, hmiddle]
    omega
  rcases Nat.eq_zero_or_pos k with rfl | hpos
  · omega
  · obtain ⟨j, rfl⟩ : ∃ j, k = j + 1 := ⟨k - 1, by omega⟩
    have hbelow : 2 * (j + 1) * den = (2 * j + 1) * den + den := by ring
    have hlt : j < nearest num den := by
      rw [lt_nearest_iff hden]
      omega
    omega

namespace Double

/-- A fraction between the bounds of the reals that round to a size, or on them where the significand is even. -/
structure Within (u num den : Nat) : Prop where
  low : (roundingBounds u).1 * den ≤ 4 * num
  high : 4 * num ≤ (roundingBounds u).2 * den
  ends : u / gap u % 2 = 0 ∨ (roundingBounds u).1 * den < 4 * num ∧ 4 * num < (roundingBounds u).2 * den

/-- The lower half is half as wide where the binade below begins. -/
theorem roundingBounds_cases (u : Nat) :
    (roundingBounds u = (4 * u - gap u, 4 * u + 2 * gap u) ∧ 52 < u.log2 ∧ u = twoPower u.log2) ∨
      (roundingBounds u = (4 * u - 2 * gap u, 4 * u + 2 * gap u) ∧ (52 < u.log2 → u ≠ twoPower u.log2)) := by
  simp only [roundingBounds]
  by_cases hnarrow : 52 < u.log2 ∧ u = twoPower u.log2
  · rw [if_pos hnarrow]
    exact .inl ⟨rfl, hnarrow⟩
  · rw [if_neg hnarrow]
    exact .inr ⟨rfl, fun hlog heq => hnarrow ⟨hlog, heq⟩⟩

/-- Two different multiples of a gap are a gap apart. -/
theorem add_le_of_lt_of_dvd {g m n : Nat} (hm : g ∣ m) (hn : g ∣ n) (h : m < n) : m + g ≤ n := by
  obtain ⟨j, rfl⟩ := hm
  obtain ⟨k, rfl⟩ := hn
  have hjk : j < k := Nat.lt_of_mul_lt_mul_left h
  calc g * j + g = g * (j + 1) := (Nat.mul_succ g j).symm
    _ ≤ g * k := Nat.mul_le_mul_left g hjk

variable {u num den : Nat}

theorem Within.div_le (h : Within u num den) (hden : 0 < den) : 2 * (num / den) ≤ 2 * u + gap u := by
  have hupper : (roundingBounds u).2 = 4 * u + 2 * gap u := rfl
  have hfloor : num / den * den ≤ num := Nat.div_mul_le_self num den
  have hhigh := h.high
  rw [hupper] at hhigh
  have hcross : 4 * (num / den) * den ≤ (4 * u + 2 * gap u) * den := by
    rw [Nat.mul_assoc]
    omega
  have := Nat.le_of_mul_le_mul_right hcross hden
  omega

theorem Within.lt_div (h : Within u num den) (hden : 0 < den) : (roundingBounds u).1 < 4 * (num / den) + 4 := by
  have hceil : num < (num / den + 1) * den := Nat.lt_mul_of_div_lt (Nat.lt_succ_self _) hden
  have hlow := h.low
  refine Nat.lt_of_mul_lt_mul_right (a := den) ?_
  calc (roundingBounds u).1 * den ≤ 4 * num := hlow
    _ < 4 * ((num / den + 1) * den) := by omega
    _ = (4 * (num / den) + 4) * den := by ring

theorem log2_eq_of_between {n k : Nat} (hlow : twoPower k ≤ n) (hhigh : n < twoPower (k + 1)) : n.log2 = k :=
  (Nat.log2_eq_iff (Nat.lt_of_lt_of_le (twoPower_pos k) hlow).ne').2 ⟨hlow, hhigh⟩

/-- Below the first size of a binade only fractions close to that size round to it. -/
theorem Within.gap_below (h : Within u num den) (hu : Representable u) (hpos : 0 < u) (hden : 0 < den)
    (hwide : 52 < u.log2) (hbelow : num / den < twoPower u.log2) :
    roundingBounds u = (4 * u - gap u, 4 * u + 2 * gap u) ∧ gap u = 2 * gap (num / den) ∧ num < u * den := by
  have hlower := h.lt_div hden
  have hsize : twoPower u.log2 ≤ u := Nat.log2_self_le hpos.ne'
  rcases roundingBounds_cases u with ⟨hbounds, -, hfirst⟩ | ⟨hbounds, hfirst⟩
  · have hhalf : twoPower u.log2 = 2 * twoPower (u.log2 - 1) := by
      rw [← twoPower_succ, Nat.sub_add_cancel (by omega)]
    have hstep : twoPower (u.log2 - 52) = 2 * twoPower (u.log2 - 1 - 52) := by
      rw [← twoPower_succ, Nat.sub_right_comm, Nat.sub_add_cancel (by omega)]
    have hnarrow : gap u ≤ twoPower (u.log2 - 1) := twoPower_le (by omega)
    have hfour : twoPower 2 ≤ twoPower (u.log2 - 1) := twoPower_le (by omega)
    have hlog : (num / den).log2 = u.log2 - 1 := by
      refine log2_eq_of_between ?_ (by rwa [Nat.sub_add_cancel (by omega)])
      have htwo : twoPower 2 = 4 := rfl
      rw [hbounds] at hlower
      omega
    refine ⟨hbounds, by rw [gap, gap, hlog, hstep], ?_⟩
    exact (Nat.div_lt_iff_lt_mul hden).1 (Nat.lt_of_lt_of_le hbelow hsize)
  · -- A size above the first of its binade is a gap above it, so half a gap does not lead below it.
    have hdvd : gap u ∣ twoPower u.log2 := gap_dvd_of_log2_le (by omega)
    have hapart : twoPower u.log2 + gap u ≤ u :=
      add_le_of_lt_of_dvd hdvd hu.1 (Nat.lt_of_le_of_ne hsize (Ne.symm (hfirst hwide)))
    have hgap := gap_pos u
    rw [hbounds] at hlower
    omega

/-- Such a fraction has the gap of the size, except below a power of two, where the gap is half as wide. -/
theorem Within.gap_cases (h : Within u num den) (hu : Representable u) (hpos : 0 < u) (hden : 0 < den) :
    gap (num / den) = gap u ∨
      roundingBounds u = (4 * u - gap u, 4 * u + 2 * gap u) ∧ gap u = 2 * gap (num / den) ∧ num < u * den := by
  rcases Nat.lt_or_ge (num / den) (twoPower u.log2) with hbelow | habove
  · rcases Nat.lt_or_ge 52 u.log2 with hwide | hflat
    · exact .inr (h.gap_below hu hpos hden hwide hbelow)
    · have hlog : (num / den).log2 ≤ 52 := (log2_le_of_lt_twoPower hbelow).trans hflat
      exact .inl (by rw [gap, gap, Nat.sub_eq_zero_of_le hflat, Nat.sub_eq_zero_of_le hlog])
  · have hupper := h.div_le hden
    have hlimit : u + gap u ≤ twoPower (u.log2 + 1) :=
      add_le_of_lt_of_dvd hu.1 (gap_dvd_of_log2_le (by omega)) Nat.lt_log2_self
    have hgap := gap_pos u
    exact .inl (by rw [gap, gap, log2_eq_of_between habove (by omega)])

/-- **A fraction within the bounds of a size rounds to it.** -/
theorem Within.roundedUnits (h : Within u num den) (hu : Representable u) (hpos : 0 < u) (hden : 0 < den) :
    roundedUnits num den = u := by
  have hlow := h.low
  have hhigh := h.high
  have hends := h.ends
  have hsignificand := hu.div_mul
  have hupper : (roundingBounds u).2 * den = 4 * (u * den) + 2 * (den * gap u) := by
    rw [show (roundingBounds u).2 = 4 * u + 2 * gap u from rfl]
    ring
  rw [hupper] at hhigh hends
  simp only [DashboardCompiler.roundedUnits]
  rcases h.gap_cases hu hpos hden with hsame | ⟨hbounds, hhalf, hless⟩
  · have hwidth : 4 * u ≤ (roundingBounds u).1 + 2 * gap u := by
      rcases roundingBounds_cases u with ⟨hbounds, -⟩ | ⟨hbounds, -⟩
      · rw [hbounds]
        omega
      · rw [hbounds]
        omega
    have hlower : 4 * (u * den) ≤ (roundingBounds u).1 * den + 2 * (den * gap u) :=
      calc 4 * (u * den) = 4 * u * den := (Nat.mul_assoc ..).symm
        _ ≤ ((roundingBounds u).1 + 2 * gap u) * den := Nat.mul_le_mul_right den hwidth
        _ = (roundingBounds u).1 * den + 2 * (den * gap u) := by ring
    have hscale : 2 * (u / gap u) * (den * gap u) = 2 * (u * den) :=
      calc 2 * (u / gap u) * (den * gap u) = 2 * (u / gap u * gap u * den) := by ring
        _ = 2 * (u * den) := by rw [hsignificand]
    rw [hsame, nearest_eq (k := u / gap u) (Nat.mul_pos hden (gap_pos u)) (by omega) (by omega) (by omega),
      hsignificand]
  · -- Counted in the gaps of the binade below, the size is an even number of them.
    have hlower : 4 * (u * den) ≤ (roundingBounds u).1 * den + 2 * (den * gap (num / den)) := by
      have hwidth : 4 * u ≤ (roundingBounds u).1 + 2 * gap (num / den) := by
        rw [hbounds]
        omega
      calc 4 * (u * den) = 4 * u * den := (Nat.mul_assoc ..).symm
        _ ≤ ((roundingBounds u).1 + 2 * gap (num / den)) * den := Nat.mul_le_mul_right den hwidth
        _ = (roundingBounds u).1 * den + 2 * (den * gap (num / den)) := by ring
    have hcount : 2 * (u / gap u) * gap (num / den) = u :=
      calc 2 * (u / gap u) * gap (num / den) = u / gap u * (2 * gap (num / den)) := by ring
        _ = u := by rw [← hhalf, hsignificand]
    have hscale : 2 * (2 * (u / gap u)) * (den * gap (num / den)) = 2 * (u * den) :=
      calc 2 * (2 * (u / gap u)) * (den * gap (num / den))
          = 2 * (2 * (u / gap u) * gap (num / den) * den) := by ring
        _ = 2 * (u * den) := by rw [hcount]
    rw [nearest_eq (k := 2 * (u / gap u)) (Nat.mul_pos hden (gap_pos _)) (by omega) (by omega)
      (.inl (Nat.mul_mod_right 2 _)), hcount]

end Double

/-!
## Rounding keeps order

A larger fraction never rounds to a smaller size. Inside a binade this is so because the nearest whole number of gaps
keeps order; between two binades lies a power of two, which is a whole number of gaps on both sides and is crossed by
neither. A double is its own rounding, so it bounds the rounding of every fraction that it bounds.
-/

section Order

variable {num num' den den' : Nat}

/-- The middle that a fraction passes is passed by every larger one. -/
theorem nearest_mono (hden : 0 < den) (h : num ≤ num') : nearest num den ≤ nearest num' den := by
  refine le_of_forall_lt fun k hk => ?_
  rw [lt_nearest_iff hden] at hk ⊢
  omega

theorem nearest_mul_self (k : Nat) (hden : 0 < den) : nearest (k * den) den = k := by
  have hdiv : k * den / den = k := Nat.mul_div_cancel k hden
  have hmod : k * den % den = 0 := Nat.mul_mod_left k den
  simp only [nearest, hdiv, hmod]
  rw [if_neg (by omega)]

/-- A whole number of gaps at or above a fraction is not passed by its rounding. -/
theorem roundedUnits_le_of_dvd {p : Nat} (hden : 0 < den) (hp : gap (num / den) ∣ p) (h : num ≤ p * den) :
    roundedUnits num den ≤ p := by
  obtain ⟨k, rfl⟩ := hp
  have hpos : 0 < den * gap (num / den) := Nat.mul_pos hden (gap_pos _)
  have hscale : gap (num / den) * k * den = k * (den * gap (num / den)) := by ring
  rw [hscale] at h
  calc nearest num (den * gap (num / den)) * gap (num / den)
      ≤ nearest (k * (den * gap (num / den))) (den * gap (num / den)) * gap (num / den) :=
        Nat.mul_le_mul_right _ (nearest_mono hpos h)
    _ = gap (num / den) * k := by rw [nearest_mul_self k hpos, Nat.mul_comm]

/-- Nor does the rounding fall below a whole number of gaps at or below the fraction. -/
theorem le_roundedUnits_of_dvd {p : Nat} (hden : 0 < den) (hp : gap (num / den) ∣ p) (h : p * den ≤ num) :
    p ≤ roundedUnits num den := by
  obtain ⟨k, rfl⟩ := hp
  have hpos : 0 < den * gap (num / den) := Nat.mul_pos hden (gap_pos _)
  have hscale : gap (num / den) * k * den = k * (den * gap (num / den)) := by ring
  rw [hscale] at h
  calc gap (num / den) * k
      = nearest (k * (den * gap (num / den))) (den * gap (num / den)) * gap (num / den) := by
        rw [nearest_mul_self k hpos, Nat.mul_comm]
    _ ≤ nearest num (den * gap (num / den)) * gap (num / den) := Nat.mul_le_mul_right _ (nearest_mono hpos h)

theorem log2_le_log2 {m n : Nat} (h : m ≤ n) : m.log2 ≤ n.log2 := by
  rcases Nat.eq_zero_or_pos m with rfl | hpos
  · simp
  · exact (Nat.le_log2 (by omega)).2 ((Nat.log2_self_le hpos.ne').trans h)

theorem roundedUnits_mono (hden : 0 < den) (h : num ≤ num') : roundedUnits num den ≤ roundedUnits num' den := by
  have hfloor : num / den ≤ num' / den := Nat.div_le_div_right h
  rcases (log2_le_log2 hfloor).eq_or_lt with hsame | hless
  · have hgap : gap (num / den) = gap (num' / den) := by rw [gap, gap, hsame]
    simp only [roundedUnits, hgap]
    exact Nat.mul_le_mul_right _ (nearest_mono (Nat.mul_pos hden (gap_pos _)) h)
  · -- The power of two at which the upper binade begins lies between the two fractions.
    have hne : num' / den ≠ 0 := ne_zero_of_lt_log2 hless
    have hbelow : num < twoPower (num' / den).log2 * den :=
      (Nat.div_lt_iff_lt_mul hden).1 (Nat.lt_of_lt_of_le Nat.lt_log2_self (twoPower_le hless))
    have habove : twoPower (num' / den).log2 * den ≤ num' := (Nat.le_div_iff_mul_le hden).1 (Nat.log2_self_le hne)
    exact (roundedUnits_le_of_dvd hden (gap_dvd_of_log2_le (by omega)) hbelow.le).trans
      (le_roundedUnits_of_dvd hden (gap_dvd_of_log2_le (by omega)) habove)

namespace Representable

variable {u : Nat} (hu : Representable u)

include hu

theorem roundedUnits_mul (hden : 0 < den) : DashboardCompiler.roundedUnits (u * den) den = u := by
  have hscale := @roundedUnits_mul_right u 1 den hden
  rwa [Nat.one_mul, hu.roundedUnits] at hscale

theorem roundedUnits_le (hden : 0 < den) (h : num ≤ u * den) : DashboardCompiler.roundedUnits num den ≤ u :=
  (roundedUnits_mono hden h).trans (hu.roundedUnits_mul hden).le

theorem le_roundedUnits (hden : 0 < den) (h : u * den ≤ num) : u ≤ DashboardCompiler.roundedUnits num den :=
  (hu.roundedUnits_mul hden).ge.trans (roundedUnits_mono hden h)

end Representable

/-- Multiples by at most `2 ^ 53` of a power of two up to one are doubles. -/
theorem small_multiple_representable {k j : Nat} (hk : k ≤ twoPower 53) (hj : j ≤ 1074) :
    Representable (k * twoPower j) := by
  refine multiple_representable hk ?_
  calc k * twoPower j ≤ twoPower 53 * twoPower 1074 := Nat.mul_le_mul hk (twoPower_le hj)
    _ = twoPower 1127 := (twoPower_add 53 1074).symm
    _ < sizeLimit := twoPower_lt (by decide)

theorem whole_representable {n : Nat} (hn : n ≤ twoPower 53) : Representable (n * unitsPerOne) :=
  small_multiple_representable hn le_rfl

theorem one_representable : Representable unitsPerOne := by
  have hone := @whole_representable 1 (twoPower_pos 53)
  rwa [Nat.one_mul] at hone

end Order

end DashboardCompiler
