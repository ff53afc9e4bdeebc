import DashboardCompiler.Placement.Grid
import DashboardCompiler.Proofs.Double.Accuracy
import DashboardCompiler.Proofs.Double.Rounding
import DashboardCompiler.Proofs.Except
import Mathlib.Tactic.LinearCombination
import Mathlib.Tactic.Linarith

/-!
# Snapping to the nearest grid point

The quotient of a coordinate by the grid and the sum with one half are each rounded to a double, and for moderate
coordinates both errors together are far below the least distance of such a sum from a whole number. Where the sum is
itself a whole number, the coordinate lies in the middle between two grid points; then quotient and sum are doubles and
nothing is rounded. So the floor is the one of the exact sum, and the snapped coordinate is the nearest grid point, the
upper one of two. That it is reached again from itself, and that order is kept, follows for any nearest grid point.
-/

namespace DashboardCompiler.Grid

/-- The multiple of the grid that is nearest to a coordinate, the upper one of two. -/
structure Nearest (grid n m : Int) : Prop where
  multiple : grid ∣ m
  above : 2 * (m - n) ≤ grid
  below : 2 * (n - m) < grid

section Nearest

variable {grid n n' m m' : Int}

theorem Nearest.mono (h : Nearest grid n m) (h' : Nearest grid n' m') (hn : n ≤ n') : m ≤ m' := by
  obtain ⟨i, rfl⟩ := h.multiple
  obtain ⟨j, rfl⟩ := h'.multiple
  have habove := h.above
  have hbelow := h'.below
  by_contra hlt
  have hgrid : 0 < grid := by omega
  have hji : j + 1 ≤ i := Int.lt_of_mul_lt_mul_left (not_le.1 hlt) hgrid.le
  have hstep : grid * (j + 1) ≤ grid * i := Int.mul_le_mul_of_nonneg_left hji hgrid.le
  rw [Int.mul_add, Int.mul_one] at hstep
  omega

/-- A grid point is its own nearest. -/
theorem Nearest.again (h : Nearest grid n m) : Nearest grid m m := by
  have habove := h.above
  have hbelow := h.below
  exact ⟨h.multiple, by omega, by omega⟩

end Nearest

/-- The number of the nearest grid point. -/
def steps (grid n : Int) : Int := (2 * n + grid) / (2 * grid)

theorem steps_bounds {grid : Int} (hgrid : 0 < grid) (n : Int) :
    steps grid n * (2 * grid) ≤ 2 * n + grid ∧ 2 * n + grid < steps grid n * (2 * grid) + 2 * grid := by
  have hlow := Int.ediv_mul_le (2 * n + grid) (show 2 * grid ≠ 0 by omega)
  have hhigh := Int.lt_ediv_add_one_mul_self (2 * n + grid) (show 0 < 2 * grid by omega)
  rw [Int.add_mul, Int.one_mul] at hhigh
  exact ⟨hlow, hhigh⟩

theorem nearest_steps {grid : Int} (hgrid : 0 < grid) (n : Int) : Nearest grid n (steps grid n * grid) := by
  obtain ⟨hlow, hhigh⟩ := steps_bounds hgrid n
  have hscale : steps grid n * (2 * grid) = 2 * (steps grid n * grid) := by ring
  rw [hscale] at hlow hhigh
  exact ⟨Int.dvd_mul_left _ _, by omega, by omega⟩


/-! ## The rounded sum has the floor of the exact one -/

/-- One, in the gaps of a moderate quotient. -/
theorem unitsPerOne_eq_gaps : unitsPerOne = 1024 * twoPower 1064 := by decide +kernel

theorem half_units : half.units? = some ((twoPower 1073 : Nat) : Int) := by decide +kernel

theorem half_eq_gaps : twoPower 1073 = 512 * twoPower 1064 := by decide +kernel

/-- Moderate multiples of one half are doubles. -/
theorem halves_representable {i : Nat} (hi : i ≤ twoPower 43) : Representable (i * twoPower 1073) :=
  small_multiple_representable (hi.trans (twoPower_le (by decide))) (by decide)

section Sum

variable {grid n m s : Int}

theorem quotient_size (hn : n.natAbs ≤ twoPower 41) : n.natAbs * unitsPerOne / grid.natAbs < twoPower (1064 + 52) := by
  calc n.natAbs * unitsPerOne / grid.natAbs ≤ n.natAbs * unitsPerOne := Nat.div_le_self _ _
    _ ≤ twoPower 41 * unitsPerOne := Nat.mul_le_mul_right _ hn
    _ < twoPower (1064 + 52) := by decide +kernel

theorem sum_size (hgrid : 0 < grid) (hn : n.natAbs ≤ twoPower 41)
    (hm : Double.RoundsTo 1064 (n * unitsPerOne) grid.natAbs m) :
    (m + (twoPower 1073 : Nat)).natAbs < twoPower (1064 + 52) := by
  have habs : (grid.natAbs : Int) = grid := Int.natAbs_of_nonneg hgrid.le
  have habove := hm.above
  have hbelow := hm.below
  rw [unitsPerOne_eq_gaps, habs] at habove hbelow
  have hlimit : 2251799813685249 * twoPower 1064 + twoPower 1073 < twoPower (1064 + 52) := by decide +kernel
  have hbounds : -2251799813685249 * (twoPower 1064 : Int) ≤ m ∧ m ≤ 2251799813685249 * (twoPower 1064 : Int) := by
    have hwidth : (0 : Int) < twoPower 1064 := by exact_mod_cast twoPower_pos 1064
    have h41 : twoPower 41 = 2199023255552 := rfl
    push_cast at habove hbelow
    generalize (twoPower 1064 : Int) = width at *
    have hwide : width ≤ width * grid := le_mul_of_one_le_right hwidth.le hgrid
    have hmin : -2199023255552 * width ≤ n * width := Int.mul_le_mul_of_nonneg_right (by omega) hwidth.le
    have hmax : n * width ≤ 2199023255552 * width := Int.mul_le_mul_of_nonneg_right (by omega) hwidth.le
    constructor
    · refine Int.le_of_mul_le_mul_right (a := grid) ?_ hgrid
      linarith
    · refine Int.le_of_mul_le_mul_right (a := grid) ?_ hgrid
      linarith
  omega

/-- The quotient of a coordinate in the middle of two grid points is exact, and so is the sum. -/
theorem sum_of_middle (hgrid : 0 < grid) (hn : n.natAbs ≤ twoPower 41)
    (hm : Double.RoundsTo 1064 (n * unitsPerOne) grid.natAbs m)
    (hs : Double.RoundsTo 1064 (m + (twoPower 1073 : Nat)) 1 s) {k : Int} (hmiddle : 2 * n + grid = k * (2 * grid)) :
    s = k * unitsPerOne := by
  have habs : (grid.natAbs : Int) = grid := Int.natAbs_of_nonneg hgrid.le
  have hone : unitsPerOne = 2 * twoPower 1073 := twoPower_succ 1073
  have hodd : 2 * n = (2 * k - 1) * grid := by linarith
  have hle : (2 * k - 1).natAbs ≤ 2 * n.natAbs := by
    calc (2 * k - 1).natAbs ≤ (2 * k - 1).natAbs * grid.natAbs := Nat.le_mul_of_pos_right _ (by omega)
      _ = (2 * n).natAbs := by rw [hodd, Int.natAbs_mul]
      _ = 2 * n.natAbs := by rw [Int.natAbs_mul]; rfl
  have h42 : twoPower 41 * 2 + 1 ≤ twoPower 43 := by decide +kernel
  have hm' : m = (2 * k - 1) * twoPower 1073 := by
    refine hm.exact _ ?_ ?_
    · rw [habs, hone]
      push_cast
      generalize (twoPower 1073 : Int) = width
      linear_combination width * hodd
    · rw [Int.natAbs_mul, Int.natAbs_natCast]
      exact halves_representable (by omega)
  refine hs.exact _ ?_ ?_
  · rw [hm', hone]
    push_cast
    ring
  · rw [hone, Int.natAbs_mul, Int.natAbs_natCast, ← Nat.mul_assoc]
    exact halves_representable (by omega)

theorem sum_near (hgrid : 0 < grid) (hm : Double.RoundsTo 1064 (n * unitsPerOne) grid.natAbs m)
    (hs : Double.RoundsTo 1064 (m + (twoPower 1073 : Nat)) 1 s) :
    (1024 * n + 511 * grid) * twoPower 1064 ≤ s * grid ∧ s * grid ≤ (1024 * n + 513 * grid) * twoPower 1064 := by
  have habs : (grid.natAbs : Int) = grid := Int.natAbs_of_nonneg hgrid.le
  have hmabove := hm.above
  have hmbelow := hm.below
  have hsabove := Int.mul_le_mul_of_nonneg_right hs.above hgrid.le
  have hsbelow := Int.mul_le_mul_of_nonneg_right hs.below hgrid.le
  rw [unitsPerOne_eq_gaps, habs] at hmabove hmbelow
  rw [half_eq_gaps] at hsabove hsbelow
  push_cast at hmabove hmbelow hsabove hsbelow
  generalize (twoPower 1064 : Int) = width at *
  constructor <;> linarith

theorem sum_floor (hgrid : 0 < grid) (hsmall : grid ≤ 20) (hn : n.natAbs ≤ twoPower 41)
    (hm : Double.RoundsTo 1064 (n * unitsPerOne) grid.natAbs m)
    (hs : Double.RoundsTo 1064 (m + (twoPower 1073 : Nat)) 1 s) : s / unitsPerOne = steps grid n := by
  obtain ⟨hlow, hhigh⟩ := steps_bounds hgrid n
  obtain hmiddle | hapart := hlow.eq_or_lt
  · rw [sum_of_middle hgrid hn hm hs hmiddle.symm]
    exact Int.mul_ediv_cancel _ (by exact_mod_cast unitsPerOne_pos.ne')
  · obtain ⟨habove, hbelow⟩ := sum_near hgrid hm hs
    have hwidth : (0 : Int) < twoPower 1064 := by exact_mod_cast twoPower_pos 1064
    have hone : (unitsPerOne : Int) = 1024 * twoPower 1064 := by exact_mod_cast unitsPerOne_eq_gaps
    generalize (twoPower 1064 : Int) = width at *
    generalize steps grid n = k at *
    have hleft : k * unitsPerOne * grid ≤ s * grid := by
      calc k * unitsPerOne * grid = 512 * (k * (2 * grid)) * width := by rw [hone]; ring
        _ ≤ (1024 * n + 511 * grid) * width := Int.mul_le_mul_of_nonneg_right (by omega) hwidth.le
        _ ≤ s * grid := habove
    have hright : s * grid < (k + 1) * unitsPerOne * grid := by
      calc s * grid ≤ (1024 * n + 513 * grid) * width := hbelow
        _ < 512 * (k * (2 * grid) + 2 * grid) * width := Int.mul_lt_mul_of_pos_right (by omega) hwidth
        _ = (k + 1) * unitsPerOne * grid := by rw [hone]; ring
    have hpos : (0 : Int) < unitsPerOne := by exact_mod_cast unitsPerOne_pos
    have hle : k ≤ s / unitsPerOne := Int.le_ediv_of_mul_le hpos (Int.le_of_mul_le_mul_right hleft hgrid)
    have hlt : s / unitsPerOne < k + 1 := Int.ediv_lt_of_lt_mul hpos (Int.lt_of_mul_lt_mul_right hright hgrid.le)
    omega

end Sum

/-! ## Snapped coordinates -/

variable {grid n x y : Int}

theorem snapCoordinate_eq (hgrid : 1 ≤ grid) (hsmall : grid ≤ 20) (hn : n.natAbs ≤ twoPower 41) :
    snapCoordinate grid (.int n) = .ok (steps grid n * grid) := by
  obtain ⟨q, m, hquotient, hm, hmround⟩ := Double.ofQuotient_roundsTo n hgrid (quotient_size hn) (by decide)
  obtain ⟨s, hs, hsround⟩ := Double.add_roundsTo hm half_units (sum_size hgrid hn hmround) (by decide)
  have hfloor : roundHalfUp q = .ok (steps grid n) := by
    rw [roundHalfUp, Double.floor_of_units hs, sum_floor hgrid hsmall hn hmround hsround]
  exact bind_ok_iff.2 ⟨q, hquotient, bind_ok_iff.2 ⟨_, hfloor, rfl⟩⟩

theorem snap_eq (hgrid : 1 ≤ grid) (hsmall : grid ≤ 20) (hx : x.natAbs ≤ twoPower 41) (hy : y.natAbs ≤ twoPower 41) :
    snap (.int x) (.int y) grid = .ok (steps grid x * grid, steps grid y * grid) := by
  rw [snap, snapCoordinate_eq hgrid hsmall hx, snapCoordinate_eq hgrid hsmall hy]
  rfl

/-- A snapped coordinate is still moderate. -/
theorem Nearest.natAbs_le {m : Int} (h : Nearest grid n m) (hsmall : grid ≤ 20) (hn : n.natAbs ≤ 2 ^ 40) :
    m.natAbs ≤ twoPower 41 := by
  have habove := h.above
  have hbelow := h.below
  have h41 : twoPower 41 = 2199023255552 := rfl
  omega

/-- **Snapping takes moderate coordinates to their nearest grid points, leaves these where they are and keeps the
order.** -/
theorem snap_nearest (hgrid : 1 ≤ grid) (hsmall : grid ≤ 20) (hx : x.natAbs ≤ 2 ^ 40) (hy : y.natAbs ≤ 2 ^ 40) :
    ∃ p q, snap (.int x) (.int y) grid = .ok (p, q) ∧ Nearest grid x p ∧ Nearest grid y q ∧
      snap (.int p) (.int q) grid = .ok (p, q) ∧
      ∀ x' y' p' q', x'.natAbs ≤ 2 ^ 40 → y'.natAbs ≤ 2 ^ 40 → snap (.int x') (.int y') grid = .ok (p', q') →
        (x ≤ x' → p ≤ p') ∧ (y ≤ y' → q ≤ q') := by
  have hwiden {i : Int} (hi : i.natAbs ≤ 2 ^ 40) : i.natAbs ≤ twoPower 41 := hi.trans (by decide)
  have hpoint := nearest_steps hgrid
  have hagain {i : Int} (hi : i.natAbs ≤ 2 ^ 40) : steps grid (steps grid i * grid) * grid = steps grid i * grid :=
    le_antisymm ((hpoint _).mono (hpoint i).again le_rfl) ((hpoint i).again.mono (hpoint _) le_rfl)
  refine ⟨_, _, snap_eq hgrid hsmall (hwiden hx) (hwiden hy), hpoint x, hpoint y, ?_, ?_⟩
  · rw [snap_eq hgrid hsmall ((hpoint x).natAbs_le hsmall hx) ((hpoint y).natAbs_le hsmall hy), hagain hx, hagain hy]
  · intro x' y' p' q' hx' hy' hsnap
    rw [snap_eq hgrid hsmall (hwiden hx') (hwiden hy')] at hsnap
    obtain ⟨rfl, rfl⟩ := Prod.mk.inj (Except.ok.inj hsnap)
    exact ⟨(hpoint x).mono (hpoint x'), (hpoint y).mono (hpoint y')⟩

/-- Middles go up, on both sides of zero. -/
theorem snap_nearest_middles :
    snap (.int 6) (.int (-6)) 4 = .ok (8, -4) ∧ Nearest 4 6 8 ∧ Nearest 4 (-6) (-4) ∧
      snap (.int 8) (.int (-4)) 4 = .ok (8, -4) := by
  obtain ⟨p, q, hsnap, hp, hq, hagain, -⟩ :=
    @snap_nearest 4 6 (-6) (by decide) (by decide) (by decide) (by decide)
  have hrun : snap (.int 6) (.int (-6)) 4 = .ok (8, -4) := by decide +kernel
  obtain ⟨rfl, rfl⟩ := Prod.mk.inj (Except.ok.inj (hsnap.symm.trans hrun))
  exact ⟨hrun, hp, hq, hagain⟩

end DashboardCompiler.Grid
