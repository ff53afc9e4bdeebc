import DashboardCompiler.Design.Reading
import DashboardCompiler.Proofs.Placement.Session
import Mathlib.Data.List.FinRange
import Mathlib.Order.Fin.Basic

/-!
# Layout warnings are about cells

The lint compares edges, its reader thinks of cells. For boxes that have cells the two say the same: boxes
overlap when they share a cell, and a box fits when the canvas holds all its cells. A box without cells can
still lie across another one, which is why every size has to be at least one here.

`Widget.meetings` are the positions of the widgets that share a cell. It recurses as `Placed.collisions`
does, and its order is the lexicographic one.
-/

namespace DashboardCompiler

/-- The canvas holds a cell. -/
def Extent.Holds (bounds : Extent) (column row : Int) : Prop :=
  0 ≤ column ∧ column < bounds.width ∧ 0 ≤ row ∧ row < bounds.height

namespace Box

variable {a b : Box}

/-- At least one column and at least one row. -/
def HasCells (b : Box) : Prop := 1 ≤ b.extent.width ∧ 1 ≤ b.extent.height

def ShareCell (a b : Box) : Prop := ∃ column row, a.Covers column row ∧ b.Covers column row

theorem ShareCell.symm (h : a.ShareCell b) : b.ShareCell a := by
  obtain ⟨column, row, ha, hb⟩ := h
  exact ⟨column, row, hb, ha⟩

theorem overlaps_eq_true_iff (a b : Box) :
    a.overlaps b = true ↔
      b.corner.x < a.corner.x + a.extent.width ∧ a.corner.x < b.corner.x + b.extent.width ∧
      b.corner.y < a.corner.y + a.extent.height ∧ a.corner.y < b.corner.y + b.extent.height := by
  simp only [overlaps, Bool.not_eq_true', Bool.or_eq_false_iff, decide_eq_false_iff_not, Int.not_le,
    and_assoc]

/-- **Boxes with cells overlap exactly if they share one.** -/
theorem overlaps_iff_shareCell (ha : a.HasCells) (hb : b.HasCells) :
    a.overlaps b = true ↔ a.ShareCell b := by
  rw [overlaps_eq_true_iff]
  unfold HasCells at ha hb
  constructor
  · intro h
    -- The cell furthest to the left and to the top that both can have.
    refine ⟨max a.corner.x b.corner.x, max a.corner.y b.corner.y, ?_, ?_⟩
    · unfold Covers
      omega
    · unfold Covers
      omega
  · rintro ⟨column, row, hca, hcb⟩
    unfold Covers at hca hcb
    omega

/-- **A box with cells fits exactly if the canvas holds them all.** -/
theorem fits_iff_holds (hb : b.HasCells) (bounds : Extent) :
    b.fits bounds = true ↔ ∀ column row, b.Covers column row → bounds.Holds column row := by
  simp only [fits, Bool.and_eq_true, decide_eq_true_eq, Covers, Extent.Holds]
  unfold HasCells at hb
  constructor
  · intro h column row hc
    omega
  · intro h
    have first := h b.corner.x b.corner.y (by omega)
    have last := h (b.corner.x + b.extent.width - 1) (b.corner.y + b.extent.height - 1) (by omega)
    omega

end Box

namespace Widget

/-- The positions of the widgets of a list that share a cell, the earlier one first. -/
def meetings : (ws : List Widget) → List (Fin ws.length × Fin ws.length)
  | [] => []
  | v :: rest =>
    ((List.finRange rest.length).filter fun j => v.box.overlaps (rest.get j).box).map
        (fun j => (0, j.succ)) ++
      (meetings rest).map fun p => (p.1.succ, p.2.succ)

theorem collisions_placed (ws : List Widget) :
    Placed.collisions (ws.map placed) =
      (meetings ws).map fun p => .overlap ws[p.1].id ws[p.2].id := by
  induction ws with
  | nil => rfl
  | cons v rest ih =>
    have hrest : rest.map placed = (List.finRange rest.length).map fun j => rest[j].placed := by
      conv => lhs; rw [← List.map_get_finRange rest]
      exact List.map_map
    have hfirst : ((rest.map placed).filter fun q => v.placed.box.overlaps q.box).map
        (fun q => LayoutWarning.overlap v.placed.id q.id) =
        ((List.finRange rest.length).filter fun j => v.box.overlaps (rest.get j).box).map
          fun j => .overlap v.id rest[j].id := by
      rw [hrest, List.filter_map, List.map_map]
      rfl
    rw [List.map_cons, Placed.collisions, hfirst, ih, meetings, List.map_append, List.map_map,
      List.map_map]
    rfl

theorem mem_meetings (ws : List Widget) (i j : Fin ws.length) :
    (i, j) ∈ meetings ws ↔ i < j ∧ ws[i].box.overlaps ws[j].box = true := by
  induction ws with
  | nil => exact i.elim0
  | cons v rest ih =>
    simp only [meetings, List.mem_append, List.mem_map, List.mem_filter, List.mem_finRange, true_and,
      Prod.mk.injEq, Prod.exists]
    cases i using Fin.cases with
    | zero =>
      cases j using Fin.cases with
      | zero => simp [Fin.succ_ne_zero]
      | succ j => simp [Fin.succ_ne_zero]
    | succ i =>
      cases j using Fin.cases with
      | zero => simp [Fin.succ_ne_zero]
      | succ j => simp [ih, (Fin.succ_ne_zero i).symm]

/-- The positions are in lexicographic order, and none comes twice. -/
theorem pairwise_meetings (ws : List Widget) :
    (meetings ws).Pairwise (Prod.Lex (· < ·) (· < ·)) := by
  induction ws with
  | nil => exact .nil
  | cons v rest ih =>
    rw [meetings, List.pairwise_append, List.pairwise_map, List.pairwise_map]
    refine ⟨?_, ?_, ?_⟩
    · refine ((List.pairwise_lt_finRange _).filter _).imp fun hij => ?_
      exact Prod.Lex.right _ (Fin.succ_lt_succ_iff.2 hij)
    · refine ih.imp fun {p q} hpq => ?_
      rw [Prod.lex_def] at hpq ⊢
      simpa only [Fin.succ_lt_succ_iff, Fin.succ_inj] using hpq
    · -- A meeting of the first widget comes before all those without it.
      intro p hp q hq
      obtain ⟨j, -, rfl⟩ := List.mem_map.1 hp
      obtain ⟨r, -, rfl⟩ := List.mem_map.1 hq
      exact Prod.Lex.left _ _ (Fin.succ_pos _)

end Widget

namespace Design

variable {d : Design}

theorem mem_meetings_iff_shareCell (h : ∀ w ∈ d.widgets, w.box.HasCells)
    (i j : Fin d.widgets.length) :
    (i, j) ∈ Widget.meetings d.widgets ↔ i < j ∧ d.widgets[i].box.ShareCell d.widgets[j].box := by
  have hi := h d.widgets[i] (List.getElem_mem _)
  have hj := h d.widgets[j] (List.getElem_mem _)
  rw [Widget.mem_meetings, Box.overlaps_iff_shareCell hi hj]

theorem collisions_eq_nil_iff_shareCell (h : ∀ w ∈ d.widgets, w.box.HasCells) :
    Placed.collisions (d.widgets.map Widget.placed) = [] ↔
      ∀ i j : Fin d.widgets.length, i ≠ j → ¬ d.widgets[i].box.ShareCell d.widgets[j].box := by
  rw [Widget.collisions_placed, List.map_eq_nil_iff, List.eq_nil_iff_forall_not_mem]
  constructor
  · intro hnone i j hij hshare
    -- The pair is reported with its earlier position first.
    rcases lt_or_gt_of_ne hij with hlt | hlt
    · exact hnone (i, j) ((mem_meetings_iff_shareCell h i j).2 ⟨hlt, hshare⟩)
    · exact hnone (j, i) ((mem_meetings_iff_shareCell h j i).2 ⟨hlt, hshare.symm⟩)
  · rintro hapart ⟨i, j⟩ hmem
    obtain ⟨hlt, hshare⟩ := (mem_meetings_iff_shareCell h i j).1 hmem
    exact hapart i j (ne_of_lt hlt) hshare

theorem allBoundsWarnings_eq_nil_iff_holds (h : ∀ w ∈ d.widgets, w.box.HasCells) :
    Placed.allBoundsWarnings (d.widgets.map Widget.placed) d.settings.dimensions = [] ↔
      ∀ w ∈ d.widgets, ∀ column row, w.box.Covers column row →
        d.settings.dimensions.Holds column row := by
  rw [Placed.allBoundsWarnings_eq_nil_iff, List.forall_mem_map]
  refine forall₂_congr fun w hw => ?_
  exact Box.fits_iff_holds (h w hw) _

/-- **The lint is silent exactly if the widgets have their cells on the canvas and to themselves**, and it
reports each pair of positions that shares a cell once, in the order of the positions. -/
theorem lint_reports_cells (d : Design) (h : ∀ w ∈ d.widgets, w.box.HasCells) :
    (d.lint = [] ↔
      (∀ w ∈ d.widgets, ∀ column row, w.box.Covers column row →
        d.settings.dimensions.Holds column row) ∧
      ∀ i j : Fin d.widgets.length, i ≠ j → ¬ d.widgets[i].box.ShareCell d.widgets[j].box) ∧
    ∃ pairs : List (Fin d.widgets.length × Fin d.widgets.length),
      pairs.Pairwise (Prod.Lex (· < ·) (· < ·)) ∧
      (∀ i j, (i, j) ∈ pairs ↔ i < j ∧ d.widgets[i].box.ShareCell d.widgets[j].box) ∧
      (Placed.collisions (d.widgets.map Widget.placed)).map LayoutWarning.message =
        pairs.map fun p =>
          "Widget " ++ d.widgets[p.1].id ++ " overlaps with " ++ d.widgets[p.2].id := by
  constructor
  · rw [lint, Placed.lint, List.append_eq_nil_iff, allBoundsWarnings_eq_nil_iff_holds h,
      collisions_eq_nil_iff_shareCell h]
  · refine ⟨Widget.meetings d.widgets, Widget.pairwise_meetings _, mem_meetings_iff_shareCell h, ?_⟩
    rw [Widget.collisions_placed, List.map_map]
    rfl

/-- Three squares of ten cells a side; the second starts at a column, the third below the first. -/
def squares (column : Int) : Design where
  version := "1.0.0"
  metadata := ⟨"squares", none, none, "1.0.0", none, none, .textual, []⟩
  settings := .default
  widgets :=
    [⟨"a", "text", ⟨0, 0⟩, ⟨10, 10⟩, none, none, none, []⟩,
     ⟨"b", "text", ⟨column, 0⟩, ⟨10, 10⟩, none, none, none, []⟩,
     ⟨"c", "text", ⟨0, 10⟩, ⟨10, 10⟩, none, none, none, []⟩]
  dataSources := []

/-- Squares that meet at their edges and corners have their cells to themselves; one column closer, the
first two share cells. -/
theorem lint_reports_cells_squares :
    (∀ i j : Fin (squares 10).widgets.length, i ≠ j →
      ¬ (squares 10).widgets[i].box.ShareCell (squares 10).widgets[j].box) ∧
    ¬ ∀ i j : Fin (squares 9).widgets.length, i ≠ j →
      ¬ (squares 9).widgets[i].box.ShareCell (squares 9).widgets[j].box := by
  have hcells (column : Int) : ∀ w ∈ (squares column).widgets, w.box.HasCells := by
    simp [squares, Widget.box, Box.HasCells]
  constructor
  · have hsilent : (squares 10).lint = [] := by rfl
    exact ((lint_reports_cells (squares 10) (hcells 10)).1.1 hsilent).2
  · intro hapart
    have hinside : ∀ w ∈ (squares 9).widgets, ∀ column row, w.box.Covers column row →
        (squares 9).settings.dimensions.Holds column row :=
      (allBoundsWarnings_eq_nil_iff_holds (hcells 9)).1 (by rfl)
    have hsilent := (lint_reports_cells (squares 9) (hcells 9)).1.2 ⟨hinside, hapart⟩
    exact absurd hsilent (by decide)

end Design

end DashboardCompiler
