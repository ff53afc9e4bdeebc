import DashboardCompiler.Proofs.Design.References
import DashboardCompiler.Proofs.Generation.Layout
import DashboardCompiler.Proofs.Placement.Lint
import DashboardCompiler.Target.BubbleTea.Program
import Mathlib.Data.List.Perm.Basic

/-!
# The order in which widgets are drawn

The application draws its widgets row by row, and in a row from the left. Widgets in one corner would be drawn in
document order, but boxes with cells that do not overlap have corners of their own. What else the application takes
from the widgets of a design is which sources they name, and that is the same for every order of them.
-/

namespace DashboardCompiler

/-! ## Corners -/

/-- Boxes with cells that are in one corner overlap. -/
theorem Box.overlaps_of_corner_eq {a b : Box} (ha : a.HasCells) (hb : b.HasCells) (h : a.corner = b.corner) :
    a.overlaps b = true := by
  rw [overlaps_eq_true_iff, h]
  unfold HasCells at ha hb
  omega

theorem Widget.readSize_pos {v : Json} {e : Extent} (h : readSize v = .accepted e) : 1 ≤ e.width ∧ 1 ≤ e.height := by
  obtain ⟨fields, h⟩ := Schema.readRecord_accepted h
  simp only [↓Checked.seq_accepted_iff, ↓Checked.exists_map_accepted] at h
  obtain ⟨width, hwidth, height, hheight, rfl⟩ := h
  obtain ⟨v, hv⟩ := Schema.required_accepted hwidth
  obtain ⟨w, hw⟩ := Schema.required_accepted hheight
  exact ⟨(Schema.readInteger_accepted_iff.1 hv).2.1 1 rfl, (Schema.readInteger_accepted_iff.1 hw).2.1 1 rfl⟩

theorem Widget.read_hasCells {v : Json} {w : Widget} (h : Widget.read v = .accepted w) : w.box.HasCells := by
  obtain ⟨fields, h⟩ := Schema.readRecord_accepted h
  simp only [↓Checked.seq_accepted_iff, ↓Checked.exists_seq_accepted, ↓Checked.exists_map_accepted] at h
  obtain ⟨id, -, type, -, position, -, size, hsize, title, -, source, -, style, -, properties, -, rfl⟩ := h
  obtain ⟨v, hv⟩ := Schema.required_accepted hsize
  exact readSize_pos hv

/-- Every widget of a design that was read has cells. -/
theorem Design.read_hasCells {document : Json} {d : Design} (h : Design.read document = .accepted d) :
    ∀ w ∈ d.widgets, w.box.HasCells := by
  obtain ⟨fields, h⟩ := Schema.readRecord_accepted h
  simp only [↓Checked.seq_accepted_iff, ↓Checked.exists_seq_accepted, ↓Checked.exists_map_accepted] at h
  obtain ⟨version, -, metadata, -, settings, -, widgets, hwidgets, sources, -, rfl⟩ := h
  intro w hw
  rcases Schema.defaulted_accepted hwidgets with rfl | ⟨v, hv⟩
  · cases hw
  · obtain ⟨v, hread⟩ := Schema.readList_accepted hv w hw
    exact Widget.read_hasCells hread

/-- Widgets that do not overlap have corners of their own. -/
theorem Design.nodup_corners {d : Design} (hcells : ∀ w ∈ d.widgets, w.box.HasCells)
    (hapart : d.widgets.Pairwise fun v w => v.box.overlaps w.box = false) :
    (d.widgets.map (·.position)).Nodup := by
  refine List.pairwise_map.2 (hapart.imp_of_mem fun {v w} hv hw hfree hcorner => ?_)
  rw [Box.overlaps_of_corner_eq (hcells v hv) (hcells w hw) hcorner] at hfree
  cases hfree

/-! ## Queries -/

/-- The same design with its widgets in another order, or with other widgets. -/
def Design.withWidgets (d : Design) (ws : List Widget) : Design := { d with widgets := ws }

section Queries

variable {d : Design} {ws : List Widget}

theorem Design.isReferenced_perm (h : d.widgets.Perm ws) (id : String) :
    (d.withWidgets ws).isReferenced id = d.isReferenced id := h.symm.any_eq

theorem Design.usesSystemMetrics_perm (h : d.widgets.Perm ws) :
    (d.withWidgets ws).usesSystemMetrics = d.usesSystemMetrics := by
  have hsources : (d.withWidgets ws).referencedSources = d.referencedSources :=
    List.filter_congr fun s _ => isReferenced_perm h s.id
  rw [usesSystemMetrics, hsources, usesSystemMetrics]

end Queries

/-! ## Behaviours -/

namespace Behavior

variable {o : Options} {ws vs : List Widget} {bs : List Behavior}

/-- Widgets in another order have the same behaviours in that order. -/
theorem ofWidgets_perm (hperm : ws.Perm vs) (h : ofWidgets o ws = .accepted bs) :
    ∃ cs, ofWidgets o vs = .accepted cs ∧ bs.Perm cs := by
  obtain ⟨cs, hcs, hbs⟩ := List.perm_comp_forall₂ hperm.symm (forall₂_ofWidgets.1 h)
  exact ⟨cs, forall₂_ofWidgets.2 hcs, hbs.symm⟩

end Behavior

namespace BubbleTea

/-! ## Drawing -/

theorem drawnBefore_iff {a b : Behavior} :
    drawnBefore a b = true ↔ a.widget.position.y < b.widget.position.y ∨
      a.widget.position.y = b.widget.position.y ∧ a.widget.position.x ≤ b.widget.position.x := by
  simp [drawnBefore]

theorem pairwise_drawingOrder (s : Scene) : (drawingOrder s).Pairwise fun a b => drawnBefore a b = true := by
  refine List.pairwise_mergeSort (fun a b c hab hbc => ?_) (fun a b => ?_) _
  · rw [drawnBefore_iff] at hab hbc ⊢
    omega
  · rw [Bool.or_eq_true, drawnBefore_iff, drawnBefore_iff]
    omega

/-- Two behaviours may each be drawn before the other only if they are in one corner. -/
theorem position_eq_of_drawnBefore {a b : Behavior} (hab : drawnBefore a b = true) (hba : drawnBefore b a = true) :
    a.widget.position = b.widget.position := by
  rw [drawnBefore_iff] at hab hba
  have hx : a.widget.position.x = b.widget.position.x := by omega
  have hy : a.widget.position.y = b.widget.position.y := by omega
  rw [show a.widget.position = ⟨a.widget.position.x, a.widget.position.y⟩ from rfl, hx, hy]

variable {s s' : Scene}

/-- Behaviours with corners of their own are drawn in one order. -/
theorem drawingOrder_perm (hperm : s.behaviors.Perm s'.behaviors)
    (hcorners : (s.behaviors.map (·.widget.position)).Nodup) : drawingOrder s' = drawingOrder s := by
  have hdrawn : (drawingOrder s).Perm s.behaviors := List.mergeSort_perm _ _
  have hdrawn' : (drawingOrder s').Perm s'.behaviors := List.mergeSort_perm _ _
  refine ((hdrawn.trans hperm).trans hdrawn'.symm).symm.eq_of_pairwise (fun a b ha hb hab hba => ?_)
    (pairwise_drawingOrder s') (pairwise_drawingOrder s)
  have hmem : a ∈ s.behaviors := hperm.mem_iff.2 (hdrawn'.mem_iff.1 ha)
  exact List.inj_on_of_nodup_map hcorners hmem (hdrawn.mem_iff.1 hb) (position_eq_of_drawnBefore hab hba)

/-- The application is made of the drawing order and what else is no matter of order. -/
theorem app_congr {ws : List Widget} (hdesign : s'.design = s.design.withWidgets ws) (hoptions : s'.options = s.options)
    (hwidgets : s.design.widgets.Perm ws) (horder : drawingOrder s' = drawingOrder s) : app s' = app s := by
  have hmetrics : s'.design.usesSystemMetrics = s.design.usesSystemMetrics := by
    rw [hdesign, Design.usesSystemMetrics_perm hwidgets]
  have hsources : s'.hasDataSources = s.hasDataSources := by
    rw [Scene.hasDataSources, hdesign]
    rfl
  have hmodel : modelLines s' = modelLines s := by
    rw [modelLines, modelLines, hmetrics, hsources, horder, hdesign]
    rfl
  have htimer : timerLines s' = timerLines s := by
    rw [timerLines, timerLines, hsources, hdesign]
    rfl
  have hupdate : updateLines s' = updateLines s := by rw [updateLines, updateLines, hsources]
  rw [app, app, hmodel, htimer, hupdate, hoptions, hdesign]
  rfl

/-- One direction: a scene of the design has its counterpart with the widgets in the other order. -/
theorem app_of_perm {d : Design} {ws : List Widget} {o : Options} (hperm : d.widgets.Perm ws)
    (hcells : ∀ w ∈ d.widgets, w.box.HasCells)
    (hapart : d.widgets.Pairwise fun v w => v.box.overlaps w.box = false) (h : Scene.ofDesign d o = .accepted s) :
    ∃ s', Scene.ofDesign (d.withWidgets ws) o = .accepted s' ∧ app s' = app s := by
  obtain ⟨bs, hbs, rfl⟩ := Checked.map_accepted_iff.1 h
  obtain ⟨cs, hcs, hbehaviors⟩ := Behavior.ofWidgets_perm hperm hbs
  refine ⟨⟨d.withWidgets ws, o, cs⟩, Checked.map_accepted_iff.2 ⟨cs, hcs, rfl⟩, app_congr rfl rfl hperm ?_⟩
  have hcorners := Design.nodup_corners hcells hapart
  rw [← Behavior.widgets_of_accepted hbs, List.map_map] at hcorners
  exact drawingOrder_perm hbehaviors hcorners

end BubbleTea

/-- **Widgets that do not overlap may stand in any order**: the application is the same text, and there is one for the
one order exactly if there is one for the other. Every widget of a document that is read has cells. -/
theorem Target.app_bubbleTea_perm (d : Design) (ws : List Widget) (hperm : d.widgets.Perm ws)
    (hcells : ∀ w ∈ d.widgets, w.box.HasCells) (hapart : d.widgets.Pairwise fun v w => v.box.overlaps w.box = false)
    (o : Options) (text : String) :
    (∃ s, Scene.ofDesign d o = .accepted s ∧ bubbleTea.app s = .ok text) ↔
      ∃ s, Scene.ofDesign (d.withWidgets ws) o = .accepted s ∧ bubbleTea.app s = .ok text := by
  constructor
  · rintro ⟨s, hs, happ⟩
    obtain ⟨s', hs', hsame⟩ := BubbleTea.app_of_perm hperm hcells hapart hs
    exact ⟨s', hs', (congrArg Except.ok hsame).trans happ⟩
  · rintro ⟨s, hs, happ⟩
    have hcells' : ∀ w ∈ ws, w.box.HasCells := fun w hw => hcells w (hperm.mem_iff.2 hw)
    have hapart' : ws.Pairwise fun v w => v.box.overlaps w.box = false :=
      hperm.pairwise hapart fun {v w} hvw => (Box.overlaps_comm w.box v.box).trans hvw
    obtain ⟨s', hs', hsame⟩ := BubbleTea.app_of_perm (d := d.withWidgets ws) hperm.symm hcells' hapart' hs
    exact ⟨s', hs', (congrArg Except.ok hsame).trans happ⟩

/-- Two texts side by side, the right one first in the document. -/
def Design.sideBySide : Design where
  version := "1.0.0"
  metadata := ⟨"pair", none, none, "1.0.0", none, none, .bubbleTea, []⟩
  settings := .default
  widgets :=
    [⟨"right", "text", ⟨10, 0⟩, ⟨10, 3⟩, none, none, none, []⟩, ⟨"left", "text", ⟨0, 0⟩, ⟨10, 3⟩, none, none, none, []⟩]
  dataSources := []

/-- The two texts have an application, and it is the same one when the left text is first. -/
theorem Target.app_bubbleTea_perm_sideBySide :
    ∃ text, (∃ s, Scene.ofDesign .sideBySide .default = .accepted s ∧ bubbleTea.app s = .ok text) ∧
      ∃ s, Scene.ofDesign (Design.sideBySide.withWidgets Design.sideBySide.widgets.reverse) .default = .accepted s ∧
        bubbleTea.app s = .ok text := by
  have hcells : ∀ w ∈ Design.sideBySide.widgets, w.box.HasCells := by
    simp [Design.sideBySide, Widget.box, Box.HasCells]
  have hapart : Design.sideBySide.widgets.Pairwise fun v w => v.box.overlaps w.box = false := by
    simp [Design.sideBySide, Widget.box, Box.overlaps]
  have hsame := app_bubbleTea_perm .sideBySide _ (List.reverse_perm _).symm hcells hapart .default
  exact ⟨_, ⟨_, rfl, rfl⟩, (hsame _).1 ⟨_, rfl, rfl⟩⟩

end DashboardCompiler
