import DashboardCompiler.Generation.Scene
import DashboardCompiler.Proofs.Schema.Readers

/-!
# Designs without their texts

What a design says only to be shown is the name of the dashboard, the titles of its widgets, and the text
properties. Taking it away commutes with reading the properties and with setting up a scene, and it changes
nothing else of a widget's behaviour. Two designs that differ in such texts alone are therefore compared
through the one design that remains of both.
-/

namespace DashboardCompiler

open Schema Checked

/-! ## Fields -/

/-- The properties that hold a text to show, under all their spellings. -/
def textKeys : List String :=
  ["content", "xLabel", "x_label", "yLabel", "y_label", "units", "filter", "label"]

/-- The fields that are no texts, in their order. -/
def Schema.withoutTexts (fields : Fields) : Fields := fields.filter fun field => !textKeys.contains field.1

namespace Schema

variable {α : Type}

theorem lookup_withoutTexts (fields : Fields) (key : String) :
    Json.lookup key (withoutTexts fields) = if textKeys.contains key then none else Json.lookup key fields := by
  induction fields with
  | nil => simp [withoutTexts, Json.lookup]
  | cons field fields ih =>
    simp only [withoutTexts, Json.lookup] at ih ⊢
    by_cases hkey : key = field.1
    · subst hkey
      by_cases htext : textKeys.contains field.1 = true
      · rw [List.filter_cons_of_neg (by simpa using htext), ih, if_pos htext, if_pos htext]
      · rw [List.filter_cons_of_pos (by simpa using htext), if_neg htext, List.lookup_cons, List.lookup_cons]
        simp
    · have hother : (key == field.1) = false := by simpa using hkey
      rw [List.lookup_cons, hother, ← ih]
      by_cases htext : textKeys.contains field.1 = true
      · rw [List.filter_cons_of_neg (by simpa using htext)]
      · rw [List.filter_cons_of_pos (by simpa using htext), List.lookup_cons, hother]

/-- A field that is no text is read as before. -/
theorem defaulted_kept {f : FieldName} (h : f.spellings.all (!textKeys.contains ·) = true) (fields : Fields)
    (default : α) (read : Json → Checked α) :
    defaulted (withoutTexts fields) f default read = defaulted fields f default read := by
  refine defaulted_congr (fun spelling hspelling => ?_) default read
  have hkept := List.all_eq_true.1 h spelling hspelling
  rw [lookup_withoutTexts, if_neg (by simpa using hkept)]

/-- A text is left at its default. -/
theorem defaulted_text {f : FieldName} (h : f.spellings.all (textKeys.contains ·) = true) (fields : Fields)
    (default : α) (read : Json → Checked α) :
    defaulted (withoutTexts fields) f default read = .accepted default := by
  have habsent : ∀ spelling ∈ f.spellings, Json.lookup spelling (withoutTexts fields) = none := by
    intro spelling hspelling
    rw [lookup_withoutTexts, if_pos (List.all_eq_true.1 h spelling hspelling)]
  rw [defaulted, present?_eq_none habsent]

end Schema

/-! ## Properties -/

def TextProperties.withoutTexts (p : TextProperties) : TextProperties := { p with content := "Text content" }

def LineChartProperties.withoutTexts (p : LineChartProperties) : LineChartProperties :=
  { p with xLabel := "Time", yLabel := "Value" }

def GaugeProperties.withoutTexts (p : GaugeProperties) : GaugeProperties := { p with units := "%" }

def LogViewerProperties.withoutTexts (p : LogViewerProperties) : LogViewerProperties := { p with filter := "" }

def MetricCardProperties.withoutTexts (p : MetricCardProperties) : MetricCardProperties :=
  { p with label := "Metric" }

/-- The same properties with every text at its default. -/
def Properties.withoutTexts : Properties → Properties
  | .text p => .text p.withoutTexts
  | .lineChart p => .lineChart p.withoutTexts
  | .gauge p => .gauge p.withoutTexts
  | .logViewer p => .logViewer p.withoutTexts
  | .metricCard p => .metricCard p.withoutTexts
  | p => p

section Readings

variable {fields : Fields}

theorem TextProperties.read_withoutTexts {p : TextProperties} (h : read fields = .accepted p) :
    read (Schema.withoutTexts fields) = .accepted p.withoutTexts := by
  simp only [read, ↓seq_accepted_iff, ↓exists_seq_accepted, ↓exists_map_accepted] at h
  obtain ⟨content, -, align, halign, wrap, hwrap, rfl⟩ := h
  simp (disch := decide) only [read, defaulted_kept, defaulted_text, halign, hwrap]
  rfl

theorem LineChartProperties.read_withoutTexts {p : LineChartProperties} (h : read fields = .accepted p) :
    read (Schema.withoutTexts fields) = .accepted p.withoutTexts := by
  simp only [read, ↓seq_accepted_iff, ↓exists_seq_accepted, ↓exists_map_accepted] at h
  obtain ⟨xLabel, -, yLabel, -, showGrid, hgrid, showLegend, hlegend, maxPoints, hpoints, rfl⟩ := h
  simp (disch := decide) only [read, defaulted_kept, defaulted_text, hgrid, hlegend, hpoints]
  rfl

theorem GaugeProperties.read_withoutTexts {p : GaugeProperties} (h : read fields = .accepted p) :
    read (Schema.withoutTexts fields) = .accepted p.withoutTexts := by
  simp only [read, andThen_accepted_iff, ↓exists_seq_accepted, ↓exists_map_accepted] at h
  obtain ⟨least, hleast, greatest, hgreatest, showValue, hshow, units, -, hrange⟩ := h
  simp (disch := decide) only [read, defaulted_kept, defaulted_text, hleast, hgreatest, hshow]
  unfold checkRange at hrange
  split at hrange
  · cases hrange
  · rename_i hfilled
    cases hrange
    exact if_neg hfilled

theorem LogViewerProperties.read_withoutTexts {p : LogViewerProperties} (h : read fields = .accepted p) :
    read (Schema.withoutTexts fields) = .accepted p.withoutTexts := by
  simp only [read, ↓seq_accepted_iff, ↓exists_seq_accepted, ↓exists_map_accepted] at h
  obtain ⟨maxLines, hlines, autoScroll, hscroll, showTimestamp, htimestamp, filter, -, rfl⟩ := h
  simp (disch := decide) only [read, defaulted_kept, defaulted_text, hlines, hscroll, htimestamp]
  rfl

theorem MetricCardProperties.read_withoutTexts {p : MetricCardProperties} (h : read fields = .accepted p) :
    read (Schema.withoutTexts fields) = .accepted p.withoutTexts := by
  simp only [read, ↓seq_accepted_iff, ↓exists_seq_accepted, ↓exists_map_accepted] at h
  obtain ⟨label, -, format, hformat, trend, htrend, sparkline, hsparkline, rfl⟩ := h
  simp (disch := decide) only [read, defaulted_kept, defaulted_text, hformat, htrend, hsparkline]
  rfl

/-- What is read without the texts is what was read, without the texts. -/
theorem Properties.read_withoutTexts {kind : WidgetKind} {p : Properties}
    (h : Properties.read kind fields = .accepted p) :
    Properties.read kind (Schema.withoutTexts fields) = .accepted p.withoutTexts := by
  cases kind with
  | text =>
    obtain ⟨record, hrecord, rfl⟩ := map_accepted_iff.1 h
    exact map_accepted_iff.2 ⟨_, TextProperties.read_withoutTexts hrecord, rfl⟩
  | lineChart =>
    obtain ⟨record, hrecord, rfl⟩ := map_accepted_iff.1 h
    exact map_accepted_iff.2 ⟨_, LineChartProperties.read_withoutTexts hrecord, rfl⟩
  | barChart =>
    obtain ⟨record, hrecord, rfl⟩ := map_accepted_iff.1 h
    refine map_accepted_iff.2 ⟨record, ?_, rfl⟩
    simp (disch := decide) only [BarChartProperties.read, defaulted_kept] at hrecord ⊢
    exact hrecord
  | table =>
    obtain ⟨record, hrecord, rfl⟩ := map_accepted_iff.1 h
    refine map_accepted_iff.2 ⟨record, ?_, rfl⟩
    simp (disch := decide) only [TableProperties.read, defaulted_kept] at hrecord ⊢
    exact hrecord
  | progressBar =>
    obtain ⟨record, hrecord, rfl⟩ := map_accepted_iff.1 h
    refine map_accepted_iff.2 ⟨record, ?_, rfl⟩
    simp (disch := decide) only [ProgressBarProperties.read, defaulted_kept] at hrecord ⊢
    exact hrecord
  | sparkline =>
    obtain ⟨record, hrecord, rfl⟩ := map_accepted_iff.1 h
    refine map_accepted_iff.2 ⟨record, ?_, rfl⟩
    simp (disch := decide) only [SparklineProperties.read, defaulted_kept] at hrecord ⊢
    exact hrecord
  | gauge =>
    obtain ⟨record, hrecord, rfl⟩ := map_accepted_iff.1 h
    exact map_accepted_iff.2 ⟨_, GaugeProperties.read_withoutTexts hrecord, rfl⟩
  | logViewer =>
    obtain ⟨record, hrecord, rfl⟩ := map_accepted_iff.1 h
    exact map_accepted_iff.2 ⟨_, LogViewerProperties.read_withoutTexts hrecord, rfl⟩
  | metricCard =>
    obtain ⟨record, hrecord, rfl⟩ := map_accepted_iff.1 h
    exact map_accepted_iff.2 ⟨_, MetricCardProperties.read_withoutTexts hrecord, rfl⟩

end Readings

/-! ## Behaviours -/

/-- The same widget, shown under the name of its type. -/
def Widget.withoutTexts (w : Widget) : Widget :=
  { w with title := none, properties := Schema.withoutTexts w.properties }

/-- The same state with every text at its default. -/
def WidgetState.withoutTexts : WidgetState → WidgetState
  | .text p => .text p.withoutTexts
  | .lineChart p labels values => .lineChart p.withoutTexts labels values
  | .gauge p value => .gauge p.withoutTexts value
  | .logViewer p seed => .logViewer p.withoutTexts seed
  | .metricCard p value previous history => .metricCard p.withoutTexts value previous history
  | state => state

def Behavior.withoutTexts (b : Behavior) : Behavior :=
  { b with widget := b.widget.withoutTexts, state := b.state.withoutTexts }

theorem WidgetState.initial_withoutTexts (bound : Bool) (p : Properties) :
    WidgetState.initial bound p.withoutTexts = (WidgetState.initial bound p).withoutTexts := by
  cases p with
  | metricCard p => cases bound <;> rfl
  | _ => rfl

namespace Behavior

theorem ofWidget_withoutTexts {o : Options} {w : Widget} {b : Behavior} (h : ofWidget w o = .accepted b) :
    ofWidget w.withoutTexts o = .accepted b.withoutTexts := by
  have hkind : w.withoutTexts.kind? = w.kind? := rfl
  unfold ofWidget at h ⊢
  rw [hkind]
  split at h
  · cases h
    rfl
  · obtain ⟨p, hp, rfl⟩ := map_accepted_iff.1 h
    refine map_accepted_iff.2 ⟨_, Properties.read_withoutTexts hp, ?_⟩
    rw [WidgetState.initial_withoutTexts]
    rfl

theorem ofWidgets_withoutTexts {o : Options} {ws : List Widget} {bs : List Behavior}
    (h : ofWidgets o ws = .accepted bs) :
    ofWidgets o (ws.map Widget.withoutTexts) = .accepted (bs.map withoutTexts) := by
  induction ws generalizing bs with
  | nil =>
    cases h
    rfl
  | cons w ws ih =>
    obtain ⟨b, hb, h⟩ := andThen_accepted_iff.1 h
    obtain ⟨rest, hrest, rfl⟩ := map_accepted_iff.1 h
    exact andThen_accepted_iff.2
      ⟨_, ofWidget_withoutTexts hb, map_accepted_iff.2 ⟨_, ih hrest, rfl⟩⟩

variable (b : Behavior)

theorem tickMs_withoutTexts : b.withoutTexts.tickMs = b.tickMs := by
  obtain ⟨w, simulate, state⟩ := b
  cases state <;> rfl

theorem colors_withoutTexts (theme : Theme) : b.withoutTexts.colors theme = b.colors theme := by
  obtain ⟨w, simulate, state⟩ := b
  cases state <;> rfl

end Behavior

/-! ## Scenes -/

/-- What remains of a design: a dashboard without a name, and its widgets without their texts. -/
def Design.withoutTexts (d : Design) : Design :=
  { d with metadata := { d.metadata with name := "" }, widgets := d.widgets.map Widget.withoutTexts }

namespace Design

variable (d : Design)

theorem isReferenced_withoutTexts (id : String) : d.withoutTexts.isReferenced id = d.isReferenced id := by
  simp only [isReferenced, withoutTexts, List.any_map]
  rfl

/-- No text decides which sources a program fetches. -/
theorem referencedSources_withoutTexts : d.withoutTexts.referencedSources = d.referencedSources :=
  List.filter_congr fun source _ => d.isReferenced_withoutTexts source.id

theorem usesSystemMetrics_withoutTexts : d.withoutTexts.usesSystemMetrics = d.usesSystemMetrics := by
  rw [usesSystemMetrics, referencedSources_withoutTexts, usesSystemMetrics]

end Design

def Scene.withoutTexts (s : Scene) : Scene :=
  { s with design := s.design.withoutTexts, behaviors := s.behaviors.map Behavior.withoutTexts }

theorem Scene.ofDesign_withoutTexts {d : Design} {o : Options} {s : Scene} (h : ofDesign d o = .accepted s) :
    ofDesign d.withoutTexts o = .accepted s.withoutTexts := by
  obtain ⟨bs, hbs, rfl⟩ := map_accepted_iff.1 h
  exact map_accepted_iff.2 ⟨_, Behavior.ofWidgets_withoutTexts hbs, rfl⟩

end DashboardCompiler
