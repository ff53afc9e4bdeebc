import DashboardCompiler.Proofs.Target.Blessed.Code
import DashboardCompiler.Proofs.Target.BubbleTea.Code
import DashboardCompiler.Proofs.Target.Ratatui.Code
import DashboardCompiler.Proofs.Target.Textual.Code
import DashboardCompiler.Target.All

/-!
# Lines of generated widgets

The text of a widget is put together from lines that nothing of the design can break, so it has one line feed
less than lines. How many lines there are depends on the kind of the widget, on the settings of its kind and
on whether it is bound; its names and the texts that it shows stay inside of the lines they stand in.
-/

namespace DashboardCompiler

open Schema Checked Text

/-! ## Widgets that differ in names and texts -/

/-- Two widgets that are the same but for their ids, their titles, the names of the sources they are bound to,
and the properties that hold a text to show. -/
structure Widget.Relabelled (v w : Widget) : Prop where
  type : v.type = w.type
  box : v.box = w.box
  style : v.style = w.style
  bound : v.isBound = w.isBound
  properties : ∀ key, key ∉ textKeys → Json.lookup key v.properties = Json.lookup key w.properties

/-- What the two have in common once they are read. -/
structure Behavior.Relabelled (a b : Behavior) : Prop where
  type : a.widget.type = b.widget.type
  bound : a.isBound = b.isBound
  simulate : a.simulate = b.simulate
  state : a.state.withoutTexts = b.state.withoutTexts

section Reading

variable {fields others : Fields}

/-- Properties are read by their keys, in whatever order they stand. -/
theorem Properties.read_congr (h : ∀ key, Json.lookup key fields = Json.lookup key others) (kind : WidgetKind) :
    Properties.read kind fields = Properties.read kind others := by
  have hread {α : Type} (f : FieldName) (default : α) (read : Json → Checked α) :
      defaulted fields f default read = defaulted others f default read :=
    defaulted_congr (fun key _ => h key) default read
  cases kind with
  | text => simp only [Properties.read, TextProperties.read, hread]
  | lineChart => simp only [Properties.read, LineChartProperties.read, hread]
  | barChart => simp only [Properties.read, BarChartProperties.read, hread]
  | table => simp only [Properties.read, TableProperties.read, hread]
  | progressBar => simp only [Properties.read, ProgressBarProperties.read, hread]
  | sparkline => simp only [Properties.read, SparklineProperties.read, hread]
  | gauge => simp only [Properties.read, GaugeProperties.read, hread]
  | logViewer => simp only [Properties.read, LogViewerProperties.read, hread]
  | metricCard => simp only [Properties.read, MetricCardProperties.read, hread]

/-- Fields that agree on every key that is no text are read alike, up to their texts. -/
theorem Properties.withoutTexts_eq (h : ∀ key, key ∉ textKeys → Json.lookup key fields = Json.lookup key others)
    {kind : WidgetKind} {p q : Properties} (hp : Properties.read kind fields = .accepted p)
    (hq : Properties.read kind others = .accepted q) : p.withoutTexts = q.withoutTexts := by
  have hkept : ∀ key, Json.lookup key (Schema.withoutTexts fields) = Json.lookup key (Schema.withoutTexts others) := by
    intro key
    rw [lookup_withoutTexts, lookup_withoutTexts]
    split
    · rfl
    · rename_i hkey
      exact h key (by simpa using hkey)
  have hread := Properties.read_withoutTexts hp
  rw [Properties.read_congr hkept, Properties.read_withoutTexts hq] at hread
  exact (Checked.accepted.inj hread).symm

end Reading

theorem Behavior.relabelled_of_accepted {v w : Widget} (h : v.Relabelled w) {o : Options} {a b : Behavior}
    (ha : ofWidget v o = .accepted a) (hb : ofWidget w o = .accepted b) : a.Relabelled b := by
  have hkind : v.kind? = w.kind? := by rw [Widget.kind?, Widget.kind?, h.type]
  unfold ofWidget at ha hb
  rw [← hkind] at hb
  cases hfound : v.kind? with
  | none =>
    rw [hfound] at ha hb
    cases ha
    cases hb
    exact ⟨h.type, h.bound, rfl, rfl⟩
  | some kind =>
    rw [hfound] at ha hb
    obtain ⟨p, hp, rfl⟩ := map_accepted_iff.1 ha
    obtain ⟨q, hq, rfl⟩ := map_accepted_iff.1 hb
    refine ⟨h.type, h.bound, congrArg (o.useMockData && !·) h.bound, ?_⟩
    dsimp only
    rw [← WidgetState.initial_withoutTexts, ← WidgetState.initial_withoutTexts, h.bound,
      Properties.withoutTexts_eq h.properties hp hq]

namespace Behavior.Relabelled

variable {a b : Behavior}

theorem state_withoutTexts (h : a.Relabelled b) : a.withoutTexts.state = b.withoutTexts.state := h.state

theorem type_withoutTexts (h : a.Relabelled b) : a.withoutTexts.widget.type = b.withoutTexts.widget.type := h.type

theorem tickMs_eq (h : a.Relabelled b) : a.tickMs = b.tickMs := by
  have hbound : a.withoutTexts.isBound = b.withoutTexts.isBound := h.bound
  have hsimulate : a.withoutTexts.simulate = b.withoutTexts.simulate := h.simulate
  rw [← a.tickMs_withoutTexts, ← b.tickMs_withoutTexts, tickMs, tickMs, h.state_withoutTexts, hbound, hsimulate]

end Behavior.Relabelled

/-! ## Textual -/

namespace Textual

/-- Parts of a class that bring the same number of attributes and are otherwise the same. -/
structure ClassParts.SameShape (parts other : ClassParts) : Prop where
  same : other = { parts with state := other.state }
  state : other.state.length = parts.state.length

theorem sameShape_partsOf (b : Behavior) : (partsOf b).SameShape (partsOf b.withoutTexts) := by
  obtain ⟨w, simulate, state⟩ := b
  refine ⟨?_, ?_⟩
  · cases state <;> rfl
  · cases state <;>
      simp only [Behavior.withoutTexts, WidgetState.withoutTexts, partsOf, textParts, lineChartParts, gaugeParts,
        logViewerParts, metricCardParts, placeholderParts, List.length_cons]

theorem length_classLines {a b : Behavior} (hticks : a.tickMs = b.tickMs) {parts other : ClassParts}
    (h : parts.SameShape other) (comments : Bool) :
    (classLines a comments parts).length = (classLines b comments other).length := by
  obtain ⟨hsame, hstate⟩ := h
  have hrender : other.render = parts.render := by rw [hsame]
  have hupdate : other.update = parts.update := by rw [hsame]
  have htick : other.tick = parts.tick := by rw [hsame]
  have hmethods : other.methods = parts.methods := by rw [hsame]
  cases comments <;> simp [classLines, bodyLines, hstate, hrender, hupdate, htick, hmethods, hticks]

theorem partsOf_withoutTexts {a b : Behavior} (h : a.Relabelled b) :
    partsOf a.withoutTexts = partsOf b.withoutTexts := by
  simp only [partsOf, placeholderParts, h.state_withoutTexts, h.type_withoutTexts]

theorem length_lines_widget {a b : Behavior} (h : a.Relabelled b) (o : Options) :
    (lines (widget a o)).length = (lines (widget b o)).length := by
  have hshape := sameShape_partsOf a
  rw [partsOf_withoutTexts h] at hshape
  have hb := length_classLines (a := b) rfl (sameShape_partsOf b) o.includeComments
  rw [lines_widget, lines_widget, length_classLines h.tickMs_eq hshape, hb]

end Textual

/-! ## Ratatui -/

namespace Ratatui

/-- Parts of a struct that bring the same number of fields and are otherwise the same. -/
structure StructParts.SameShape (parts other : StructParts) : Prop where
  same : other = { parts with fields := other.fields }
  fields : other.fields.length = parts.fields.length

theorem sameShape_partsOf (b : Behavior) : (partsOf b).SameShape (partsOf b.withoutTexts) := by
  obtain ⟨w, simulate, state⟩ := b
  refine ⟨?_, ?_⟩
  · cases state <;> rfl
  · cases state <;>
      simp only [Behavior.withoutTexts, WidgetState.withoutTexts, partsOf, textParts, lineChartParts, gaugeParts,
        logViewerParts, metricCardParts, placeholderParts, List.length_cons]

theorem length_constructorLines {fields others : List Field} (h : fields.length = others.length)
    (init : List String) : (constructorLines fields init).length = (constructorLines others init).length := by
  unfold constructorLines
  split <;> simp [h]

theorem length_structLines {a b : Behavior} (hticks : a.tickMs = b.tickMs) {parts other : StructParts}
    (h : parts.SameShape other) (comments : Bool) :
    (structLines a comments parts).length = (structLines b comments other).length := by
  obtain ⟨hsame, hfields⟩ := h
  have hinit : other.init = parts.init := by rw [hsame]
  have hrender : other.render = parts.render := by rw [hsame]
  have hupdate : other.update = parts.update := by rw [hsame]
  have htick : other.tick = parts.tick := by rw [hsame]
  have hrandom : other.drawsRandom = parts.drawsRandom := by rw [hsame]
  have hmethods : other.methods = parts.methods := by rw [hsame]
  have htimer : other.timer? b = parts.timer? a := by
    rw [StructParts.timer?, StructParts.timer?, htick, hticks]
  have hall : (allFields a parts).length = (allFields b other).length := by
    simp [allFields, timerFields, htimer, hrandom, hfields]
  have hconstructor := length_constructorLines hall parts.init
  cases comments <;>
    simp [structLines, hall, hconstructor, hinit, hrender, hupdate, htimer, hmethods]

theorem partsOf_withoutTexts {a b : Behavior} (h : a.Relabelled b) :
    partsOf a.withoutTexts = partsOf b.withoutTexts := by
  simp only [partsOf, placeholderParts, h.state_withoutTexts, h.type_withoutTexts]

theorem length_lines_widget {a b : Behavior} (h : a.Relabelled b) (o : Options) :
    (lines (widget a o)).length = (lines (widget b o)).length := by
  have hshape := sameShape_partsOf a
  rw [partsOf_withoutTexts h] at hshape
  have hb := length_structLines (a := b) rfl (sameShape_partsOf b) o.includeComments
  rw [lines_widget, lines_widget, length_structLines h.tickMs_eq hshape, hb]

end Ratatui

/-! ## Blessed -/

namespace Blessed

theorem lines_widget (b : Behavior) (o : Options) :
    lines (widget b o) = classLines b o.includeComments (partsOf b) := by
  have htidy := (alike_classLines b o.includeComments).left
  refine lines_joinLines (fun line hline => (htidy line hline).unbroken.oneLine) ?_
  simp [classLines]

theorem length_classLines {a b : Behavior} (hticks : a.tickMs = b.tickMs) (parts : ClassParts) (comments : Bool) :
    (classLines a comments parts).length = (classLines b comments parts).length := by
  have htimer : parts.timer? a = parts.timer? b := by rw [ClassParts.timer?, ClassParts.timer?, hticks]
  cases comments <;> simp [classLines, allFields, htimer]

theorem partsOf_withoutTexts {a b : Behavior} (h : a.Relabelled b) :
    partsOf a.withoutTexts = partsOf b.withoutTexts := by
  simp only [partsOf, placeholderParts, h.state_withoutTexts, h.type_withoutTexts]

theorem length_lines_widget {a b : Behavior} (h : a.Relabelled b) (o : Options) :
    (lines (widget a o)).length = (lines (widget b o)).length := by
  have hticks : a.withoutTexts.tickMs = b.withoutTexts.tickMs := by
    rw [a.tickMs_withoutTexts, b.tickMs_withoutTexts, h.tickMs_eq]
  rw [lines_widget, lines_widget, (alike_classLines a o.includeComments).length_eq,
    (alike_classLines b o.includeComments).length_eq, partsOf_withoutTexts h, length_classLines hticks]

end Blessed

/-! ## Bubble Tea -/

namespace BubbleTea

theorem lines_widget (b : Behavior) (o : Options) :
    lines (widget b o) = (structLines b o.includeComments (partsOf b)).map fun line =>
      String.ofList (tabIndentLine line.toList) := by
  have htidy := (alike_structLines b o.includeComments).left
  refine lines_tabIndent_of_lines (lines_joinLines (fun line hline => (htidy line hline).unbroken.oneLine) ?_)
  simp [structLines]

theorem length_lines_widget_eq (b : Behavior) (o : Options) :
    (lines (widget b o)).length = (structLines b o.includeComments (partsOf b)).length := by
  rw [lines_widget, List.length_map]

theorem length_aligned (rows : List (String × String)) : (aligned rows).length = rows.length := by
  rw [aligned, List.length_map]

theorem length_tickLines {a b : Behavior} (hticks : a.tickMs = b.tickMs) (name other : String)
    (parts : StructParts) : (tickLines name parts a).length = (tickLines other parts b).length := by
  unfold tickLines
  rw [hticks]
  split <;> rfl

/-- The methods of a kind are as many lines under any name. -/
theorem length_methods (b : Behavior) (name other : String) :
    ((partsOf b).methods name).length = ((partsOf b).methods other).length := by
  obtain ⟨w, simulate, state⟩ := b
  cases state <;> rfl

theorem length_spaced {items others : List String} (h : items.length = others.length) :
    (if items.isEmpty then [] else "" :: items).length = (if others.isEmpty then [] else "" :: others).length := by
  have hempty : items.isEmpty = others.isEmpty := by
    rw [Bool.eq_iff_iff, List.isEmpty_iff_length_eq_zero, List.isEmpty_iff_length_eq_zero, h]
  rw [hempty]
  split
  · rfl
  · rw [List.length_cons, List.length_cons, h]

theorem length_structLines {a b : Behavior} (hticks : a.tickMs = b.tickMs) {parts : StructParts}
    (hmethods : (parts.methods a.typeName).length = (parts.methods b.typeName).length) (comments : Bool) :
    (structLines a comments parts).length = (structLines b comments parts).length := by
  have hperiod : parts.period? a = parts.period? b := by rw [StructParts.period?, StructParts.period?, hticks]
  have hfields : (allFields a parts).length = (allFields b parts).length := by
    simp [allFields, hperiod]
  have hinitial : ((allFields a parts).filterMap fun f => f.initial.map fun v => (f.name ++ ":", v)).length =
      ((allFields b parts).filterMap fun f => f.initial.map fun v => (f.name ++ ":", v)).length := by
    simp [allFields, hperiod, List.filterMap_append]
  have htick := length_tickLines hticks a.typeName b.typeName parts
  have hmore := length_spaced hmethods
  have hcomment (x y : String) : (if comments then [x] else []).length = (if comments then [y] else []).length := by
    cases comments <;> rfl
  simp only [structLines, List.length_append, List.length_map, length_aligned, List.length_cons, List.length_nil,
    hfields, hinitial, htick, hmore]
  rw [hcomment]

theorem partsOf_withoutTexts {a b : Behavior} (h : a.Relabelled b) :
    partsOf a.withoutTexts = partsOf b.withoutTexts := by
  simp only [partsOf, placeholderParts, h.state_withoutTexts, h.type_withoutTexts]

theorem length_lines_widget {a b : Behavior} (h : a.Relabelled b) (o : Options) :
    (lines (widget a o)).length = (lines (widget b o)).length := by
  have hticks : a.withoutTexts.tickMs = b.withoutTexts.tickMs := by
    rw [a.tickMs_withoutTexts, b.tickMs_withoutTexts, h.tickMs_eq]
  have hmethods := length_methods b.withoutTexts a.withoutTexts.typeName b.withoutTexts.typeName
  rw [length_lines_widget_eq, length_lines_widget_eq, (alike_structLines a o.includeComments).length_eq,
    (alike_structLines b o.includeComments).length_eq, partsOf_withoutTexts h, length_structLines hticks hmethods]

end BubbleTea

/-! ## All targets -/

theorem Target.length_lines_widget (f : Framework) {a b : Behavior} (h : a.Relabelled b) (o : Options) :
    (lines ((ofFramework f).widget a o)).length = (lines ((ofFramework f).widget b o)).length := by
  cases f with
  | textual =>
    simp only [ofFramework, textual]
    exact Textual.length_lines_widget h o
  | bubbleTea =>
    simp only [ofFramework, bubbleTea]
    exact BubbleTea.length_lines_widget h o
  | ratatui =>
    simp only [ofFramework, ratatui]
    exact Ratatui.length_lines_widget h o
  | blessed =>
    simp only [ofFramework, blessed]
    exact Blessed.length_lines_widget h o

/-- **User text cannot add or remove lines.** For every target, every kind of widget and all options, two
widgets with valid properties that differ only in their ids, their titles, the names of their sources and the
texts that they show are generated with the same number of line feeds. -/
theorem Target.count_widget_feeds (f : Framework) {v w : Widget} {o : Options} {a b : Behavior}
    (hsame : v.Relabelled w) (ha : Behavior.ofWidget v o = .accepted a) (hb : Behavior.ofWidget w o = .accepted b) :
    ((ofFramework f).widget a o).toList.count '\n' = ((ofFramework f).widget b o).toList.count '\n' := by
  have hlines := length_lines_widget f (Behavior.relabelled_of_accepted hsame ha hb) o
  rw [length_lines, length_lines] at hlines
  exact Nat.add_right_cancel hlines

/-- A bound chart that shows some texts; the axis of its values is named under the further spelling. -/
def Widget.labelledChart (id : String) (title : Option String) (source xLabel yLabel : String) : Widget where
  id := id
  type := "line_chart"
  position := ⟨0, 0⟩
  size := ⟨20, 5⟩
  title := title
  dataSource := some source
  style := none
  properties := [("maxPoints", .ofInt 20), ("xLabel", .text xLabel), ("y_label", .text yLabel)]

theorem Target.count_widget_feeds_chart :
    ∃ a b, Behavior.ofWidget (Widget.labelledChart "load" none "cpu" "Time" "Value") .default = .accepted a ∧
      Behavior.ofWidget
        (Widget.labelledChart "a\nb" (some "\r\n\"\"\"") "s\nt" "'\nimport os\n" "*/\n\\") .default = .accepted b ∧
      ((ofFramework .textual).widget a .default).toList.count '\n' =
        ((ofFramework .textual).widget b .default).toList.count '\n' := by
  have hsame : (Widget.labelledChart "load" none "cpu" "Time" "Value").Relabelled
      (Widget.labelledChart "a\nb" (some "\r\n\"\"\"") "s\nt" "'\nimport os\n" "*/\n\\") := by
    refine ⟨rfl, rfl, rfl, rfl, fun key hkey => ?_⟩
    simp only [textKeys, List.mem_cons, not_or] at hkey
    obtain ⟨-, hx, -, -, hy, -⟩ := hkey
    have hx : (key == "xLabel") = false := beq_eq_false_iff_ne.2 hx
    have hy : (key == "y_label") = false := beq_eq_false_iff_ne.2 hy
    simp only [Widget.labelledChart, Json.lookup, List.lookup_cons, hx, hy]
  exact ⟨_, _, rfl, rfl, count_widget_feeds .textual hsame rfl rfl⟩

end DashboardCompiler
