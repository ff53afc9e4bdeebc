import DashboardCompiler.Proofs.Design.RoundTrip
import DashboardCompiler.Proofs.Generation.RawProperties
import DashboardCompiler.Proofs.Schema.Spellings

/-!
# Spellings of designs

The shape of a design document, record by record: which fields there are and how each may be spelled. Headers, static
values and the properties of an unknown type have no fields. Every reader keeps to its shape, so that respelled
documents are read as the same design, except that a widget holds its properties as they were given; those are read
as the same record.
-/

namespace DashboardCompiler

open Schema Checked

namespace Settings

def dimensionsSchema : List (FieldName × Shape) := [(⟨"width", []⟩, .plain), (⟨"height", []⟩, .plain)]

def schema : List (FieldName × Shape) :=
  [(⟨"dimensions", []⟩, .record dimensionsSchema), (⟨"gridSize", ["grid_size"]⟩, .plain), (⟨"theme", []⟩, .plain),
   (⟨"refreshRate", ["refresh_rate"]⟩, .plain), (⟨"autoResize", ["auto_resize"]⟩, .plain)]

theorem readDimensions_keeps : (Shape.record dimensionsSchema).Keeps Eq readDimensions := by
  refine .record fun h => .apply_eq (.map_eq _ ?_) ?_
  · exact h.defaulted (i := 0) rfl (.plain _) rfl
  · exact h.defaulted (i := 1) rfl (.plain _) rfl

theorem read_keeps : (Shape.record schema).Keeps Eq read := by
  refine .record fun h => .apply_eq (.apply_eq (.apply_eq (.apply_eq (.map_eq _ ?_) ?_) ?_) ?_) ?_
  · exact h.defaulted (i := 0) rfl readDimensions_keeps rfl
  · exact h.defaulted (i := 1) rfl (.plain _) rfl
  · exact h.defaulted (i := 2) rfl (.plain _) rfl
  · exact h.defaulted (i := 3) rfl (.plain _) rfl
  · exact h.defaulted (i := 4) rfl (.plain _) rfl

end Settings

namespace Metadata

def schema : List (FieldName × Shape) :=
  [(⟨"name", []⟩, .plain), (⟨"description", []⟩, .plain), (⟨"author", []⟩, .plain), (⟨"version", []⟩, .plain),
   (⟨"created", []⟩, .plain), (⟨"modified", []⟩, .plain),
   (⟨"targetFramework", ["targetRuntime", "target_framework"]⟩, .plain), (⟨"tags", []⟩, .plain)]

theorem read_keeps : (Shape.record schema).Keeps Eq read := by
  refine .record fun h => .apply_eq (.apply_eq (.apply_eq (.apply_eq (.apply_eq (.apply_eq (.apply_eq
    (.map_eq _ ?_) ?_) ?_) ?_) ?_) ?_) ?_) ?_
  · exact h.required (i := 0) rfl (.plain _)
  · exact h.defaulted (i := 1) rfl (.plain _) rfl
  · exact h.defaulted (i := 2) rfl (.plain _) rfl
  · exact h.defaulted (i := 3) rfl (.plain _) rfl
  · exact h.defaulted (i := 4) rfl (.plain _) rfl
  · exact h.defaulted (i := 5) rfl (.plain _) rfl
  · exact h.defaulted (i := 6) rfl (.plain _) rfl
  · exact h.defaulted (i := 7) rfl (.plain _) rfl

end Metadata

namespace WidgetStyle

def schema : List (FieldName × Shape) :=
  [(⟨"borderStyle", ["border_style"]⟩, .plain), (⟨"borderColor", ["border_color"]⟩, .plain),
   (⟨"backgroundColor", ["background_color"]⟩, .plain), (⟨"textColor", ["text_color"]⟩, .plain),
   (⟨"padding", []⟩, .plain)]

theorem read_keeps : (Shape.record schema).Keeps Eq read := by
  refine .record fun h => .apply_eq (.apply_eq (.apply_eq (.apply_eq (.map_eq _ ?_) ?_) ?_) ?_) ?_
  · exact h.defaulted (i := 0) rfl (.plain _) rfl
  · exact h.defaulted (i := 1) rfl (.plain _) rfl
  · exact h.defaulted (i := 2) rfl (.plain _) rfl
  · exact h.defaulted (i := 3) rfl (.plain _) rfl
  · exact h.defaulted (i := 4) rfl (.plain _) rfl

end WidgetStyle

/-! ## Properties -/

namespace Properties

/-- The fields of the record that the properties of a known type are read as. -/
def fieldNames : WidgetKind → List FieldName
  | .text => [⟨"content", []⟩, ⟨"align", []⟩, ⟨"wrap", []⟩]
  | .lineChart =>
    [⟨"xLabel", ["x_label"]⟩, ⟨"yLabel", ["y_label"]⟩, ⟨"showGrid", ["show_grid"]⟩, ⟨"showLegend", ["show_legend"]⟩,
     ⟨"maxPoints", ["max_points"]⟩]
  | .barChart =>
    [⟨"orientation", []⟩, ⟨"showValues", ["show_values"]⟩, ⟨"showLegend", ["show_legend"]⟩, ⟨"maxBars", ["max_bars"]⟩]
  | .table => [⟨"showHeaders", ["show_headers"]⟩, ⟨"sortable", []⟩, ⟨"filterable", []⟩, ⟨"maxRows", ["max_rows"]⟩]
  | .progressBar =>
    [⟨"showPercentage", ["show_percentage"]⟩, ⟨"color", []⟩, ⟨"animated", []⟩, ⟨"min", []⟩, ⟨"max", []⟩]
  | .sparkline => [⟨"style", []⟩, ⟨"showMinMax", ["show_min_max"]⟩, ⟨"showCurrent", ["show_current"]⟩]
  | .gauge => [⟨"min", []⟩, ⟨"max", []⟩, ⟨"showValue", ["show_value"]⟩, ⟨"units", []⟩]
  | .logViewer =>
    [⟨"maxLines", ["max_lines"]⟩, ⟨"autoScroll", ["auto_scroll"]⟩, ⟨"showTimestamp", ["show_timestamp"]⟩,
     ⟨"filter", []⟩]
  | .metricCard => [⟨"label", []⟩, ⟨"format", []⟩, ⟨"trend", []⟩, ⟨"sparkline", []⟩]

def schema (kind : WidgetKind) : List (FieldName × Shape) := (fieldNames kind).map (·, .plain)

/-- The shape of the properties of a widget with the tag; those of an unknown type have no fields. -/
def shape (tag : Option String) : Shape :=
  match tag.bind Named.ofName? with
  | some kind => .record (schema kind)
  | none => .plain

theorem read_follows {kind : WidgetKind} {fields others : Fields} (h : Twins (schema kind) fields others) :
    (read kind fields).Follows Eq (read kind others) := by
  have hfield {α : Type} {f : FieldName} (hf : f ∈ fieldNames kind) (default : α) (read : Json → Checked α) :
      (defaulted fields f default read).Follows Eq (defaulted others f default read) := by
    obtain ⟨i, hi⟩ := List.getElem?_of_mem (List.mem_map_of_mem (f := (·, Shape.plain)) hf)
    exact h.defaulted hi (.plain read) rfl
  -- Every record is put together from field readers by the same few combinators.
  cases kind <;>
    simp only [read, TextProperties.read, LineChartProperties.read, BarChartProperties.read, TableProperties.read,
      ProgressBarProperties.read, SparklineProperties.read, GaugeProperties.read, LogViewerProperties.read,
      MetricCardProperties.read, functorMap_eq, seq_eq] <;>
    apply_rules [Follows.map_eq, Follows.apply_eq, Follows.andThen_eq, hfield] <;>
    simp [fieldNames]

/-- Properties that a widget with the tag reads as the same record. -/
def ReadAlike (tag : Option String) (fields others : Fields) : Prop :=
  ∀ kind : WidgetKind, tag.bind Named.ofName? = some kind → (read kind fields).Follows Eq (read kind others)

theorem readAlike_refl (tag : Option String) (fields : Fields) : ReadAlike tag fields fields := fun _ _ => .refl _

theorem readMapping_keeps (tag : Option String) : (shape tag).Keeps (ReadAlike tag) readMapping := by
  intro v w hsingle hrespelled
  have hrefl : (readMapping v).Follows (ReadAlike tag) (readMapping v) :=
    fun fields hfields => ⟨fields, hfields, readAlike_refl tag fields⟩
  unfold shape at hsingle hrespelled
  cases hkind : tag.bind (Named.ofName? : String → Option WidgetKind) with
  | none =>
    rw [hkind] at hrespelled
    cases hrespelled
    exact hrefl
  | some kind =>
    rw [hkind] at hsingle hrespelled
    rcases Shape.twins_of_record hsingle hrespelled with rfl | ⟨fields, others, rfl, rfl, h⟩
    · exact hrefl
    · rintro _ ⟨⟩
      refine ⟨others, rfl, fun other hother => ?_⟩
      obtain rfl : kind = other := Option.some.inj (hkind.symm.trans hother)
      exact read_follows h

end Properties

/-! ## Widgets -/

namespace Widget

def positionSchema : List (FieldName × Shape) := [(⟨"x", []⟩, .plain), (⟨"y", []⟩, .plain)]

def sizeSchema : List (FieldName × Shape) := [(⟨"width", []⟩, .plain), (⟨"height", []⟩, .plain)]

def schema (tag : Option String) : List (FieldName × Shape) :=
  [(⟨"id", []⟩, .plain), (⟨"type", []⟩, .plain), (⟨"position", []⟩, .record positionSchema),
   (⟨"size", []⟩, .record sizeSchema), (⟨"title", []⟩, .plain), (⟨"dataSource", ["data_source"]⟩, .plain),
   (⟨"style", []⟩, .record WidgetStyle.schema), (⟨"properties", []⟩, Properties.shape tag)]

def shape : Shape := .tagged fun tag => .record (schema tag)

/-- The same widget, the properties of which are read as the same record. -/
structure Alike (w v : Widget) : Prop where
  bare : w.bare = v.bare
  properties : Properties.ReadAlike (some w.type) w.properties v.properties

theorem readPosition_keeps : (Shape.record positionSchema).Keeps Eq readPosition := by
  refine .record fun h => .apply_eq (.map_eq _ ?_) ?_
  · exact h.required (i := 0) rfl (.plain _)
  · exact h.required (i := 1) rfl (.plain _)

theorem readSize_keeps : (Shape.record sizeSchema).Keeps Eq readSize := by
  refine .record fun h => .apply_eq (.map_eq _ ?_) ?_
  · exact h.required (i := 0) rfl (.plain _)
  · exact h.required (i := 1) rfl (.plain _)

theorem read_keeps : shape.Keeps Alike read := by
  rintro v _ hsingle ⟨-, hrespelled⟩
  rcases Shape.twins_of_record hsingle hrespelled with rfl | ⟨fields, others, rfl, rfl, h⟩
  · exact fun w hw => ⟨w, hw, rfl, Properties.readAlike_refl _ _⟩
  generalize htag : tag? (.object fields) = tag at h
  refine .apply (R := Properties.ReadAlike tag) (.apply (R := Eq) (.apply (R := Eq) (.apply (R := Eq)
    (.apply (R := Eq) (.apply (R := Eq) (.apply (R := fun a b => a = b ∧ tag = some a)
    (.map (R := Eq) ?_ ?_) ?_) ?_) ?_) ?_) ?_) ?_) ?_
  · rintro id _ rfl type _ ⟨rfl, rfl⟩ position _ rfl size _ rfl title _ rfl source _ rfl style _ rfl _ _ hproperties
    exact ⟨rfl, hproperties⟩
  · exact h.required (i := 0) rfl (.plain _)
  · intro type htype
    exact ⟨type, (h.required (i := 1) rfl (.plain _)).accepted htype, rfl, htag ▸ tag?_of_required htype⟩
  · exact h.required (i := 2) rfl readPosition_keeps
  · exact h.required (i := 3) rfl readSize_keeps
  · exact h.defaulted (i := 4) rfl (.plain _) rfl
  · exact h.defaulted (i := 5) rfl (.plain _) rfl
  · exact h.defaulted (i := 6) rfl (.optional WidgetStyle.read_keeps) rfl
  · exact h.defaulted (i := 7) rfl (Properties.readMapping_keeps tag) (Properties.readAlike_refl tag [])

end Widget

/-! ## Data sources -/

namespace SourceConfig

/-- The fields of a source with the tag; all that counts of an unknown kind of source is its tag. -/
def schema : Option String → List (FieldName × Shape)
  | some "static" => [(⟨"type", []⟩, .plain), (⟨"value", []⟩, .plain)]
  | some "system_metric" => [(⟨"type", []⟩, .plain), (⟨"metric", []⟩, .plain), (⟨"interval", []⟩, .plain)]
  | some "api" =>
    [(⟨"type", []⟩, .plain), (⟨"url", []⟩, .plain), (⟨"method", []⟩, .plain), (⟨"headers", []⟩, .plain),
     (⟨"interval", []⟩, .plain)]
  | some "file" => [(⟨"type", []⟩, .plain), (⟨"path", []⟩, .plain), (⟨"watch", []⟩, .plain)]
  | some "command" => [(⟨"type", []⟩, .plain), (⟨"command", []⟩, .plain), (⟨"interval", []⟩, .plain)]
  | _ => [(⟨"type", []⟩, .plain)]

def shape : Shape := .tagged fun tag => .record (schema tag)

theorem readTagged?_again {tag : String} {fields others : Fields} {config : SourceConfig}
    (h : Twins (schema (some tag)) fields others) (hread : readTagged? fields tag = some (.accepted config)) :
    readTagged? others tag = some (.accepted config) := by
  unfold readTagged? at hread
  split at hread
  · refine congrArg some (Follows.accepted (.map_eq _ ?_) (Option.some.inj hread))
    exact h.defaulted (i := 1) rfl (.plain _) rfl
  · refine congrArg some (Follows.accepted (.apply_eq (.map_eq _ ?_) ?_) (Option.some.inj hread))
    · exact h.required (i := 1) rfl (.plain _)
    · exact h.defaulted (i := 2) rfl (.plain _) rfl
  · refine congrArg some (Follows.accepted (.map_eq _ ?_) (Option.some.inj hread))
    refine .apply_eq (.apply_eq (.apply_eq (.map_eq _ ?_) ?_) ?_) ?_
    · exact h.required (i := 1) rfl (.plain _)
    · exact h.defaulted (i := 2) rfl (.plain _) rfl
    · exact h.defaulted (i := 3) rfl (.plain _) rfl
    · exact h.defaulted (i := 4) rfl (.plain _) rfl
  · refine congrArg some (Follows.accepted (.apply_eq (.map_eq _ ?_) ?_) (Option.some.inj hread))
    · exact h.required (i := 1) rfl (.plain _)
    · exact h.defaulted (i := 2) rfl (.plain _) rfl
  · refine congrArg some (Follows.accepted (.apply_eq (.map_eq _ ?_) ?_) (Option.some.inj hread))
    · exact h.required (i := 1) rfl (.plain _)
    · exact h.defaulted (i := 2) rfl (.plain _) rfl
  · cases hread

theorem read_keeps : shape.Keeps Eq read := by
  rintro v w hsingle ⟨htag, hrespelled⟩ config hread
  refine ⟨config, ?_, rfl⟩
  rcases Shape.twins_of_record hsingle hrespelled with rfl | ⟨fields, others, rfl, rfl, h⟩
  · exact hread
  · obtain ⟨_, tag, ⟨⟩, htype, htagged⟩ := read_accepted_iff.1 hread
    have hfields : tag? (.object fields) = some tag := tag?_eq_some_iff.2 ⟨fields, rfl, htype⟩
    obtain ⟨_, ⟨⟩, hothers⟩ := tag?_eq_some_iff.1 (htag.symm.trans hfields)
    rw [hfields] at h
    exact read_accepted_iff.2 ⟨others, tag, rfl, hothers, readTagged?_again h htagged⟩

end SourceConfig

namespace DataSource

def schema : List (FieldName × Shape) :=
  [(⟨"id", []⟩, .plain), (⟨"name", []⟩, .plain), (⟨"config", []⟩, SourceConfig.shape)]

theorem read_keeps : (Shape.record schema).Keeps Eq read := by
  refine .record fun h => .apply_eq (.apply_eq (.map_eq _ ?_) ?_) ?_
  · exact h.required (i := 0) rfl (.plain _)
  · exact h.defaulted (i := 1) rfl (.plain _) rfl
  · exact h.required (i := 2) rfl SourceConfig.read_keeps

end DataSource

/-! ## Designs -/

namespace Design

def schema : List (FieldName × Shape) :=
  [(⟨"version", []⟩, .plain), (⟨"metadata", []⟩, .record Metadata.schema), (⟨"settings", []⟩, .record Settings.schema),
   (⟨"widgets", []⟩, .list Widget.shape), (⟨"dataSources", ["data_sources"]⟩, .list (.record DataSource.schema))]

def shape : Shape := .record schema

/-- The same design, in which the properties of each widget are read as the same record. -/
structure Alike (d e : Design) : Prop where
  bare : d.bare = e.bare
  widgets : List.Forall₂ Widget.Alike d.widgets e.widgets

theorem read_keeps : shape.Keeps Alike read := by
  refine .record fun h => .apply (R := Eq) (.apply (R := List.Forall₂ Widget.Alike) (.apply (R := Eq)
    (.apply (R := Eq) (.map (R := Eq) ?_ ?_) ?_) ?_) ?_) ?_
  · rintro version _ rfl metadata _ rfl settings _ rfl widgets others hwidgets sources _ rfl
    have hbare : widgets.map Widget.bare = others.map Widget.bare := by
      refine List.forall₂_eq_eq_eq ▸ ?_
      exact List.forall₂_map_left_iff.2 (List.forall₂_map_right_iff.2 (hwidgets.imp fun _ _ halike => halike.bare))
    exact ⟨by rw [bare, bare, hbare], hwidgets⟩
  · exact h.defaulted (i := 0) rfl (.plain _) rfl
  · exact h.required (i := 1) rfl Metadata.read_keeps
  · exact h.defaulted (i := 2) rfl Settings.read_keeps rfl
  · exact h.defaulted (i := 3) rfl (.items Widget.read_keeps) .nil
  · exact h.defaulted (i := 4) rfl (.items_eq DataSource.read_keeps) rfl

end Design

theorem Widget.Alike.fits {w v : Widget} (h : w.Alike v) (hfits : w.Fits) : v.Fits := by
  obtain ⟨kind, htype, p, hp⟩ := hfits
  have hkind : (some w.type).bind Named.ofName? = some kind := Named.ofName?_eq_some_iff.2 htype.symm
  exact ⟨kind, (congrArg Widget.type h.bare).symm.trans htype, p, (h.properties kind hkind).accepted hp⟩

namespace Design

variable {d e : Design}

theorem Alike.wellFormed (h : d.Alike e) (hd : d.WellFormed) : e.WellFormed := by
  have hids : d.widgets.map (·.id) = e.widgets.map (·.id) := by
    have hbare : (d.widgets.map Widget.bare).map Widget.id = (e.widgets.map Widget.bare).map Widget.id :=
      congrArg (fun design => design.widgets.map Widget.id) h.bare
    rw [List.map_map, List.map_map] at hbare
    exact hbare
  have hsources : d.dataSources = e.dataSources := (congrArg Design.dataSources h.bare :)
  exact
    { types := forall_right_of_forall₂ ((List.forall₂_and_left _ _).2 ⟨hd.types, h.widgets⟩) fun _ _ hwv =>
        hwv.2.fits hwv.1
      widgetIds := hids ▸ hd.widgetIds
      sourceIds := hsources ▸ hd.sourceIds
      references := forall_right_of_forall₂ ((List.forall₂_and_left _ _).2 ⟨hd.references, h.widgets⟩)
        fun _ _ hwv id hid => hsources ▸ hwv.1 id ((congrArg Widget.dataSource hwv.2.bare).trans hid) }

/-- A respelled document is accepted as well, as a design that differs in the raw properties of its widgets only. -/
theorem validate_respelled {document other : Json} (hsingle : shape.single document)
    (hrespelled : shape.Respelled document other) (h : validate document = .ok d) :
    ∃ e, validate other = .ok e ∧ d.Alike e := by
  obtain ⟨hread, hwell⟩ := validate_ok_iff.1 h
  obtain ⟨e, he, halike⟩ := read_keeps document other hsingle hrespelled d hread
  exact ⟨e, validate_ok_iff.2 ⟨he, halike.wellFormed hwell⟩, halike⟩

end Design

end DashboardCompiler
