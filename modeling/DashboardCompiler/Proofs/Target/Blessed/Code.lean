import DashboardCompiler.Proofs.Generation.Texts
import DashboardCompiler.Proofs.Target.Rows
import DashboardCompiler.Proofs.Text.Tidy

/-!
# User text in blessed programs

Text that a design only shows reaches a blessed program as the start value of a property of a widget, as the
constant with the title of the dashboard, and in the banner of a file. Each section of the program is alike
to that of the design without its texts, line by line.
-/

namespace DashboardCompiler.Blessed

open Code Text

/-! ## Properties of widgets -/

theorem piece_literal (v : Json) : Piece (literal v) := Json.piece_documentLine v

/-- A property beside its counterpart: the same one, or two that start with different texts. -/
inductive Field.Alike : Field → Field → Prop
  | same {name : List Char} (hname : name.all isPlain = true) {initial : String} (hinitial : Piece initial) :
    Field.Alike ⟨String.ofList name, initial⟩ ⟨String.ofList name, initial⟩
  | quoted {name : List Char} (hname : (name.all isPlain && !name.contains '(') = true) (x y : String) :
    Field.Alike ⟨String.ofList name, text x⟩ ⟨String.ofList name, text y⟩

/-- The lines of the constructor. -/
theorem alike_fieldLines {fields others : List Field} (h : List.Forall₂ Field.Alike fields others) :
    AlikeLines (fields.map fun f => "    this." ++ f.name ++ " = " ++ f.initial ++ ";")
      (others.map fun f => "    this." ++ f.name ++ " = " ++ f.initial ++ ";") := by
  have hthis : Plain "    this." := plain_ofList (by decide)
  have hequals : Plain " = " := plain_ofList (by decide)
  have hend : Plain ";" := plain_ofList (by decide)
  simp only [AlikeLines, List.forall₂_map_left_iff, List.forall₂_map_right_iff]
  refine h.imp fun field other hfield => ?_
  cases hfield with
  | same hname hinitial =>
    exact .same ((((hthis.append (plain_ofList hname)).append hequals).appendPiece hinitial).appendPlain hend).tidy
  | @quoted name hname x y =>
    simp only [Bool.and_eq_true, Bool.not_eq_true', List.contains_eq_mem, decide_eq_false_iff_not] at hname
    have hopen : '(' ∉ ("    this." ++ String.ofList name ++ " = ").toList ++ ";".toList := by
      simp [hname.2]
    exact .quoted (quotation_documentQuoted x) (quotation_documentQuoted y)
      ((hthis.append (plain_ofList hname.1)).append hequals) hend hopen

/-! ## Kinds of widgets -/

/-- What a kind puts into the class of a widget beside what it puts there without its texts: some properties
start with other texts, and nothing else changes. -/
structure ClassParts.Alike (parts other : ClassParts) : Prop where
  same : other = { parts with fields := other.fields }
  fields : List.Forall₂ Field.Alike parts.fields other.fields

theorem alike_textParts (p : TextProperties) : (textParts p).Alike (textParts p.withoutTexts) where
  same := rfl
  fields := by
    refine .cons (.quoted (by decide) _ _) ?_
    refine .cons (.same (by decide) (piece_document _)) ?_
    refine .cons (.same (by decide) (Literal.plain_flag _).piece) ?_
    exact .cons (.same (by decide) Json.plain_null.piece) .nil

theorem alike_lineChartParts (p : LineChartProperties) (labels : List String) (values : List Int) :
    (lineChartParts p labels values).Alike (lineChartParts p.withoutTexts labels values) where
  same := rfl
  fields := by
    refine .cons (.same (by decide) (piece_literal _)) ?_
    refine .cons (.same (by decide) (piece_literal _)) ?_
    refine .cons (.quoted (by decide) _ _) ?_
    refine .cons (.quoted (by decide) _ _) ?_
    refine .cons (.same (by decide) (Literal.plain_flag _).piece) ?_
    refine .cons (.same (by decide) (Literal.plain_flag _).piece) ?_
    refine .cons (.same (by decide) (Number.plain_intText _).piece) ?_
    exact .cons (.same (by decide) Json.plain_false.piece) .nil

theorem alike_barChartParts (p : BarChartProperties) (sample : List (String × Int)) :
    (barChartParts p sample).Alike (barChartParts p sample) where
  same := rfl
  fields := by
    refine .cons (.same (by decide) (piece_literal _)) ?_
    refine .cons (.same (by decide) (piece_document _)) ?_
    refine .cons (.same (by decide) (Literal.plain_flag _).piece) ?_
    refine .cons (.same (by decide) (Literal.plain_flag _).piece) ?_
    exact .cons (.same (by decide) (Number.plain_intText _).piece) .nil

theorem alike_tableParts (p : TableProperties) (headers : List String) (rows : List (List String)) :
    (tableParts p headers rows).Alike (tableParts p headers rows) where
  same := rfl
  fields := by
    refine .cons (.same (by decide) (piece_literal _)) ?_
    refine .cons (.same (by decide) (piece_literal _)) ?_
    refine .cons (.same (by decide) (Literal.plain_flag _).piece) ?_
    refine .cons (.same (by decide) (Literal.plain_flag _).piece) ?_
    refine .cons (.same (by decide) (Literal.plain_flag _).piece) ?_
    exact .cons (.same (by decide) (Number.plain_intText _).piece) .nil

theorem alike_progressBarParts (p : ProgressBarProperties) (percent : Int) :
    (progressBarParts p percent).Alike (progressBarParts p percent) where
  same := rfl
  fields := by
    refine .cons (.same (by decide) (Number.plain_intText _).piece) ?_
    refine .cons (.same (by decide) (Literal.plain_flag _).piece) ?_
    refine .cons (.same (by decide) (Literal.plain_flag _).piece) ?_
    refine .cons (.same (by decide) (piece_literal _)) ?_
    exact .cons (.same (by decide) (piece_literal _)) .nil

theorem alike_sparklineParts (p : SparklineProperties) (values : List Int) :
    (sparklineParts p values).Alike (sparklineParts p values) where
  same := rfl
  fields := by
    refine .cons (.same (by decide) (piece_literal _)) ?_
    refine .cons (.same (by decide) (piece_document _)) ?_
    refine .cons (.same (by decide) (Literal.plain_flag _).piece) ?_
    exact .cons (.same (by decide) (Literal.plain_flag _).piece) .nil

theorem alike_gaugeParts (p : GaugeProperties) (value : Number) :
    (gaugeParts p value).Alike (gaugeParts p.withoutTexts value) where
  same := rfl
  fields := by
    refine .cons (.same (by decide) (piece_literal _)) ?_
    refine .cons (.same (by decide) (piece_literal _)) ?_
    refine .cons (.same (by decide) (piece_literal _)) ?_
    refine .cons (.same (by decide) (Literal.plain_flag _).piece) ?_
    exact .cons (.quoted (by decide) _ _) .nil

theorem alike_logViewerParts (p : LogViewerProperties) (seed : List (String × String)) :
    (logViewerParts p seed).Alike (logViewerParts p.withoutTexts seed) where
  same := rfl
  fields := by
    have hzero : Plain "0" := plain_ofList (by decide)
    have hempty : Plain "[]" := plain_ofList (by decide)
    refine .cons (.same (by decide) (Number.plain_intText _).piece) ?_
    refine .cons (.same (by decide) (Literal.plain_flag _).piece) ?_
    refine .cons (.same (by decide) (Literal.plain_flag _).piece) ?_
    refine .cons (.quoted (by decide) _ _) ?_
    refine .cons (.same (by decide) hzero.piece) ?_
    exact .cons (.same (by decide) hempty.piece) .nil

theorem alike_metricCardParts (p : MetricCardProperties) (value : Number) (previous : Option Number)
    (history : List Number) :
    (metricCardParts p value previous history).Alike (metricCardParts p.withoutTexts value previous history) where
  same := rfl
  fields := by
    refine .cons (.quoted (by decide) _ _) ?_
    refine .cons (.same (by decide) (piece_document _)) ?_
    refine .cons (.same (by decide) (Literal.plain_flag _).piece) ?_
    refine .cons (.same (by decide) (Literal.plain_flag _).piece) ?_
    refine .cons (.same (by decide) (piece_literal _)) ?_
    refine .cons (.same (by decide) (piece_literal _)) ?_
    exact .cons (.same (by decide) (piece_literal _)) .nil

theorem alike_placeholderParts (w : Widget) : (placeholderParts w).Alike (placeholderParts w.withoutTexts) where
  same := rfl
  fields := .cons (.same (by decide) (piece_document _)) .nil

theorem alike_partsOf (b : Behavior) : (partsOf b).Alike (partsOf b.withoutTexts) := by
  obtain ⟨w, simulate, state⟩ := b
  cases state with
  | text p => exact alike_textParts p
  | lineChart p labels values => exact alike_lineChartParts p labels values
  | barChart p sample => exact alike_barChartParts p sample
  | table p headers rows => exact alike_tableParts p headers rows
  | progressBar p percent => exact alike_progressBarParts p percent
  | sparkline p values => exact alike_sparklineParts p values
  | gauge p value => exact alike_gaugeParts p value
  | logViewer p seed => exact alike_logViewerParts p seed
  | metricCard p value previous history => exact alike_metricCardParts p value previous history
  | unknown => exact alike_placeholderParts w

/-- The lines that a kind of widget brings to the methods of its class. -/
def ClassParts.code (parts : ClassParts) : List String :=
  parts.render ++ parts.update ++ parts.tick.getD [] ++ parts.methods

theorem tidy_code (b : Behavior) : TidyLines (partsOf b).code := by
  obtain ⟨w, simulate, state⟩ := b
  cases state with
  | _ =>
    apply Spelled.tidyLines
    · repeat constructor
    · decide +kernel

theorem tidy_init (b : Behavior) : TidyLines (partsOf b).init := by
  obtain ⟨w, simulate, state⟩ := b
  cases state with
  | logViewer p seed =>
    have hentries : Plain "    for (const [level, message] of " := plain_ofList (by decide)
    have hopening : Plain ") \x7b" := plain_ofList (by decide)
    have hloop := (piece_between hentries (piece_literal (pairs seed)) hopening).tidy
    dsimp only [partsOf, logViewerParts]
    split
    · exact .nil
    · refine .cons hloop ?_
      exact .cons (tidy_ofList (by decide)) (.cons (tidy_ofList (by decide)) .nil)
  | _ => exact .nil

theorem unbroken_description (b : Behavior) : Unbroken (partsOf b).description := by
  obtain ⟨w, simulate, state⟩ := b
  cases state <;> exact (plain_ofList (by decide)).piece.unbroken

/-! ## Widgets -/

theorem tidy_methodLines {signature : List Char} (hsignature : signature.all isPlain = true) {body : List String}
    (hbody : TidyLines body) : TidyLines (methodLines (String.ofList signature) body) := by
  have hindent : Plain "  " := plain_ofList (by decide)
  have hopening : Plain " \x7b" := plain_ofList (by decide)
  have hempty : Plain " \x7b\x7d" := plain_ofList (by decide)
  have hclosing : Tidy "  \x7d" := tidy_ofList (by decide)
  unfold methodLines
  split
  · exact .cons (tidy_named hindent (plain_ofList hsignature) hempty) .nil
  · exact ((TidyLines.cons (tidy_named hindent (plain_ofList hsignature) hopening) .nil).append hbody).append
      (.cons hclosing .nil)

theorem ClassParts.tick_of_timer? {parts : ClassParts} {b : Behavior} {ms : Nat} {body : List String}
    (h : parts.timer? b = some (ms, body)) : parts.tick = some body := by
  obtain ⟨found, hfound, htimer⟩ := Option.bind_eq_some_iff.1 h
  obtain ⟨period, -, htimer⟩ := Option.bind_eq_some_iff.1 htimer
  cases htimer
  exact hfound

theorem tidy_tickBody {parts : ClassParts} (htick : TidyLines (parts.tick.getD [])) (b : Behavior) :
    TidyLines (tickBody (parts.timer? b)) := by
  cases htimer : parts.timer? b with
  | none => exact .nil
  | some timer =>
    obtain ⟨ms, body⟩ := timer
    rw [ClassParts.tick_of_timer? htimer] at htick
    refine TidyLines.append ?_ htick
    split
    · exact .nil
    · refine .cons (tidy_ofList (by decide)) ?_
      refine .cons (tidy_named (plain_ofList (by decide)) (plain_toString _) (plain_ofList (by decide))) ?_
      exact .cons (tidy_ofList (by decide)) .nil

theorem timer_withoutTexts (b : Behavior) {parts other : ClassParts} (h : parts.Alike other) :
    other.timer? b.withoutTexts = parts.timer? b := by
  have htick : other.tick = parts.tick := by rw [h.same]
  rw [ClassParts.timer?, ClassParts.timer?, htick, b.tickMs_withoutTexts]

theorem alike_allFields (b : Behavior) {parts other : ClassParts} (h : parts.Alike other) :
    List.Forall₂ Field.Alike (allFields b parts) (allFields b.withoutTexts other) := by
  have hzero : Plain "0" := plain_ofList (by decide)
  rw [allFields, allFields, timer_withoutTexts b h]
  refine List.rel_append (List.rel_append ?_ ?_) h.fields
  · refine .cons (.quoted (by decide) _ _) ?_
    refine .cons (.same (by decide) (Number.plain_intText _).piece) ?_
    exact .cons (.same (by decide) (Number.plain_intText _).piece) .nil
  · split
    · exact .cons (.same (by decide) hzero.piece) .nil
    · exact .nil

theorem tidy_classComment (b : Behavior) {description : String} (h : Unbroken description) :
    Tidy ("// " ++ description ++ ": " ++ commentText b.widget.id) := by
  have hcolon : Plain ": " := plain_ofList (by decide)
  rw [String.append_assoc, String.append_assoc]
  exact tidy_comment (h.append (hcolon.piece.unbroken.append (unbroken_commentText _)))

/-- The properties of the constructor are all that a text of the widget reaches. -/
theorem alike_classLines (b : Behavior) (comments : Bool) :
    AlikeLines (classLines b comments (partsOf b))
      (classLines b.withoutTexts comments (partsOf b.withoutTexts)) := by
  have hname : Plain b.typeName := Name.plain_typeName _
  have halike := alike_partsOf b
  have hcode := tidy_code b
  simp only [ClassParts.code, TidyLines, List.forall_mem_append] at hcode
  obtain ⟨⟨⟨hrender, hupdate⟩, htick⟩, hmethods⟩ := hcode
  have hinit := tidy_init b
  have hcomment := TidyLines.cons (tidy_classComment b (unbroken_description b)) .nil
  have hblank : TidyLines [""] := .cons (tidy_ofList (by decide)) .nil
  have hstart : TidyLines ["class " ++ b.typeName ++ " \x7b", "  constructor() \x7b"] :=
    .cons (tidy_named (plain_ofList (by decide)) hname (plain_ofList (by decide)))
      (.cons (tidy_ofList (by decide)) .nil)
  have hfields := alike_fieldLines (alike_allFields b halike)
  have hclosing : TidyLines ["  \x7d", ""] :=
    .cons (tidy_ofList (by decide)) (.cons (tidy_ofList (by decide)) .nil)
  have hrenderLines : TidyLines (methodLines "render()" (partsOf b).render) :=
    tidy_methodLines (by decide) hrender
  have hupdateLines : TidyLines (methodLines "update(value)" (partsOf b).update) :=
    tidy_methodLines (by decide) hupdate
  have htickLines : TidyLines (methodLines "tick()" (tickBody ((partsOf b).timer? b))) :=
    tidy_methodLines (by decide) (tidy_tickBody htick b)
  have hmore : TidyLines (if (partsOf b).methods.isEmpty then [] else "" :: (partsOf b).methods) := by
    split
    · exact .nil
    · exact hblank.append hmethods
  have hend : TidyLines ["\x7d"] := .cons (tidy_ofList (by decide)) .nil
  -- Beside the properties the two classes are the same.
  have htimer := timer_withoutTexts b halike
  have hsame := halike.same
  generalize partsOf b = parts, partsOf b.withoutTexts = other at *
  have hdescription : other.description = parts.description := by rw [hsame]
  have hotherInit : other.init = parts.init := by rw [hsame]
  have hotherRender : other.render = parts.render := by rw [hsame]
  have hotherUpdate : other.update = parts.update := by rw [hsame]
  have hotherMethods : other.methods = parts.methods := by rw [hsame]
  have htypeName : b.withoutTexts.typeName = b.typeName := rfl
  have hid : b.withoutTexts.widget.id = b.widget.id := rfl
  simp only [classLines, htimer, hdescription, hotherInit, hotherRender, hotherUpdate, hotherMethods, htypeName,
    hid]
  exact (((((((((((TidyLines.optional hcomment).alikeLines.append hstart.alikeLines).append hfields).append
    hinit.alikeLines).append hclosing.alikeLines).append hrenderLines.alikeLines).append
    hblank.alikeLines).append hupdateLines.alikeLines).append hblank.alikeLines).append
    htickLines.alikeLines).append hmore.alikeLines).append hend.alikeLines

/-- A widget of the program is alike to the one without its texts. -/
theorem alike_widget (b : Behavior) (o : Options) : AlikeTexts (widget b o) (widget b.withoutTexts o) :=
  .joinLines (alike_classLines b o.includeComments)

/-! ## Shared code -/

/-- The fixed lines of every program. -/
theorem tidy_fixed :
    TidyLines (helperFunctions ++ logFunction ++ collector ++ updater ++ slotFactory ++ appClass) := by
  apply Spelled.tidyLines
  · repeat constructor
  · decide +kernel

theorem tidy_constant {name : List Char} (hname : name.all isPlain = true) {value : String} (hvalue : Piece value) :
    Tidy (constant (String.ofList name) value) := by
  have hconst : Plain "const " := plain_ofList (by decide)
  have hequals : Plain " = " := plain_ofList (by decide)
  have hend : Plain ";" := plain_ofList (by decide)
  exact ((((hconst.append (plain_ofList hname)).append hequals).appendPiece hvalue).appendPlain hend).tidy

theorem tidy_textConstant {name : List Char} (hname : name.all isPlain = true) (value : String) :
    Tidy (textConstant (String.ofList name) value) := tidy_constant hname (piece_document value)

theorem tidy_numberConstant {name : List Char} (hname : name.all isPlain = true) (value : Nat) :
    Tidy (numberConstant (String.ofList name) value) := tidy_constant hname (plain_toString value).piece

theorem tidy_helperConstants : TidyLines helperConstants := by
  have hdrift : Plain Display.metricCardDrift := plain_ofList (by decide)
  iterate 11 refine .cons (tidy_textConstant (by decide) _) ?_
  iterate 9 refine .cons (tidy_numberConstant (by decide) _) ?_
  refine .cons (tidy_constant (by decide) hdrift.piece) ?_
  refine .cons (tidy_textConstant (by decide) _) ?_
  exact .cons (tidy_constant (by decide) (piece_literal _)) .nil

theorem alike_helpers : AlikeTexts helpers helpers := by
  have hfixed := tidy_fixed
  simp only [TidyLines, List.forall_mem_append] at hfixed
  obtain ⟨⟨⟨⟨⟨hfunctions, -⟩, -⟩, -⟩, -⟩, -⟩ := hfixed
  exact (tidy_helperConstants.append hfunctions).alikeTexts

/-! ## Data sources -/

theorem tidy_constants (comments : Bool) : TidyLines (constants comments) := by
  refine .append (.optional (.cons (tidy_ofList (by decide)) .nil)) ?_
  have hkeys : Plain "const VALUE_KEYS = " := plain_ofList (by decide)
  have hend : Plain ";" := plain_ofList (by decide)
  have hvalueKeys := (piece_between hkeys (piece_literal (texts Display.valueKeys)) hend).tidy
  refine .cons (tidy_named (plain_ofList (by decide)) (plain_toString _) (plain_ofList (by decide))) ?_
  refine .cons (tidy_named (plain_ofList (by decide)) (plain_toString _) (plain_ofList (by decide))) ?_
  exact .cons hvalueKeys .nil

theorem tidy_sourceTable (d : Design) :
    TidyLines (["const DATA_SOURCES = \x7b"] ++ d.referencedSources.map sourceRow ++ ["\x7d;"]) := by
  refine (TidyLines.append (.cons (tidy_ofList (by decide)) .nil) fun row hrow => ?_).append
    (.cons (tidy_ofList (by decide)) .nil)
  obtain ⟨source, -, rfl⟩ := List.mem_map.1 hrow
  exact (piece_sourceRow source).tidy

theorem alike_dataSources (d : Design) (comments : Bool) :
    AlikeTexts (dataSources d comments) (dataSources d comments) := by
  have hfixed := tidy_fixed
  simp only [TidyLines, List.forall_mem_append] at hfixed
  obtain ⟨⟨⟨⟨⟨-, hlog⟩, hcollector⟩, hupdater⟩, -⟩, -⟩ := hfixed
  refine AlikeTexts.joinSections (List.rel_append (List.rel_append ?_ ?_) ?_)
  · exact .cons (tidy_constants comments).alikeTexts
      (.cons (tidy_sourceTable d).alikeTexts (.cons (TidyLines.alikeTexts hlog) .nil))
  · split
    · exact .cons (TidyLines.alikeTexts hcollector) .nil
    · exact .nil
  · exact .cons (TidyLines.alikeTexts hupdater) .nil

theorem dataSources_withoutTexts (d : Design) (comments : Bool) :
    dataSources d.withoutTexts comments = dataSources d comments := by
  rw [dataSources, dataSources, sourceTable, sourceTable, d.referencedSources_withoutTexts,
    d.usesSystemMetrics_withoutTexts]

/-! ## The application -/

theorem slot_withoutTexts (settings : Settings) (b : Behavior) : slot settings b.withoutTexts = slot settings b := by
  unfold slot
  rw [b.colors_withoutTexts]
  rfl

theorem tidy_slots {settings : Settings} {bs : List Behavior} {slots : List String}
    (h : bs.mapM (slot settings) = .ok slots) : TidyLines (slots.map ("    " ++ ·)) := by
  have hindent : Plain "    " := plain_ofList (by decide)
  have hslots : ∀ line ∈ slots, Piece line :=
    forall_right_of_forall₂ (forall₂_of_mapM_ok h) fun _ _ hslot => piece_slot hslot.2
  intro line hline
  obtain ⟨line, hmem, rfl⟩ := List.mem_map.1 hline
  exact (hindent.appendPiece (hslots line hmem)).tidy

theorem tidy_updaterLine (s : Scene) : Tidy (updaterLine s) := by
  have hstart : Plain "  return new DataSourceUpdater(DATA_SOURCES, " := plain_ofList (by decide)
  have hend : Plain ");" := plain_ofList (by decide)
  have hcollector : Plain "new SystemMetricsCollector()" := plain_ofList (by decide)
  unfold updaterLine
  dsimp only
  split
  · split
    · exact tidy_named hstart hcollector hend
    · exact tidy_named hstart Json.plain_null hend
  · exact tidy_ofList (by decide)

/-- The constant with the title of the dashboard is the only line with a text of the design. -/
theorem alike_titleConstant (name other : String) :
    Alike (textConstant "DASHBOARD_TITLE" name) (textConstant "DASHBOARD_TITLE" other) := by
  have hstart : Plain "const DASHBOARD_TITLE = " := plain_ofList (by decide)
  have hend : Plain ";" := plain_ofList (by decide)
  have hprefix : "const " ++ "DASHBOARD_TITLE" ++ " = " = "const DASHBOARD_TITLE = " := by simp
  have hline := Alike.quoted (quotation_documentQuoted name) (quotation_documentQuoted other) hstart hend (by decide)
  rwa [← hprefix] at hline

theorem alike_app {s : Scene} {program : String} (h : app s = .ok program) :
    ∃ other, app s.withoutTexts = .ok other ∧ AlikeTexts program other := by
  obtain ⟨slots, hslots, h⟩ := bind_ok_iff.1 h
  have hother : s.withoutTexts.behaviors.mapM (slot s.design.settings) = .ok slots := by
    have hfunction : slot s.design.settings ∘ Behavior.withoutTexts = slot s.design.settings :=
      funext fun b => slot_withoutTexts _ b
    rw [Scene.withoutTexts, List.mapM_map, hfunction]
    exact hslots
  have hfixed := tidy_fixed
  simp only [TidyLines, List.forall_mem_append] at hfixed
  obtain ⟨⟨-, hfactory⟩, hclass⟩ := hfixed
  have hcomment : TidyLines (if s.options.includeComments then ["// Application"] else []) :=
    .optional (.cons (tidy_ofList (by decide)) .nil)
  have hconstants : AlikeLines
      [textConstant "DASHBOARD_TITLE" s.design.metadata.name,
        textConstant "ACCENT_COLOR" (Display.palette s.design.settings.theme).accent,
        numberConstant "ANIMATION_INTERVAL_MS" Display.animationTickMs,
        constant "REFRESH_INTERVAL_MS" (int s.design.settings.refreshRate), ""]
      [textConstant "DASHBOARD_TITLE" s.withoutTexts.design.metadata.name,
        textConstant "ACCENT_COLOR" (Display.palette s.design.settings.theme).accent,
        numberConstant "ANIMATION_INTERVAL_MS" Display.animationTickMs,
        constant "REFRESH_INTERVAL_MS" (int s.design.settings.refreshRate), ""] := by
    refine .cons (alike_titleConstant _ _) ?_
    refine .cons (.same (tidy_textConstant (by decide) _)) ?_
    refine .cons (.same (tidy_numberConstant (by decide) _)) ?_
    refine .cons (.same (tidy_constant (by decide) (Number.plain_intText _).piece)) ?_
    exact .cons (.same (tidy_ofList (by decide))) .nil
  have hcreate : TidyLines ["", "function createSlots(screen) \x7b", "  return ["] :=
    .cons (tidy_ofList (by decide)) (.cons (tidy_ofList (by decide)) (.cons (tidy_ofList (by decide)) .nil))
  have hupdater : TidyLines
      ["  ];", "\x7d", "", "function createUpdater() \x7b", updaterLine s, "\x7d", ""] := by
    refine .cons (tidy_ofList (by decide)) ?_
    refine .cons (tidy_ofList (by decide)) ?_
    refine .cons (tidy_ofList (by decide)) ?_
    refine .cons (tidy_ofList (by decide)) ?_
    refine .cons (tidy_updaterLine s) ?_
    exact .cons (tidy_ofList (by decide)) (.cons (tidy_ofList (by decide)) .nil)
  have hline : updaterLine s.withoutTexts = updaterLine s := by
    have hmetrics : s.withoutTexts.design.usesSystemMetrics = s.design.usesSystemMetrics :=
      s.design.usesSystemMetrics_withoutTexts
    rw [updaterLine, updaterLine, hmetrics]
    rfl
  refine ⟨_, bind_ok_iff.2 ⟨slots, hother, rfl⟩, ?_⟩
  rw [← Except.ok.inj h, hline]
  exact .joinLines ((((((hcomment.alikeLines.append hconstants).append (TidyLines.alikeLines hfactory)).append
    hcreate.alikeLines).append (tidy_slots hslots).alikeLines).append hupdater.alikeLines).append
    (TidyLines.alikeLines hclass))

theorem alike_entryPoint : AlikeTexts entryPoint entryPoint := by
  refine TidyLines.alikeTexts ?_
  apply Spelled.tidyLines
  · repeat constructor
  · decide

end DashboardCompiler.Blessed
