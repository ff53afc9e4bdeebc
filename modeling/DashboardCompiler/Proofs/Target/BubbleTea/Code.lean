import DashboardCompiler.Proofs.Generation.Texts
import DashboardCompiler.Proofs.Target.Rows
import DashboardCompiler.Proofs.Text.Tidy

/-!
# User text in Bubble Tea programs

Text that a design only shows reaches a Bubble Tea program in three ways: as the value of a field in the
constructor of a widget, as a comment, and as the banner of a file. Each section of the program is alike to
that of the design without its texts, line by line.
-/

namespace DashboardCompiler.BubbleTea

open Code Text

/-! ## Literals -/

theorem piece_commaList {opening closing : String} (hopening : Plain opening) (hclosing : Plain closing)
    {items : List String} (h : ∀ s ∈ items, Piece s) : Piece (opening ++ commaList items ++ closing) :=
  piece_between hopening (piece_list h) hclosing

theorem piece_floats (values : List Number) : Piece (floats values) := by
  refine piece_commaList (plain_ofList (by decide)) (plain_ofList (by decide)) fun s hs => ?_
  obtain ⟨n, -, rfl⟩ := List.mem_map.1 hs
  exact (Literal.plain_float n).piece

theorem pieces_text (values : List String) : ∀ s ∈ values.map text, Piece s := by
  intro s hs
  obtain ⟨value, -, rfl⟩ := List.mem_map.1 hs
  exact piece_document value

theorem piece_strings (values : List String) : Piece (strings values) :=
  piece_commaList (plain_ofList (by decide)) (plain_ofList (by decide)) (pieces_text values)

theorem piece_stringRows (rows : List (List String)) : Piece (stringRows rows) := by
  refine piece_commaList (plain_ofList (by decide)) (plain_ofList (by decide)) fun s hs => ?_
  obtain ⟨row, -, rfl⟩ := List.mem_map.1 hs
  exact piece_commaList (plain_ofList (by decide)) (plain_ofList (by decide)) (pieces_text row)

theorem piece_pairs (items : List (String × String)) : Piece (pairs items) := by
  have hopening : Plain "\x7b" := plain_ofList (by decide)
  have hclosing : Plain "\x7d" := plain_ofList (by decide)
  refine piece_commaList (plain_ofList (by decide)) hclosing fun s hs => ?_
  obtain ⟨⟨a, b⟩, -, rfl⟩ := List.mem_map.1 hs
  exact ((hopening.appendPiece (piece_document a)).separated plain_comma (by simp)
    (piece_document b)).appendPlain hclosing

theorem piece_bars (items : List (String × Int)) : Piece (bars items) := by
  have hopening : Plain "\x7b" := plain_ofList (by decide)
  have hclosing : Plain "\x7d" := plain_ofList (by decide)
  refine piece_commaList (plain_ofList (by decide)) hclosing fun s hs => ?_
  obtain ⟨⟨label, n⟩, -, rfl⟩ := List.mem_map.1 hs
  exact (((hopening.appendPiece (piece_document label)).appendPlain plain_comma).appendPlain
    (Literal.plain_float _)).appendPlain hclosing

/-! ## Two columns -/

/-- A row beside its counterpart: the same row, or two rows whose values are texts. -/
inductive AlikeRow : String × String → String × String → Prop
  | same {key value : String} (hkey : Plain key) (hvalue : Piece value) : AlikeRow (key, value) (key, value)
  | quoted {key : String} (hkey : Plain key) (hopen : '(' ∉ key.toList) (x y : String) :
    AlikeRow (key, text x) (key, text y)

theorem AlikeRow.keys_eq {rows others : List (String × String)} (h : List.Forall₂ AlikeRow rows others) :
    rows.map (·.1) = others.map (·.1) := by
  induction h with
  | nil => rfl
  | cons hrow _ ih =>
    rw [List.map_cons, List.map_cons, ih]
    cases hrow <;> rfl

theorem plain_spaces (n : Nat) : Plain (spaces n) := by
  intro c hc
  rw [spaces, String.toList_ofList] at hc
  rw [List.eq_of_mem_replicate hc]
  decide

theorem not_mem_spaces (n : Nat) : '(' ∉ (spaces n).toList := by
  intro hmem
  rw [spaces, String.toList_ofList] at hmem
  exact absurd (List.eq_of_mem_replicate hmem) (by decide)

/-- Lines of two columns with a fixed indent are alike where the rows are. -/
theorem alike_aligned {rows others : List (String × String)} (h : List.Forall₂ AlikeRow rows others)
    (before after : String) (hbefore : Plain before) (hafter : Plain after)
    (hopen : '(' ∉ before.toList ++ after.toList) :
    AlikeLines ((aligned rows).map fun line => before ++ line ++ after)
      ((aligned others).map fun line => before ++ line ++ after) := by
  have hspace : Plain " " := plain_ofList (by decide)
  have hwidths : rows.map (·.1.length) = others.map (·.1.length) := by
    have hkeys := congrArg (List.map String.length) (AlikeRow.keys_eq h)
    rwa [List.map_map, List.map_map] at hkeys
  simp only [aligned, hwidths, AlikeLines, List.map_map, List.forall₂_map_left_iff, List.forall₂_map_right_iff]
  refine h.imp fun row other hrow => ?_
  cases hrow with
  | same hkey hvalue =>
    exact .same ((hbefore.appendPiece (((hkey.append hspace).append (plain_spaces _)).appendPiece
      hvalue)).appendPlain hafter).tidy
  | @quoted key hkey hkeyOpen x y =>
    have hstart (n : Nat) : Plain (before ++ (key ++ " " ++ spaces n)) :=
      hbefore.append ((hkey.append hspace).append (plain_spaces n))
    have hclosed (n : Nat) : '(' ∉ (before ++ (key ++ " " ++ spaces n)).toList ++ after.toList := by
      have hindent := not_mem_spaces n
      simp only [List.mem_append, not_or] at hopen
      simp [hopen, hkeyOpen, hindent]
    have hline := Alike.quoted (quotation_documentQuoted x) (quotation_documentQuoted y) (hstart _) hafter
      (hclosed (((others.map (·.1.length)).foldl max 0) - key.length))
    simpa only [Function.comp, text, String.append_assoc] using hline

/-! ## Fields -/

/-- Whether a field may be declared by these characters. -/
def isDeclared (name type : List Char) : Bool := name.all isPlain && type.all isPlain && !name.contains '('

/-- A field beside its counterpart: the same field, or two that start with different texts. -/
inductive Field.Alike : Field → Field → Prop
  | same {name type : List Char} (hdeclared : isDeclared name type = true) {initial : Option String}
    (hinitial : ∀ value ∈ initial, Piece value) :
    Field.Alike ⟨String.ofList name, String.ofList type, initial⟩ ⟨String.ofList name, String.ofList type, initial⟩
  | quoted {name type : List Char} (hdeclared : isDeclared name type = true) (x y : String) :
    Field.Alike ⟨String.ofList name, String.ofList type, some (text x)⟩
      ⟨String.ofList name, String.ofList type, some (text y)⟩

namespace Field.Alike

/-- A field that starts with a value. -/
theorem value {name type : List Char} (hdeclared : isDeclared name type = true) {initial : String}
    (hinitial : Piece initial) :
    Field.Alike ⟨String.ofList name, String.ofList type, some initial⟩
      ⟨String.ofList name, String.ofList type, some initial⟩ :=
  .same hdeclared fun _ hvalue => Option.some.inj hvalue ▸ hinitial

/-- A field that the constructor leaves alone. -/
theorem bare {name type : List Char} (hdeclared : isDeclared name type = true) :
    Field.Alike ⟨String.ofList name, String.ofList type, none⟩ ⟨String.ofList name, String.ofList type, none⟩ :=
  .same hdeclared nofun

theorem declared {name type : List Char} (h : isDeclared name type = true) :
    Plain (String.ofList name) ∧ Plain (String.ofList type) ∧ '(' ∉ name := by
  simp only [isDeclared, Bool.and_eq_true, Bool.not_eq_true', List.contains_eq_mem, decide_eq_false_iff_not] at h
  exact ⟨plain_ofList h.1.1, plain_ofList h.1.2, h.2⟩

variable {fields others : List Field}

/-- The rows of the declaration. -/
theorem alikeRows_declared (h : List.Forall₂ Field.Alike fields others) :
    List.Forall₂ AlikeRow (fields.map fun f => (f.name, f.type)) (others.map fun f => (f.name, f.type)) := by
  induction h with
  | nil => exact .nil
  | cons hfield _ ih =>
    refine .cons ?_ ih
    cases hfield with
    | same hdeclared => exact .same (declared hdeclared).1 (declared hdeclared).2.1.piece
    | quoted hdeclared => exact .same (declared hdeclared).1 (declared hdeclared).2.1.piece

/-- The rows of the constructor. -/
theorem alikeRows_initial (h : List.Forall₂ Field.Alike fields others) :
    List.Forall₂ AlikeRow (fields.filterMap fun f => f.initial.map fun v => (f.name ++ ":", v))
      (others.filterMap fun f => f.initial.map fun v => (f.name ++ ":", v)) := by
  have hcolon : Plain ":" := plain_ofList (by decide)
  induction h with
  | nil => exact .nil
  | cons hfield _ ih =>
    cases hfield with
    | @same name type hdeclared initial hinitial =>
      cases initial with
      | none => exact ih
      | some value => exact .cons (.same ((declared hdeclared).1.append hcolon) (hinitial value rfl)) ih
    | @quoted name type hdeclared x y =>
      obtain ⟨hname, -, hopen⟩ := declared hdeclared
      have hkey : '(' ∉ (String.ofList name ++ ":").toList := by simpa using hopen
      exact .cons (.quoted (hname.append hcolon) hkey x y) ih

end Field.Alike

/-! ## Kinds of widgets -/

/-- What a kind puts into the struct of a widget beside what it puts there without its texts: some fields start
with other texts, and nothing else changes. -/
structure StructParts.Alike (parts other : StructParts) : Prop where
  same : other = { parts with fields := other.fields }
  fields : List.Forall₂ Field.Alike parts.fields other.fields

theorem alike_textParts (p : TextProperties) : (textParts p).Alike (textParts p.withoutTexts) where
  same := rfl
  fields := by
    refine .cons (.quoted (by decide) _ _) ?_
    refine .cons (.value (by decide) (piece_document _)) ?_
    refine .cons (.value (by decide) (Literal.plain_flag _).piece) ?_
    refine .cons (.bare (by decide)) ?_
    exact .cons (.bare (by decide)) .nil

theorem alike_lineChartParts (p : LineChartProperties) (labels : List String) (values : List Int) :
    (lineChartParts p labels values).Alike (lineChartParts p.withoutTexts labels values) where
  same := rfl
  fields := by
    refine .cons (.value (by decide) (piece_strings _)) ?_
    refine .cons (.value (by decide) (piece_floats _)) ?_
    refine .cons (.quoted (by decide) _ _) ?_
    refine .cons (.quoted (by decide) _ _) ?_
    refine .cons (.value (by decide) (Literal.plain_flag _).piece) ?_
    refine .cons (.value (by decide) (Literal.plain_flag _).piece) ?_
    refine .cons (.value (by decide) (Number.plain_intText _).piece) ?_
    exact .cons (.bare (by decide)) .nil

theorem alike_barChartParts (p : BarChartProperties) (sample : List (String × Int)) :
    (barChartParts p sample).Alike (barChartParts p sample) where
  same := rfl
  fields := by
    refine .cons (.value (by decide) (piece_bars _)) ?_
    refine .cons (.value (by decide) (piece_document _)) ?_
    refine .cons (.value (by decide) (Literal.plain_flag _).piece) ?_
    refine .cons (.value (by decide) (Literal.plain_flag _).piece) ?_
    exact .cons (.value (by decide) (Number.plain_intText _).piece) .nil

theorem alike_tableParts (p : TableProperties) (headers : List String) (rows : List (List String)) :
    (tableParts p headers rows).Alike (tableParts p headers rows) where
  same := rfl
  fields := by
    refine .cons (.value (by decide) (piece_strings _)) ?_
    refine .cons (.value (by decide) (piece_stringRows _)) ?_
    refine .cons (.value (by decide) (Literal.plain_flag _).piece) ?_
    refine .cons (.value (by decide) (Literal.plain_flag _).piece) ?_
    refine .cons (.value (by decide) (Literal.plain_flag _).piece) ?_
    exact .cons (.value (by decide) (Number.plain_intText _).piece) .nil

theorem alike_progressBarParts (p : ProgressBarProperties) (percent : Int) :
    (progressBarParts p percent).Alike (progressBarParts p percent) where
  same := rfl
  fields := by
    refine .cons (.value (by decide) (Literal.plain_float _).piece) ?_
    refine .cons (.value (by decide) (Literal.plain_flag _).piece) ?_
    refine .cons (.value (by decide) (Literal.plain_flag _).piece) ?_
    refine .cons (.value (by decide) (Literal.plain_float _).piece) ?_
    exact .cons (.value (by decide) (Literal.plain_float _).piece) .nil

theorem alike_sparklineParts (p : SparklineProperties) (values : List Int) :
    (sparklineParts p values).Alike (sparklineParts p values) where
  same := rfl
  fields := by
    refine .cons (.value (by decide) (piece_floats _)) ?_
    refine .cons (.value (by decide) (piece_document _)) ?_
    refine .cons (.value (by decide) (Literal.plain_flag _).piece) ?_
    exact .cons (.value (by decide) (Literal.plain_flag _).piece) .nil

theorem alike_gaugeParts (p : GaugeProperties) (value : Number) :
    (gaugeParts p value).Alike (gaugeParts p.withoutTexts value) where
  same := rfl
  fields := by
    refine .cons (.value (by decide) (Literal.plain_float _).piece) ?_
    refine .cons (.value (by decide) (Literal.plain_float _).piece) ?_
    refine .cons (.value (by decide) (Literal.plain_float _).piece) ?_
    refine .cons (.value (by decide) (Literal.plain_flag _).piece) ?_
    exact .cons (.quoted (by decide) _ _) .nil

theorem alike_logViewerParts (p : LogViewerProperties) (seed : List (String × String)) :
    (logViewerParts p seed).Alike (logViewerParts p.withoutTexts seed) where
  same := rfl
  fields := by
    refine .cons (.value (by decide) (Number.plain_intText _).piece) ?_
    refine .cons (.value (by decide) (Literal.plain_flag _).piece) ?_
    refine .cons (.value (by decide) (Literal.plain_flag _).piece) ?_
    refine .cons (.quoted (by decide) _ _) ?_
    refine .cons (.value (by decide) (piece_pairs _)) ?_
    refine .cons (.bare (by decide)) ?_
    exact .cons (.bare (by decide)) .nil

theorem alike_metricCardParts (p : MetricCardProperties) (value : Number) (previous : Option Number)
    (history : List Number) :
    (metricCardParts p value previous history).Alike (metricCardParts p.withoutTexts value previous history) where
  same := rfl
  fields := by
    have hknown : ∀ text ∈ previous.map Literal.float, Piece text := by
      intro text htext
      obtain ⟨n, -, rfl⟩ := Option.map_eq_some_iff.1 htext
      exact (Literal.plain_float n).piece
    have hflag : ∀ text ∈ previous.map fun _ => "true", Piece text := by
      intro text htext
      obtain ⟨n, -, rfl⟩ := Option.map_eq_some_iff.1 htext
      exact Json.plain_true.piece
    refine .cons (.quoted (by decide) _ _) ?_
    refine .cons (.value (by decide) (piece_document _)) ?_
    refine .cons (.value (by decide) (Literal.plain_flag _).piece) ?_
    refine .cons (.value (by decide) (Literal.plain_flag _).piece) ?_
    refine .cons (.value (by decide) (Literal.plain_float _).piece) ?_
    refine .cons (.same (by decide) hknown) ?_
    refine .cons (.same (by decide) hflag) ?_
    exact .cons (.value (by decide) (piece_floats _)) .nil

theorem alike_placeholderParts (w : Widget) : (placeholderParts w).Alike (placeholderParts w.withoutTexts) where
  same := rfl
  fields := .cons (.value (by decide) (piece_document _)) .nil

theorem alike_partsOf (b : Behavior) : (partsOf b).Alike (partsOf b.withoutTexts) := by
  obtain ⟨w, simulate, state⟩ := b
  cases state with
  | text p => exact alike_textParts p
  | lineChart p labels values => exact alike_lineChartParts p labels values
  | barChart p sample => exact alike_barChartParts p sample
  | table p headers rows => exact alike_tableParts p headers rows
  | progressBar p percent => exact alike_progressBarParts p percent
  | sparkline p values => exact alike_sparklineParts p values
  | gauge p value => exact alike_gaugeParts p value
  | logViewer p seed => exact alike_logViewerParts p seed
  | metricCard p value previous history => exact alike_metricCardParts p value previous history
  | unknown => exact alike_placeholderParts w

/-- A fixed line around a number. -/
theorem tidy_counted {before after : List Char} (hbefore : before.all isPlain = true) (hafter : isPiece after = true)
    (hquote : after.head?.all (!isQuote ·) = true) (n : Nat) :
    Tidy (String.ofList before ++ toString n ++ String.ofList after) :=
  tidy_around hbefore hafter hquote (plain_toString n).piece

/-- A method of the type with this name. -/
theorem tidy_method {name : String} (hname : Plain name) {signature : String} (h : Plain signature) :
    Tidy ("func (w *" ++ name ++ signature) := by
  have hfunc : Plain "func (w *" := plain_ofList (by decide)
  exact ((hfunc.append hname).append h).piece.tidy

/-- The lines that a kind of widget brings to the methods of its struct. -/
def StructParts.code (parts : StructParts) (name : String) : List String :=
  parts.render ++ parts.update ++ parts.tick.getD [] ++ parts.init ++ parts.methods name

theorem tidy_code (b : Behavior) {name : String} (hname : Plain name) : TidyLines ((partsOf b).code name) := by
  obtain ⟨w, simulate, state⟩ := b
  cases state with
  | lineChart p labels values =>
    have hseries : Tidy ("        lines = append(lines, fmt.Sprintf(\"%s " ++ Display.Sample.chartSeries ++
        " (%s)\", point, w.yLabel))") := tidy_ofList_append (by decide)
    apply Spelled.tidyLines
    · repeat' first | with_reducible exact hseries | constructor
    · decide
  | barChart p sample =>
    have hvertical : Plain ") renderVertical(bars []bar) string \x7b" := plain_ofList (by decide)
    have hhorizontal : Plain ") renderHorizontal(bars []bar) string \x7b" := plain_ofList (by decide)
    apply Spelled.tidyLines
    · repeat' first
        | with_reducible exact tidy_method hname hvertical
        | with_reducible exact tidy_method hname hhorizontal
        | constructor
    · decide
  | progressBar p percent =>
    have hpercent : Plain "    w.percent += " := plain_ofList (by decide)
    have hstep := (hpercent.append (plain_toString Display.progressStep)).piece.tidy
    apply Spelled.tidyLines
    · repeat' first | with_reducible exact hstep | constructor
    · decide
  | sparkline p values =>
    have hstart : Plain "    step := float64(rand.Intn(" := plain_ofList (by decide)
    have hminus : Plain ") - " := plain_ofList (by decide)
    have hend : Plain ")" := plain_ofList (by decide)
    have hstep := ((((hstart.append (plain_toString (2 * Display.sparklineStep + 1))).append hminus).append
      (plain_toString Display.sparklineStep)).append hend).piece.tidy
    apply Spelled.tidyLines
    · repeat' first
        | with_reducible exact hstep
        | with_reducible exact tidy_counted (by decide) (by decide) (by decide) _
        | constructor
    · decide
  | logViewer p seed =>
    have hrange : Plain "    for _, entry := range " := plain_ofList (by decide)
    have hopening : Plain " \x7b" := plain_ofList (by decide)
    have hseed := (piece_between hrange (piece_pairs seed) hopening).tidy
    have happend : Plain ") appendEntry(level, message string) \x7b" := plain_ofList (by decide)
    apply Spelled.tidyLines
    · repeat' first
        | with_reducible exact hseed
        | with_reducible exact tidy_method hname happend
        | constructor
    · decide
  | metricCard p value previous history =>
    have hscaled : Plain "    drift := (rand.Float64()*2 - 1) * " := plain_ofList (by decide)
    have hshare : Plain Display.metricCardDrift := plain_ofList (by decide)
    have hdrift := (hscaled.append hshare).piece.tidy
    have hrecord : Plain ") record(v float64) \x7b" := plain_ofList (by decide)
    apply Spelled.tidyLines
    · repeat' first
        | with_reducible exact hdrift
        | with_reducible exact tidy_method hname hrecord
        | with_reducible exact tidy_counted (by decide) (by decide) (by decide) _
        | constructor
    · decide
  | _ =>
    -- Everything that is left is fixed text.
    apply Spelled.tidyLines
    · repeat constructor
    · decide

theorem unbroken_description (b : Behavior) : Unbroken (partsOf b).description := by
  obtain ⟨w, simulate, state⟩ := b
  cases state <;> exact (plain_ofList (by decide)).piece.unbroken

/-! ## Widgets -/

theorem tidy_tickLines {name : String} (hname : Plain name) {parts : StructParts}
    (htick : TidyLines (parts.tick.getD [])) (b : Behavior) : TidyLines (tickLines name parts b) := by
  have hopening : Plain ") Tick() \x7b" := plain_ofList (by decide)
  have hempty : Plain ") Tick() \x7b\x7d" := plain_ofList (by decide)
  have hclosing : Tidy "\x7d" := tidy_ofList (by decide)
  unfold tickLines
  split
  · rename_i body ms hbody hms
    rw [hbody] at htick
    refine (((TidyLines.cons (tidy_method hname hopening) .nil).append ?_).append htick).append (.cons hclosing .nil)
    split
    · exact .nil
    · refine .cons (tidy_ofList (by decide)) ?_
      refine .cons (tidy_counted (by decide) (by decide) (by decide) _) ?_
      refine .cons (tidy_ofList (by decide)) ?_
      refine .cons (tidy_ofList (by decide)) ?_
      exact .cons (tidy_ofList (by decide)) .nil
  · exact .cons (tidy_method hname hempty) .nil

theorem alike_allFields (b : Behavior) {parts other : StructParts} (h : parts.Alike other) :
    List.Forall₂ Field.Alike (allFields b parts) (allFields b.withoutTexts other) := by
  have htick : other.tick = parts.tick := by rw [h.same]
  have hperiod : other.period? b.withoutTexts = parts.period? b := by
    rw [StructParts.period?, StructParts.period?, htick, b.tickMs_withoutTexts]
  rw [allFields, allFields, hperiod]
  refine List.rel_append (List.rel_append ?_ ?_) h.fields
  · refine .cons (.quoted (by decide) _ _) ?_
    refine .cons (.value (by decide) (Number.plain_intText _).piece) ?_
    exact .cons (.value (by decide) (Number.plain_intText _).piece) .nil
  · split
    · exact .cons (.bare (by decide)) .nil
    · exact .nil

theorem tidy_structComment (b : Behavior) {description : String} (h : Unbroken description) :
    Tidy ("// " ++ b.typeName ++ " is the " ++ description ++ " widget " ++ commentText b.widget.id ++ ".") := by
  have hname : Plain b.typeName := Name.plain_typeName _
  have his : Plain " is the " := plain_ofList (by decide)
  have hwidget : Plain " widget " := plain_ofList (by decide)
  have hpoint : Plain "." := plain_ofList (by decide)
  simp only [String.append_assoc]
  exact tidy_comment (hname.piece.unbroken.append (his.piece.unbroken.append (h.append
    (hwidget.piece.unbroken.append ((unbroken_commentText _).append hpoint.piece.unbroken)))))

theorem tidy_constructorLines {name : String} (hname : Plain name) :
    TidyLines ["\x7d", "", "func New" ++ name ++ "() *" ++ name ++ " \x7b", "    w := &" ++ name ++ "\x7b"] := by
  have hfunc : Plain "func New" := plain_ofList (by decide)
  have hresult : Plain "() *" := plain_ofList (by decide)
  refine .cons (tidy_ofList (by decide)) ?_
  refine .cons (tidy_ofList (by decide)) ?_
  refine .cons (tidy_named ((hfunc.append hname).append hresult) hname (plain_ofList (by decide))) ?_
  exact .cons (tidy_named (plain_ofList (by decide)) hname (plain_ofList (by decide))) .nil

theorem tidy_titleLines {name : String} (hname : Plain name) :
    TidyLines ["    return w", "\x7d", "", "func (w *" ++ name ++ ") Title() string \x7b return w.title \x7d", "",
      "func (w *" ++ name ++ ") Render() string \x7b"] := by
  refine .cons (tidy_ofList (by decide)) ?_
  refine .cons (tidy_ofList (by decide)) ?_
  refine .cons (tidy_ofList (by decide)) ?_
  refine .cons (tidy_method hname (plain_ofList (by decide))) ?_
  refine .cons (tidy_ofList (by decide)) ?_
  exact .cons (tidy_method hname (plain_ofList (by decide))) .nil

theorem tidy_updateLines {name : String} (hname : Plain name) :
    TidyLines ["\x7d", "", "func (w *" ++ name ++ ") Update(value interface\x7b\x7d) \x7b"] := by
  refine .cons (tidy_ofList (by decide)) ?_
  refine .cons (tidy_ofList (by decide)) ?_
  exact .cons (tidy_method hname (plain_ofList (by decide))) .nil

/-- The fields of the constructor are all that a text of the widget reaches. -/
theorem alike_structLines (b : Behavior) (comments : Bool) :
    AlikeLines (structLines b comments (partsOf b))
      (structLines b.withoutTexts comments (partsOf b.withoutTexts)) := by
  have hname : Plain b.typeName := Name.plain_typeName _
  have halike := alike_partsOf b
  have hcode := tidy_code b hname
  simp only [StructParts.code, TidyLines, List.forall_mem_append] at hcode
  obtain ⟨⟨⟨⟨hrender, hupdate⟩, htick⟩, hinit⟩, hmethods⟩ := hcode
  have hcomment := TidyLines.cons (tidy_structComment b (unbroken_description b)) .nil
  have htype : TidyLines ["type " ++ b.typeName ++ " struct \x7b"] :=
    .cons (tidy_named (plain_ofList (by decide)) hname (plain_ofList (by decide))) .nil
  have hrows := alike_allFields b halike
  have hdeclared := alike_aligned (Field.Alike.alikeRows_declared hrows) "    " "" (plain_ofList (by decide))
    plain_empty (by decide)
  have hassigned := alike_aligned (Field.Alike.alikeRows_initial hrows) "        " "," (plain_ofList (by decide))
    (plain_ofList (by decide)) (by decide)
  have hclosing : TidyLines ["    \x7d"] := .cons (tidy_ofList (by decide)) .nil
  have hend : TidyLines ["\x7d", ""] := .cons (tidy_ofList (by decide)) (.cons (tidy_ofList (by decide)) .nil)
  have hmore : TidyLines (if ((partsOf b).methods b.typeName).isEmpty then []
      else "" :: (partsOf b).methods b.typeName) := by
    have hblank : Tidy "" := tidy_ofList (by decide)
    split
    · exact .nil
    · exact .cons hblank hmethods
  -- Beside the fields the two structs are the same.
  have hsame := halike.same
  generalize partsOf b = parts, partsOf b.withoutTexts = other at *
  have hticks : tickLines b.typeName other b.withoutTexts = tickLines b.typeName parts b := by
    rw [tickLines, tickLines, b.tickMs_withoutTexts, hsame]
  have hdescription : other.description = parts.description := by rw [hsame]
  have hotherInit : other.init = parts.init := by rw [hsame]
  have hotherRender : other.render = parts.render := by rw [hsame]
  have hotherUpdate : other.update = parts.update := by rw [hsame]
  have hotherMethods : other.methods = parts.methods := by rw [hsame]
  have htypeName : b.withoutTexts.typeName = b.typeName := rfl
  have hid : b.withoutTexts.widget.id = b.widget.id := rfl
  simp only [String.append_empty] at hdeclared
  simp only [structLines, hticks, hdescription, hotherInit, hotherRender, hotherUpdate, hotherMethods, htypeName,
    hid]
  exact (((((((((((((TidyLines.optional hcomment).alikeLines.append htype.alikeLines).append hdeclared).append
    (tidy_constructorLines hname).alikeLines).append hassigned).append hclosing.alikeLines).append
    (TidyLines.alikeLines hinit)).append (tidy_titleLines hname).alikeLines).append
    (TidyLines.alikeLines hrender)).append (tidy_updateLines hname).alikeLines).append
    (TidyLines.alikeLines hupdate)).append hend.alikeLines).append
    (tidy_tickLines hname htick b).alikeLines).append hmore.alikeLines

/-- A widget of the program is alike to the one without its texts. -/
theorem alike_widget (b : Behavior) (o : Options) : AlikeTexts (widget b o) (widget b.withoutTexts o) :=
  (AlikeTexts.joinLines (alike_structLines b o.includeComments)).tabIndent

/-! ## Shared code -/

/-- The fixed lines of every program. -/
theorem tidy_fixed : TidyLines (helperFunctions ++ sourceTypes ++ collector ++ updater ++ viewLines) := by
  apply Spelled.tidyLines
  · repeat constructor
  · decide +kernel

theorem tidy_helperConstants : TidyLines helperConstants := by
  have hquoted {before : List Char} (hbefore : before.all isPlain = true) (s : String) :
      Tidy (String.ofList before ++ documentQuoted s) :=
    ((plain_ofList hbefore).appendPiece (piece_document s)).tidy
  have hcounted {before : List Char} (hbefore : before.all isPlain = true) (n : Nat) :
      Tidy (String.ofList before ++ toString n) :=
    ((plain_ofList hbefore).append (plain_toString n)).piece.tidy
  refine .cons (tidy_ofList (by decide)) ?_
  iterate 11 refine .cons (hquoted (by decide) _) ?_
  iterate 4 refine .cons (hcounted (by decide) _) ?_
  exact .cons (tidy_ofList (by decide)) .nil

theorem alike_helpers : AlikeTexts helpers helpers := by
  have hfixed := tidy_fixed
  simp only [TidyLines, List.forall_mem_append] at hfixed
  obtain ⟨⟨⟨⟨hfunctions, -⟩, -⟩, -⟩, -⟩ := hfixed
  exact (tidy_helperConstants.append hfunctions).alikeTexts.tabIndent

/-! ## Data sources -/

theorem tidy_constants (comments : Bool) : TidyLines (constants comments) := by
  have hname : Plain "var valueKeys = " := plain_ofList (by decide)
  have hvalueKeys := (hname.appendPiece (piece_strings Display.valueKeys)).tidy
  refine .append (.optional (.cons (tidy_ofList (by decide)) .nil)) ?_
  refine .cons (tidy_ofList (by decide)) ?_
  refine .cons (tidy_counted (by decide) (by decide) (by decide) _) ?_
  refine .cons (tidy_counted (by decide) (by decide) (by decide) _) ?_
  refine .cons (tidy_ofList (by decide)) ?_
  refine .cons (tidy_ofList (by decide)) ?_
  exact .cons hvalueKeys .nil

theorem alike_sourceTable {d : Design} {table : String} (h : sourceTable d = .ok table) :
    AlikeTexts table table := by
  obtain ⟨rows, hrows, h⟩ := bind_ok_iff.1 h
  rw [← Except.ok.inj h]
  have htable : TidyLines rows :=
    forall_right_of_forall₂ (forall₂_of_mapM_ok hrows) fun _ _ hrow => (piece_sourceRow hrow.2).tidy
  refine TidyLines.alikeTexts (.append (.append ?_ htable) ?_)
  · exact .cons (tidy_ofList (by decide)) (.cons (tidy_ofList (by decide)) .nil)
  · exact .cons (tidy_ofList (by decide)) (.cons (tidy_ofList (by decide)) .nil)

theorem alike_dataSources {d : Design} {comments : Bool} {text : String} (h : dataSources d comments = .ok text) :
    AlikeTexts text text := by
  have hfixed := tidy_fixed
  simp only [TidyLines, List.forall_mem_append] at hfixed
  obtain ⟨⟨⟨⟨-, htypes⟩, hcollector⟩, hupdater⟩, -⟩ := hfixed
  obtain ⟨table, htable, h⟩ := bind_ok_iff.1 h
  rw [← Except.ok.inj h]
  refine (AlikeTexts.joinSections (List.rel_append (List.rel_append ?_ ?_) ?_)).tabIndent
  · exact .cons (tidy_constants comments).alikeTexts
      (.cons (TidyLines.alikeTexts htypes) (.cons (alike_sourceTable htable) .nil))
  · split
    · exact .cons (TidyLines.alikeTexts hcollector) .nil
    · exact .nil
  · exact .cons (TidyLines.alikeTexts hupdater) .nil

/-! ## The application -/

theorem drawingOrder_withoutTexts (s : Scene) :
    drawingOrder s.withoutTexts = (drawingOrder s).map Behavior.withoutTexts := by
  have hsame (a b : Behavior) : drawnBefore a b = drawnBefore a.withoutTexts b.withoutTexts := rfl
  rw [drawingOrder, drawingOrder, List.map_mergeSort fun a _ b _ => hsame a b]
  rfl

theorem slot_withoutTexts (theme : Theme) (b : Behavior) : slot theme b.withoutTexts = slot theme b := by
  unfold slot
  rw [b.colors_withoutTexts]
  rfl

/-- The lines of the application that no widget has a part in. -/
theorem tidy_appLines (s : Scene) :
    TidyLines (styleLines s.design.settings.theme ++ timerLines s ++ updateLines s) := by
  have hstart : Plain "var titleStyle = lipgloss.NewStyle().Bold(true).Foreground(lipgloss.Color(" :=
    plain_ofList (by decide)
  have hend : Plain "))" := plain_ofList (by decide)
  have htick : Plain "    return tea.Tick(" := plain_ofList (by decide)
  have hunit : Plain "*time.Millisecond, func(t time.Time) tea.Msg \x7b" := plain_ofList (by decide)
  have haccent : Piece (text (Display.ansiColor (Display.palette s.design.settings.theme).accent)) :=
    piece_document _
  have htitle := (piece_between hstart haccent hend).tidy
  have hanimation := tidy_named htick (plain_toString Display.animationTickMs) hunit
  have hrefresh := tidy_named htick (Number.plain_intText s.design.settings.refreshRate) hunit
  refine TidyLines.append (.append ?_ (.append ?_ ?_)) (.append (.append ?_ (.optional ?_)) ?_)
  · refine .cons htitle ?_
    apply Spelled.tidyLines
    · repeat constructor
    · decide
  · refine .cons (tidy_ofList (by decide)) (.cons hanimation ?_)
    apply Spelled.tidyLines
    · repeat constructor
    · decide
  · split
    · refine .cons (tidy_ofList (by decide)) (.cons hrefresh ?_)
      apply Spelled.tidyLines
      · repeat constructor
      · decide
    · apply Spelled.tidyLines
      · repeat constructor
      · decide
  · apply Spelled.tidyLines
    · repeat constructor
    · decide
  · apply Spelled.tidyLines
    · repeat constructor
    · decide
  · apply Spelled.tidyLines
    · repeat constructor
    · decide

theorem tidy_slots (s : Scene) :
    TidyLines ((drawingOrder s).map fun b => "            " ++ slot s.design.settings.theme b ++ ",") := by
  have hindent : Plain "            " := plain_ofList (by decide)
  have hcomma : Plain "," := plain_ofList (by decide)
  intro line hline
  obtain ⟨b, -, rfl⟩ := List.mem_map.1 hline
  exact (piece_between hindent (piece_slot _ b) hcomma).tidy

/-- The comment on the model is the only line with a text of the design. -/
theorem alike_modelComment (s : Scene) :
    Alike ("// model is the " ++ commentText s.design.metadata.name ++ " dashboard.")
      ("// model is the " ++ commentText s.withoutTexts.design.metadata.name ++ " dashboard.") := by
  have hstart : Plain "model is the " := plain_ofList (by decide)
  have hend : Plain " dashboard." := plain_ofList (by decide)
  have hcomment (name : String) : Unbroken ("model is the " ++ (commentText name ++ " dashboard.")) :=
    hstart.piece.unbroken.append ((unbroken_commentText name).append hend.piece.unbroken)
  have hmark : "// model is the " = "// " ++ "model is the " := by simp
  simp only [hmark, String.append_assoc]
  exact .comments (hcomment _) (hcomment _)

theorem alike_modelLines (s : Scene) : AlikeLines (modelLines s) (modelLines s.withoutTexts) := by
  have hfed : s.withoutTexts.hasDataSources = s.hasDataSources := rfl
  have hmetrics : s.withoutTexts.design.usesSystemMetrics = s.design.usesSystemMetrics :=
    s.design.usesSystemMetrics_withoutTexts
  have hsettings : s.withoutTexts.design.settings = s.design.settings := rfl
  have hslots : (drawingOrder s.withoutTexts).map (fun b => "            " ++ slot s.design.settings.theme b ++ ",") =
      (drawingOrder s).map fun b => "            " ++ slot s.design.settings.theme b ++ "," := by
    rw [drawingOrder_withoutTexts, List.map_map]
    exact List.map_congr_left fun b _ => by simp only [Function.comp, slot_withoutTexts]
  simp only [modelLines, hfed, hmetrics, hsettings, hslots]
  have hmessages : TidyLines ["type refreshMsg time.Time", "type dataMsg map[string]interface\x7b\x7d"] :=
    .cons (tidy_ofList (by decide)) (.cons (tidy_ofList (by decide)) .nil)
  have hmodel : AlikeLines
      ["", "// model is the " ++ commentText s.design.metadata.name ++ " dashboard.", "type model struct \x7b",
        "    slots   []*widgetSlot"]
      ["", "// model is the " ++ commentText s.withoutTexts.design.metadata.name ++ " dashboard.",
        "type model struct \x7b", "    slots   []*widgetSlot"] :=
    .cons (.same (tidy_ofList (by decide))) (.cons (alike_modelComment s)
      (.cons (.same (tidy_ofList (by decide))) (.cons (.same (tidy_ofList (by decide))) .nil)))
  have hupdater : TidyLines ["    updater *DataSourceUpdater"] := .cons (tidy_ofList (by decide)) .nil
  have hnew : TidyLines ["\x7d", "", "func newModel() model \x7b"] :=
    .cons (tidy_ofList (by decide)) (.cons (tidy_ofList (by decide)) (.cons (tidy_ofList (by decide)) .nil))
  have hdeclared : TidyLines ["    var metrics MetricSource"] := .cons (tidy_ofList (by decide)) .nil
  have hcollector : TidyLines ["    metrics = NewSystemMetricsCollector()"] := .cons (tidy_ofList (by decide)) .nil
  have hreturn : TidyLines ["    return model\x7b", "        slots: []*widgetSlot\x7b"] :=
    .cons (tidy_ofList (by decide)) (.cons (tidy_ofList (by decide)) .nil)
  have hslotsEnd : TidyLines ["        \x7d,"] := .cons (tidy_ofList (by decide)) .nil
  have hpolled : TidyLines ["        updater: NewDataSourceUpdater(dataSourceConfigs(), metrics),"] :=
    .cons (tidy_ofList (by decide)) .nil
  have hend : TidyLines ["    \x7d", "\x7d", ""] :=
    .cons (tidy_ofList (by decide)) (.cons (tidy_ofList (by decide)) (.cons (tidy_ofList (by decide)) .nil))
  exact (((((((((TidyLines.optional hmessages).alikeLines.append hmodel).append
    (TidyLines.optional hupdater).alikeLines).append hnew.alikeLines).append
    (TidyLines.optional (hdeclared.append (TidyLines.optional hcollector))).alikeLines).append
    hreturn.alikeLines).append (tidy_slots s).alikeLines).append hslotsEnd.alikeLines).append
    (TidyLines.optional hpolled).alikeLines).append hend.alikeLines

theorem alike_app (s : Scene) : AlikeTexts (app s) (app s.withoutTexts) := by
  have hfixed := tidy_fixed
  have happ := tidy_appLines s
  simp only [TidyLines, List.forall_mem_append] at hfixed happ
  obtain ⟨⟨hstyle, htimers⟩, hupdate⟩ := happ
  have hcomment : TidyLines (if s.options.includeComments then ["// Application"] else []) :=
    .optional (.cons (tidy_ofList (by decide)) .nil)
  exact (AlikeTexts.joinLines ((((((hcomment.alikeLines.append (TidyLines.alikeLines hstyle)).append
    (alike_modelLines s)).append (TidyLines.alikeLines htimers)).append
    (TidyLines.alikeLines hupdate)).append (TidyLines.alikeLines hfixed.2)))).tabIndent

theorem alike_entryPoint : AlikeTexts entryPoint entryPoint := by
  refine AlikeTexts.tabIndent (TidyLines.alikeTexts ?_)
  apply Spelled.tidyLines
  · repeat constructor
  · decide

end DashboardCompiler.BubbleTea
