import DashboardCompiler.Proofs.Generation.Texts
import DashboardCompiler.Proofs.Target.Rows
import DashboardCompiler.Proofs.Text.Tidy

/-!
# User text in Ratatui programs

Text that a design only shows reaches the struct of a widget as an owned string in its constructor and in the
comment above it, and the other sections in rows, slots and comments. Each of these stays on its line, so the
lines of the generated text are the lines that a section was put together from.
-/

namespace DashboardCompiler.Ratatui

open Code Text

/-! ## Literals -/

theorem piece_ownedText (s : String) : Piece (ownedText s) :=
  piece_between (plain_ofList (by decide)) (piece_rust s) (plain_ofList (by decide))

theorem piece_vector {items : List String} (h : ∀ s ∈ items, Piece s) : Piece (vector items) := by
  have hempty : Plain "Vec::new()" := plain_ofList (by decide)
  unfold vector
  split
  · exact hempty.piece
  · exact piece_between (plain_ofList (by decide)) (piece_list h) (plain_ofList (by decide))

theorem piece_floats (values : List Number) : Piece (floats values) := by
  refine piece_vector fun s hs => ?_
  obtain ⟨n, -, rfl⟩ := List.mem_map.1 hs
  exact (Literal.plain_float n).piece

theorem piece_strings (values : List String) : Piece (strings values) := by
  refine piece_between (plain_ofList (by decide)) (piece_list fun s hs => ?_) (plain_ofList (by decide))
  obtain ⟨value, -, rfl⟩ := List.mem_map.1 hs
  exact piece_rust value

theorem piece_stringRows (rows : List (List String)) : Piece (stringRows rows) := by
  refine piece_vector fun s hs => ?_
  obtain ⟨row, -, rfl⟩ := List.mem_map.1 hs
  exact piece_strings row

theorem piece_pairs (items : List (String × String)) : Piece (pairs items) := by
  refine piece_between (plain_ofList (by decide)) (piece_list fun s hs => ?_) (plain_ofList (by decide))
  obtain ⟨p, -, rfl⟩ := List.mem_map.1 hs
  exact piece_pair p

theorem piece_bars (items : List (String × Int)) : Piece (bars items) := by
  have hopening : Plain "(" := plain_ofList (by decide)
  have hclosing : Plain ")" := plain_ofList (by decide)
  refine piece_between (plain_ofList (by decide)) (piece_list fun s hs => ?_) (plain_ofList (by decide))
  obtain ⟨⟨label, n⟩, -, rfl⟩ := List.mem_map.1 hs
  exact (((hopening.appendPiece (piece_rust label)).appendPlain plain_comma).appendPlain
    (Literal.plain_float _)).appendPlain hclosing

theorem plain_optionalFloat (n : Option Number) : Plain (optionalFloat n) := by
  have hopening : Plain "Some(" := plain_ofList (by decide)
  have hclosing : Plain ")" := plain_ofList (by decide)
  cases n with
  | none => exact plain_ofList (by decide)
  | some n => exact (hopening.append (Literal.plain_float n)).append hclosing

/-! ## Fields -/

/-- A field whose two lines can be read by themselves. -/
structure Field.Tame (f : Field) : Prop where
  name : Plain f.name
  type : Plain f.type
  initial : Piece f.initial

theorem Field.Tame.value {name type : List Char} (h : (name ++ type).all isPlain = true) {initial : String}
    (hinitial : Piece initial) : Field.Tame ⟨String.ofList name, String.ofList type, initial⟩ := by
  rw [List.all_append, Bool.and_eq_true] at h
  exact ⟨plain_ofList h.1, plain_ofList h.2, hinitial⟩

def TameFields (fields : List Field) : Prop := ∀ f ∈ fields, f.Tame

namespace TameFields

theorem nil : TameFields [] := nofun

theorem cons {f : Field} {fields : List Field} (hf : f.Tame) (h : TameFields fields) : TameFields (f :: fields) :=
  List.forall_mem_cons.2 ⟨hf, h⟩

theorem append {fields others : List Field} (h : TameFields fields) (h' : TameFields others) :
    TameFields (fields ++ others) := List.forall_mem_append.2 ⟨h, h'⟩

end TameFields

theorem tame_fields (b : Behavior) : TameFields (partsOf b).fields := by
  obtain ⟨w, simulate, state⟩ := b
  cases state with
  | text p =>
    have hnone : Plain "None" := plain_ofList (by decide)
    refine .cons (.value (by decide) (piece_ownedText _)) ?_
    refine .cons (.value (by decide) (piece_ownedText _)) ?_
    refine .cons (.value (by decide) (Literal.plain_flag _).piece) ?_
    exact .cons (.value (by decide) hnone.piece) .nil
  | lineChart p labels values =>
    refine .cons (.value (by decide) (piece_strings _)) ?_
    refine .cons (.value (by decide) (piece_floats _)) ?_
    refine .cons (.value (by decide) (piece_ownedText _)) ?_
    refine .cons (.value (by decide) (piece_ownedText _)) ?_
    refine .cons (.value (by decide) (Literal.plain_flag _).piece) ?_
    refine .cons (.value (by decide) (Literal.plain_flag _).piece) ?_
    refine .cons (.value (by decide) (Number.plain_intText _).piece) ?_
    exact .cons (.value (by decide) Json.plain_false.piece) .nil
  | barChart p sample =>
    refine .cons (.value (by decide) (piece_bars _)) ?_
    refine .cons (.value (by decide) (piece_ownedText _)) ?_
    refine .cons (.value (by decide) (Literal.plain_flag _).piece) ?_
    refine .cons (.value (by decide) (Literal.plain_flag _).piece) ?_
    exact .cons (.value (by decide) (Number.plain_intText _).piece) .nil
  | table p headers rows =>
    refine .cons (.value (by decide) (piece_strings _)) ?_
    refine .cons (.value (by decide) (piece_stringRows _)) ?_
    refine .cons (.value (by decide) (Literal.plain_flag _).piece) ?_
    refine .cons (.value (by decide) (Literal.plain_flag _).piece) ?_
    refine .cons (.value (by decide) (Literal.plain_flag _).piece) ?_
    exact .cons (.value (by decide) (Number.plain_intText _).piece) .nil
  | progressBar p percent =>
    refine .cons (.value (by decide) (Literal.plain_float _).piece) ?_
    refine .cons (.value (by decide) (Literal.plain_flag _).piece) ?_
    refine .cons (.value (by decide) (Literal.plain_flag _).piece) ?_
    refine .cons (.value (by decide) (Literal.plain_float _).piece) ?_
    exact .cons (.value (by decide) (Literal.plain_float _).piece) .nil
  | sparkline p values =>
    refine .cons (.value (by decide) (piece_floats _)) ?_
    refine .cons (.value (by decide) (piece_ownedText _)) ?_
    refine .cons (.value (by decide) (Literal.plain_flag _).piece) ?_
    exact .cons (.value (by decide) (Literal.plain_flag _).piece) .nil
  | gauge p value =>
    refine .cons (.value (by decide) (Literal.plain_float _).piece) ?_
    refine .cons (.value (by decide) (Literal.plain_float _).piece) ?_
    refine .cons (.value (by decide) (Literal.plain_float _).piece) ?_
    refine .cons (.value (by decide) (Literal.plain_flag _).piece) ?_
    exact .cons (.value (by decide) (piece_ownedText _)) .nil
  | logViewer p seed =>
    have hzero : Plain "0" := plain_ofList (by decide)
    have hempty : Plain "Vec::new()" := plain_ofList (by decide)
    refine .cons (.value (by decide) (Number.plain_intText _).piece) ?_
    refine .cons (.value (by decide) (Literal.plain_flag _).piece) ?_
    refine .cons (.value (by decide) (Literal.plain_flag _).piece) ?_
    refine .cons (.value (by decide) (piece_ownedText _)) ?_
    refine .cons (.value (by decide) hzero.piece) ?_
    exact .cons (.value (by decide) hempty.piece) .nil
  | metricCard p value previous history =>
    refine .cons (.value (by decide) (piece_ownedText _)) ?_
    refine .cons (.value (by decide) (piece_ownedText _)) ?_
    refine .cons (.value (by decide) (Literal.plain_flag _).piece) ?_
    refine .cons (.value (by decide) (Literal.plain_flag _).piece) ?_
    refine .cons (.value (by decide) (Literal.plain_float _).piece) ?_
    refine .cons (.value (by decide) (plain_optionalFloat _).piece) ?_
    exact .cons (.value (by decide) (piece_floats _)) .nil
  | unknown => exact .cons (.value (by decide) (piece_ownedText _)) .nil

theorem tame_timerFields (parts : StructParts) (timer : Option (Nat × List String)) :
    TameFields (timerFields parts timer) := by
  have hzero : Plain "0" := plain_ofList (by decide)
  have hseeded : Plain "Rng::seeded()" := plain_ofList (by decide)
  cases timer with
  | none => exact .nil
  | some timer =>
    refine .append ?_ ?_
    · split
      · exact .nil
      · exact .cons (.value (by decide) hzero.piece) .nil
    · split
      · exact .cons (.value (by decide) hseeded.piece) .nil
      · exact .nil

theorem tame_allFields (b : Behavior) : TameFields (allFields b (partsOf b)) := by
  refine .append (.append ?_ (tame_timerFields _ _)) (tame_fields b)
  refine .cons (.value (by decide) (piece_ownedText _)) ?_
  refine .cons (.value (by decide) (Number.plain_intText _).piece) ?_
  exact .cons (.value (by decide) (Number.plain_intText _).piece) .nil

/-! ## Code -/

/-- The lines that a kind of widget brings to the methods of its struct. -/
def StructParts.code (parts : StructParts) : List String :=
  parts.render ++ parts.update ++ parts.tick.getD [] ++ parts.methods

theorem tidy_code (b : Behavior) : TidyLines (partsOf b).code := by
  obtain ⟨w, simulate, state⟩ := b
  cases state with
  | lineChart p labels values =>
    have hseries : Tidy ("            lines.push(format!(\"\x7b\x7d " ++ Display.Sample.chartSeries ++
        " (\x7b\x7d)\", POINT, self.y_label));") := tidy_ofList_append (by decide)
    apply Spelled.tidyLines
    · repeat' first | with_reducible exact hseries | constructor
    · decide
  | progressBar p percent =>
    have hpercent : Plain "        self.percent += " := plain_ofList (by decide)
    have hend : Plain ";" := plain_ofList (by decide)
    have hstep := tidy_named hpercent (Literal.plain_float (.int Display.progressStep)) hend
    apply Spelled.tidyLines
    · repeat' first | with_reducible exact hstep | constructor
    · decide
  | sparkline p values =>
    have hrange : Plain "        let step = self.rng.range(-" := plain_ofList (by decide)
    have hstart := (hrange.append (plain_toString Display.sparklineStep)).append plain_comma
    have hend : Plain ") as f64;" := plain_ofList (by decide)
    have hstep := tidy_named hstart (plain_toString Display.sparklineStep) hend
    apply Spelled.tidyLines
    · repeat' first
        | with_reducible exact hstep
        | with_reducible exact tidy_around (by decide) (by decide) (by decide) (plain_toString _).piece
        | constructor
    · decide
  | metricCard p value previous history =>
    have hshare : Plain Display.metricCardDrift := plain_ofList (by decide)
    apply Spelled.tidyLines
    · repeat' first
        | with_reducible exact tidy_around (by decide) (by decide) (by decide) (plain_toString _).piece
        | with_reducible exact tidy_around (by decide) (by decide) (by decide) hshare.piece
        | constructor
    · decide
  | _ =>
    -- Everything that is left is fixed text.
    apply Spelled.tidyLines
    · repeat constructor
    · decide

theorem tidy_init (b : Behavior) : TidyLines (partsOf b).init := by
  obtain ⟨w, simulate, state⟩ := b
  cases state with
  | logViewer p seed =>
    have hentries : Plain "        for (level, message) in " := plain_ofList (by decide)
    have hopening : Plain " \x7b" := plain_ofList (by decide)
    have hloop := (piece_between hentries (piece_pairs seed) hopening).tidy
    dsimp only [partsOf, logViewerParts]
    split
    · exact .nil
    · refine .cons hloop ?_
      exact .cons (tidy_ofList (by decide)) (.cons (tidy_ofList (by decide)) .nil)
  | _ => exact .nil

theorem unbroken_description (b : Behavior) : Unbroken (partsOf b).description := by
  obtain ⟨w, simulate, state⟩ := b
  cases state <;> exact (plain_ofList (by decide)).piece.unbroken

/-! ## Widgets -/

theorem tidy_structComment (b : Behavior) {description : String} (h : Unbroken description) :
    Tidy ("/// " ++ description ++ " widget `" ++ commentText b.widget.id ++ "`.") := by
  have hopening : Unbroken " widget `" := unbroken_ofList (by decide)
  have hclosing : Unbroken "`." := unbroken_ofList (by decide)
  have hslashes : Plain "/// " := plain_ofList (by decide)
  have hrest := h.append (hopening.append ((unbroken_commentText b.widget.id).append hclosing))
  simp only [String.append_assoc]
  refine ⟨hslashes.piece.unbroken.append hrest, .inl ?_⟩
  rw [String.toList_append]
  rfl

theorem tidy_declared {fields : List Field} (h : TameFields fields) :
    TidyLines (fields.map fun f => "    " ++ f.name ++ ": " ++ f.type ++ ",") := by
  have hindent : Plain "    " := plain_ofList (by decide)
  have hend : Plain "," := plain_ofList (by decide)
  intro line hline
  obtain ⟨f, hf, rfl⟩ := List.mem_map.1 hline
  exact tidy_named ((hindent.append (h f hf).name).append plain_colon) (h f hf).type hend

theorem tidy_initial {fields : List Field} (h : TameFields fields) :
    TidyLines (fields.map fun f => "            " ++ f.name ++ ": " ++ f.initial ++ ",") := by
  have hindent : Plain "            " := plain_ofList (by decide)
  have hend : Plain "," := plain_ofList (by decide)
  intro line hline
  obtain ⟨f, hf, rfl⟩ := List.mem_map.1 hline
  exact (piece_between ((hindent.append (h f hf).name).append plain_colon) (h f hf).initial hend).tidy

theorem tidy_constructorLines {fields : List Field} {init : List String} (hfields : TameFields fields)
    (hinit : TidyLines init) : TidyLines (constructorLines fields init) := by
  have hinitial := tidy_initial hfields
  refine .append (.append (.cons (tidy_ofList (by decide)) .nil) ?_) (.cons (tidy_ofList (by decide)) .nil)
  split
  · exact ((TidyLines.cons (tidy_ofList (by decide)) .nil).append hinitial).append
      (.cons (tidy_ofList (by decide)) .nil)
  · exact ((((TidyLines.cons (tidy_ofList (by decide)) .nil).append hinitial).append
      (.cons (tidy_ofList (by decide)) .nil)).append hinit).append (.cons (tidy_ofList (by decide)) .nil)

theorem tidy_updateLines {body : List String} (h : TidyLines body) : TidyLines (updateLines body) := by
  unfold updateLines
  split
  · exact .cons (tidy_ofList (by decide)) .nil
  · exact ((TidyLines.cons (tidy_ofList (by decide)) .nil).append h).append (.cons (tidy_ofList (by decide)) .nil)

/-- A timer runs the body of its kind. -/
theorem StructParts.tick_of_timer? {parts : StructParts} {b : Behavior} {ms : Nat} {body : List String}
    (h : parts.timer? b = some (ms, body)) : parts.tick = some body := by
  obtain ⟨found, hfound, h⟩ := Option.bind_eq_some_iff.1 h
  obtain ⟨period, -, h⟩ := Option.bind_eq_some_iff.1 h
  cases h
  exact hfound

theorem tidy_tickLines {parts : StructParts} (htick : TidyLines (parts.tick.getD [])) (b : Behavior) :
    TidyLines (tickLines (parts.timer? b)) := by
  cases htimer : parts.timer? b with
  | none => exact .cons (tidy_ofList (by decide)) .nil
  | some timer =>
    obtain ⟨ms, body⟩ := timer
    rw [StructParts.tick_of_timer? htimer] at htick
    refine .append (.append (.append (.cons (tidy_ofList (by decide)) .nil) ?_) htick)
      (.cons (tidy_ofList (by decide)) .nil)
    split
    · exact .nil
    · refine .cons (tidy_ofList (by decide)) ?_
      refine .cons (tidy_around (by decide) (by decide) (by decide) (plain_toString _).piece) ?_
      refine .cons (tidy_ofList (by decide)) ?_
      exact .cons (tidy_ofList (by decide)) (.cons (tidy_ofList (by decide)) .nil)

theorem tidy_structLines (b : Behavior) (comments : Bool) :
    TidyLines (structLines b comments (partsOf b)) := by
  have hname : Plain b.typeName := Name.plain_typeName _
  have hfields := tame_allFields b
  have hcode := tidy_code b
  simp only [StructParts.code, TidyLines, List.forall_mem_append] at hcode
  obtain ⟨⟨⟨hrender, hupdate⟩, htick⟩, hmethods⟩ := hcode
  have hcomment := TidyLines.cons (tidy_structComment b (unbroken_description b)) .nil
  have hblank : TidyLines [""] := .cons (tidy_ofList (by decide)) .nil
  have hstruct : TidyLines ["pub struct " ++ b.typeName ++ " \x7b"] :=
    .cons (tidy_named (plain_ofList (by decide)) hname (plain_ofList (by decide))) .nil
  have himpl : TidyLines ["\x7d", "", "impl " ++ b.typeName ++ " \x7b"] :=
    .cons (tidy_ofList (by decide)) (.cons (tidy_ofList (by decide))
      (.cons (tidy_named (plain_ofList (by decide)) hname (plain_ofList (by decide))) .nil))
  have hmore : TidyLines (if (partsOf b).methods.isEmpty then [] else "" :: (partsOf b).methods) := by
    split
    · exact .nil
    · exact hblank.append hmethods
  have htitle : TidyLines ["\x7d", "", "impl DashboardWidget for " ++ b.typeName ++ " \x7b",
      "    fn title(&self) -> &str \x7b", "        &self.title", "    \x7d", "",
      "    fn render_text(&self) -> String \x7b"] := by
    refine .cons (tidy_ofList (by decide)) (.cons (tidy_ofList (by decide)) ?_)
    refine .cons (tidy_named (plain_ofList (by decide)) hname (plain_ofList (by decide))) ?_
    apply Spelled.tidyLines
    · repeat constructor
    · decide
  have hclosing : TidyLines ["    \x7d", ""] :=
    .cons (tidy_ofList (by decide)) (.cons (tidy_ofList (by decide)) .nil)
  have hend : TidyLines ["\x7d"] := .cons (tidy_ofList (by decide)) .nil
  exact (((((((((((TidyLines.optional hcomment).append hstruct).append (tidy_declared hfields)).append
    himpl).append (tidy_constructorLines hfields (tidy_init b))).append hmore).append htitle).append
    hrender).append hclosing).append (tidy_updateLines hupdate)).append hblank).append
    (tidy_tickLines htick b) |>.append hend

/-- The struct of a widget is read back line by line. -/
theorem lines_widget (b : Behavior) (o : Options) :
    lines (widget b o) = structLines b o.includeComments (partsOf b) := by
  refine lines_joinLines (fun line hline => (tidy_structLines b _ line hline).unbroken.oneLine) ?_
  simp [structLines]

/-! ## Shared code -/

theorem unbroken_helperConstants : UnbrokenLines helperConstants := by
  have hconst : Plain "const " := plain_ofList (by decide)
  have htype : Plain ": &str = " := plain_ofList (by decide)
  have hequals : Plain " = " := plain_ofList (by decide)
  have hend : Plain ";" := plain_ofList (by decide)
  have hlog : Plain "const LOG_SAMPLES: &[(&str, &str)] = &" := plain_ofList (by decide)
  have htext {name : List Char} (hname : name.all isPlain = true) (value : String) :
      Unbroken (textConstant (String.ofList name) value) :=
    (piece_between ((hconst.append (plain_ofList hname)).append htype) (piece_rust value) hend).unbroken
  have hnumber {name type : List Char} (hname : name.all isPlain = true) (htype : type.all isPlain = true)
      (value : Nat) : Unbroken (numberConstant (String.ofList name) (String.ofList type) value) :=
    ((((((hconst.append (plain_ofList hname)).append plain_colon).append (plain_ofList htype)).append
      hequals).append (plain_toString value)).append hend).piece.unbroken
  iterate 11 refine .cons (htext (by decide) _) ?_
  iterate 4 refine .cons (hnumber (by decide) (by decide) _) ?_
  exact .cons (piece_between hlog (piece_pairs _) hend).unbroken .nil

theorem unbroken_helpers : UnbrokenLines (helperConstants ++ helperFunctions) := by
  refine unbroken_helperConstants.append ?_
  apply Spelled.unbrokenLines
  · repeat constructor
  · decide +kernel

/-! ## Data sources -/

/-- The fixed lines of the data sources. -/
theorem unbroken_fixed : UnbrokenLines (sourceTypes ++ collector ++ updater) := by
  apply Spelled.unbrokenLines
  · repeat constructor
  · decide +kernel

theorem unbroken_constants (comments : Bool) : UnbrokenLines (constants comments) := by
  have hseconds : Plain ");" := plain_ofList (by decide)
  have hkeys : Plain "const VALUE_KEYS: [&str; " := plain_ofList (by decide)
  have hopening : Plain "] = [" := plain_ofList (by decide)
  have hclosing : Plain "];" := plain_ofList (by decide)
  have hcomment : Unbroken "// Data sources" := (tidy_ofList (by decide)).unbroken
  have hlist : Piece (commaList (Display.valueKeys.map text)) := piece_list fun item hitem => by
    obtain ⟨key, -, rfl⟩ := List.mem_map.1 hitem
    exact piece_rust key
  refine .append (.optional (.cons hcomment .nil)) ?_
  refine .cons (tidy_named (plain_ofList (by decide)) (plain_toString _) hseconds).unbroken ?_
  refine .cons (tidy_named (plain_ofList (by decide)) (plain_toString _) hseconds).unbroken ?_
  exact .cons (piece_between ((hkeys.append (plain_toString _)).append hopening) hlist hclosing).unbroken .nil

theorem unbroken_sourceTable (d : Design) :
    UnbrokenLines (["pub fn data_source_configs() -> Vec<(&'static str, SourceConfig)> \x7b", "    vec!["] ++
      d.referencedSources.map sourceRow ++ ["    ]", "\x7d"]) := by
  refine .append (.append ?_ ?_) ?_
  · apply Spelled.unbrokenLines
    · repeat constructor
    · decide
  · exact List.forall_mem_map.2 fun s _ => (piece_sourceRow s).unbroken
  · exact .cons (tidy_ofList (by decide)).unbroken (.cons (tidy_ofList (by decide)).unbroken .nil)

/-! ## The application -/

theorem unbroken_constantLines (s : Scene) : UnbrokenLines (constantLines s) := by
  have hend : Plain ";" := plain_ofList (by decide)
  have hclosing : Plain ");" := plain_ofList (by decide)
  refine .append ?_ (.optional (.cons ?_ .nil))
  · refine .cons (tidy_named (plain_ofList (by decide)) (Number.plain_intText _) hend).unbroken ?_
    refine .cons (tidy_named (plain_ofList (by decide)) (Number.plain_intText _) hend).unbroken ?_
    exact .cons (tidy_named (plain_ofList (by decide)) (plain_toString _) hclosing).unbroken .nil
  · exact (tidy_named (plain_ofList (by decide)) (plain_millis _) hend).unbroken

theorem unbroken_appComment (s : Scene) : Unbroken ("/// " ++ commentText s.design.metadata.name) := by
  have hslashes : Plain "/// " := plain_ofList (by decide)
  exact hslashes.piece.unbroken.append (unbroken_commentText _)

theorem unbroken_structureLines (s : Scene) : UnbrokenLines (structureLines s) := by
  refine .append (.append (.append ?_ (.cons (unbroken_appComment s) ?_)) (.optional ?_)) ?_
  · apply Spelled.unbrokenLines
    · repeat constructor
    · decide
  · apply Spelled.unbrokenLines
    · repeat constructor
    · decide
  · exact .cons (tidy_ofList (by decide)).unbroken .nil
  · exact .cons (tidy_ofList (by decide)).unbroken .nil

theorem plain_metricsArgument (d : Design) : Plain (metricsArgument d) := by
  unfold metricsArgument
  split <;> exact plain_ofList (by decide)

theorem unbroken_slots (s : Scene) :
    UnbrokenLines ((s.behaviors.flatMap (slot s.design.settings.theme)).map ("                " ++ ·)) := by
  have hindent : Plain "                " := plain_ofList (by decide)
  intro line hline
  obtain ⟨row, hrow, rfl⟩ := List.mem_map.1 hline
  obtain ⟨b, -, hrow⟩ := List.mem_flatMap.1 hrow
  exact hindent.piece.unbroken.append (unbroken_slot _ b row hrow)

theorem unbroken_appLines (s : Scene) : UnbrokenLines (appLines s) := by
  have hupdater : Plain "        let updater = DataSourceUpdater::new(data_source_configs(), " :=
    plain_ofList (by decide)
  have hend : Plain ");" := plain_ofList (by decide)
  have hcreated := (tidy_named hupdater (plain_metricsArgument s.design) hend).unbroken
  unfold appLines
  refine .append (.append (.append (.append (.append (.append (.append (.append ?_
    (.optional (.cons hcreated .nil))) ?_) (unbroken_slots s)) ?_) (.optional ?_)) ?_) (.optional ?_)) ?_
  -- The lines around the updater and the slots are fixed.
  all_goals
    apply Spelled.unbrokenLines
    · repeat constructor
    · decide

theorem unbroken_app (s : Scene) :
    UnbrokenLines ((if s.options.includeComments then ["// Application"] else []) ++ constantLines s ++
      structureLines s ++ appLines s ++ (if s.hasDataSources then spawnLines else []) ++
      placeLines s.design.settings.autoResize ++ runLines s.hasDataSources) := by
  have hcomment : Unbroken "// Application" := (tidy_ofList (by decide)).unbroken
  have hspawn : UnbrokenLines spawnLines := by
    apply Spelled.unbrokenLines
    · repeat constructor
    · decide
  have hplace : UnbrokenLines (placeLines s.design.settings.autoResize) := by
    cases s.design.settings.autoResize
    all_goals
      apply Spelled.unbrokenLines
      · repeat constructor
      · decide
  have hrun : UnbrokenLines (runLines s.hasDataSources) := by
    cases s.hasDataSources
    all_goals
      apply Spelled.unbrokenLines
      · repeat constructor
      · decide
  exact ((((((UnbrokenLines.optional (.cons hcomment .nil)).append (unbroken_constantLines s)).append
    (unbroken_structureLines s)).append (unbroken_appLines s)).append (.optional hspawn)).append hplace).append hrun

end DashboardCompiler.Ratatui
