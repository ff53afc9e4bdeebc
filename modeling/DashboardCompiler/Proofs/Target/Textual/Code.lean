import DashboardCompiler.Proofs.Generation.Texts
import DashboardCompiler.Proofs.Target.Rows
import DashboardCompiler.Proofs.Text.Passages

/-!
# User text in Textual widgets

Text that a design only shows reaches the class of a widget as the value of an attribute and in the comment
above it. Each of these stays on its line, so the lines of the generated text are the lines that the class was
put together from.
-/

namespace DashboardCompiler.Textual

open Code Text

/-! ## Literals -/

theorem plain_flag (b : Bool) : Plain (flag b) := by
  have htrue : Plain "True" := plain_ofList (by decide)
  have hfalse : Plain "False" := plain_ofList (by decide)
  cases b with
  | false => exact hfalse
  | true => exact htrue

theorem plain_floatText (n : Number) : Plain (floatText n) := by
  cases n with
  | int n => exact Double.plain_text _
  | double x => exact Double.plain_text x

theorem plain_numberText (n : Number) : Plain n.text := by
  cases n with
  | int n => exact Number.plain_intText n
  | double x => exact Double.plain_text x

theorem piece_literal (v : Json) : Piece (literal v) := Json.piece_sourceLine v

/-! ## Attributes -/

/-- A line that ends with a value. -/
theorem tidy_valued {before : List Char} (hbefore : before.all isPlain = true) {value : String}
    (hvalue : Piece value) : Tidy (String.ofList before ++ value) :=
  ((plain_ofList hbefore).appendPiece hvalue).tidy

theorem tidy_state (b : Behavior) : TidyLines (partsOf b).state := by
  obtain ⟨w, simulate, state⟩ := b
  cases state with
  | text p =>
    refine .cons (tidy_valued (by decide) (piece_source _)) ?_
    refine .cons (tidy_valued (by decide) (piece_source _)) ?_
    refine .cons (tidy_valued (by decide) (plain_flag _).piece) ?_
    exact .cons (tidy_ofList (by decide)) .nil
  | lineChart p labels values =>
    refine .cons (tidy_valued (by decide) (piece_literal _)) ?_
    refine .cons (tidy_valued (by decide) (piece_literal _)) ?_
    refine .cons (tidy_valued (by decide) (piece_source _)) ?_
    refine .cons (tidy_valued (by decide) (piece_source _)) ?_
    refine .cons (tidy_valued (by decide) (plain_flag _).piece) ?_
    refine .cons (tidy_valued (by decide) (plain_flag _).piece) ?_
    refine .cons (tidy_valued (by decide) (Number.plain_intText _).piece) ?_
    exact .cons (tidy_ofList (by decide)) .nil
  | barChart p bars =>
    refine .cons (tidy_valued (by decide) (piece_literal _)) ?_
    refine .cons (tidy_valued (by decide) (piece_source _)) ?_
    refine .cons (tidy_valued (by decide) (plain_flag _).piece) ?_
    refine .cons (tidy_valued (by decide) (plain_flag _).piece) ?_
    exact .cons (tidy_valued (by decide) (Number.plain_intText _).piece) .nil
  | table p headers rows =>
    refine .cons (tidy_valued (by decide) (piece_literal _)) ?_
    refine .cons (tidy_valued (by decide) (piece_literal _)) ?_
    refine .cons (tidy_valued (by decide) (plain_flag _).piece) ?_
    refine .cons (tidy_valued (by decide) (plain_flag _).piece) ?_
    refine .cons (tidy_valued (by decide) (plain_flag _).piece) ?_
    exact .cons (tidy_valued (by decide) (Number.plain_intText _).piece) .nil
  | progressBar p percent =>
    refine .cons (tidy_valued (by decide) (plain_floatText _).piece) ?_
    refine .cons (tidy_valued (by decide) (plain_flag _).piece) ?_
    refine .cons (tidy_valued (by decide) (plain_flag _).piece) ?_
    refine .cons (tidy_valued (by decide) (plain_numberText _).piece) ?_
    exact .cons (tidy_valued (by decide) (plain_numberText _).piece) .nil
  | sparkline p values =>
    refine .cons (tidy_valued (by decide) (piece_literal _)) ?_
    refine .cons (tidy_valued (by decide) (piece_source _)) ?_
    refine .cons (tidy_valued (by decide) (plain_flag _).piece) ?_
    refine .cons (tidy_valued (by decide) (plain_flag _).piece) ?_
    exact .cons (tidy_valued (by decide) (plain_toString _).piece) .nil
  | gauge p value =>
    refine .cons (tidy_valued (by decide) (plain_floatText _).piece) ?_
    refine .cons (tidy_valued (by decide) (plain_numberText _).piece) ?_
    refine .cons (tidy_valued (by decide) (plain_numberText _).piece) ?_
    refine .cons (tidy_valued (by decide) (plain_flag _).piece) ?_
    exact .cons (tidy_valued (by decide) (piece_source _)) .nil
  | logViewer p seed =>
    have hentries : Plain "for level, message in " := plain_ofList (by decide)
    have hcolon : Plain ":" := plain_ofList (by decide)
    refine .cons (tidy_valued (by decide) (Number.plain_intText _).piece) ?_
    refine .cons (tidy_valued (by decide) (plain_flag _).piece) ?_
    refine .cons (tidy_valued (by decide) (plain_flag _).piece) ?_
    refine .cons (tidy_valued (by decide) (piece_source _)) ?_
    refine .cons (tidy_valued (by decide) (piece_literal _)) ?_
    refine .cons (tidy_ofList (by decide)) ?_
    refine .cons (tidy_ofList (by decide)) ?_
    refine .cons (piece_between hentries (piece_literal _) hcolon).tidy ?_
    exact .cons (tidy_ofList (by decide)) .nil
  | metricCard p value previous history =>
    refine .cons (tidy_valued (by decide) (piece_source _)) ?_
    refine .cons (tidy_valued (by decide) (piece_source _)) ?_
    refine .cons (tidy_valued (by decide) (plain_flag _).piece) ?_
    refine .cons (tidy_valued (by decide) (plain_flag _).piece) ?_
    refine .cons (tidy_valued (by decide) (plain_floatText _).piece) ?_
    refine .cons (tidy_valued (by decide) (piece_literal _)) ?_
    exact .cons (tidy_valued (by decide) (piece_literal _)) .nil
  | unknown => exact .cons (tidy_valued (by decide) (piece_source _)) .nil

/-! ## Code -/

/-- The lines that a kind of widget brings to the methods of its class. -/
def ClassParts.code (parts : ClassParts) : List String :=
  parts.render ++ parts.update ++ parts.tick.getD [] ++ parts.methods

theorem tidy_code (b : Behavior) : TidyLines (partsOf b).code := by
  obtain ⟨w, simulate, state⟩ := b
  cases state with
  | lineChart p labels values =>
    have hseries : Tidy ("    lines.append(f\"\x7bPOINT\x7d " ++ Display.Sample.chartSeries ++
        " (\x7bself.y_label\x7d)\")") := tidy_ofList_append (by decide)
    apply Spelled.tidyLines
    · repeat' first | with_reducible exact hseries | constructor
    · decide
  | progressBar p percent =>
    apply Spelled.tidyLines
    · repeat' first
        | with_reducible exact tidy_valued (by decide) (plain_toString _).piece
        | constructor
    · decide
  | sparkline p values =>
    have hstart : Plain "step = random.randint(-" := plain_ofList (by decide)
    have hclosing : Plain ")" := plain_ofList (by decide)
    have hstep := tidy_named ((hstart.append (plain_toString Display.sparklineStep)).append plain_comma)
      (plain_toString Display.sparklineStep) hclosing
    apply Spelled.tidyLines
    · repeat' first | with_reducible exact hstep | constructor
    · decide
  | metricCard p value previous history =>
    have hshare : Plain Display.metricCardDrift := plain_ofList (by decide)
    have hclosing : Plain ")" := plain_ofList (by decide)
    have hstart : Plain "drift = random.uniform(-" := plain_ofList (by decide)
    have hdrift := tidy_named ((hstart.append hshare).append plain_comma) hshare hclosing
    apply Spelled.tidyLines
    · repeat' first
        | with_reducible exact hdrift
        | with_reducible exact tidy_around (by decide) (by decide) (by decide) (plain_toString _).piece
        | constructor
    · decide
  | _ =>
    -- Everything that is left is fixed text.
    apply Spelled.tidyLines
    · repeat constructor
    · decide +kernel

theorem unbroken_description (b : Behavior) : Unbroken (partsOf b).description := by
  obtain ⟨w, simulate, state⟩ := b
  cases state <;> exact (plain_ofList (by decide)).piece.unbroken

/-! ## Widgets -/

/-- A line of a body, which moves to the right. -/
def bodyLine (line : String) : String := if line.isEmpty then "" else "        " ++ line

theorem bodyLines_eq (items : List String) : bodyLines items = items.map bodyLine := rfl

theorem isCommentLine_indent (line : String) : isCommentLine ("        " ++ line).toList = isCommentLine line.toList := by
  have hindent : "        ".toList = List.replicate 8 ' ' := by decide
  rw [String.toList_append, hindent]
  exact isCommentLine_blanks (.inl rfl) 8 line.toList

theorem passes_indent {line : String} (h : Passes line.toList) : Passes ("        " ++ line).toList := by
  have hindent : Plain "        " := plain_ofList (by decide)
  rw [String.toList_append]
  exact h.prepend_plain fun c hc => isQuote_of_isPlain (hindent c hc)

theorem unbroken_indent {line : String} (h : Unbroken line) : Unbroken ("        " ++ line) := by
  have hindent : Plain "        " := plain_ofList (by decide)
  exact hindent.piece.unbroken.append h

theorem tidy_bodyLine {line : String} (h : Tidy line) : Tidy (bodyLine line) := by
  unfold bodyLine
  split
  · exact plain_empty.piece.tidy
  · refine ⟨unbroken_indent h.unbroken, ?_⟩
    rw [EndsScan, isCommentLine_indent]
    exact h.ends.imp_right passes_indent

theorem tidy_bodyLines {items : List String} (h : TidyLines items) : TidyLines (bodyLines items) :=
  List.forall_mem_map.2 fun line hline => tidy_bodyLine (h line hline)

theorem tidy_classComment (b : Behavior) {description : String} (h : Unbroken description) :
    Tidy ("# " ++ description ++ ": " ++ commentText b.widget.id) := by
  have hmark : Plain "# " := plain_ofList (by decide)
  refine ⟨((hmark.piece.unbroken.append h).append plain_colon.piece.unbroken).append (unbroken_commentText _), .inl ?_⟩
  rw [String.append_assoc, String.append_assoc, String.toList_append]
  rfl

theorem tidy_classDocumentation (b : Behavior) :
    Tidy ("    \"\"\"" ++ (partsOf b).description ++ " widget.\"\"\"") := by
  obtain ⟨w, simulate, state⟩ := b
  cases state <;> exact tidy_documentation_append (by decide) (by decide)

/-- What stands above the constructor of a widget. -/
def widgetHead (b : Behavior) (comments : Bool) (parts : ClassParts) : List String :=
  (if comments then ["# " ++ parts.description ++ ": " ++ commentText b.widget.id] else []) ++
    ["class " ++ b.typeName ++ "(Static):", "    \"\"\"" ++ parts.description ++ " widget.\"\"\""]

/-- The first lines of a constructor, up to the attribute that holds the title. -/
def constructorStart (b : Behavior) : List String :=
  ["", "    def __init__(self) -> None:", "        super().__init__(id=" ++ text b.identifier ++ ", markup=False)"]

def titleLine (b : Behavior) : String := "        self.widget_title = " ++ text b.widget.displayTitle

/-- The further attributes that every widget has. -/
def commonAttributes (b : Behavior) : List String :=
  ["        self.data_source = " ++ literal (Json.ofOptional .text b.widget.dataSource),
   "        self.inner_width = " ++ int b.widget.innerWidth,
   "        self.inner_height = " ++ int b.widget.innerHeight]

/-- The methods of a widget. -/
def methodLines (b : Behavior) (parts : ClassParts) : List String :=
  ["",
   "    def on_mount(self) -> None:",
   "        self.border_title = self.widget_title",
   "        self.refresh_view()"] ++
  (match parts.tick, b.tickMs with
    | some _, some ms => ["        self.set_interval(" ++ (Literal.seconds ms).text ++ ", self.tick)"]
    | _, _ => []) ++
  ["",
   "    def refresh_view(self) -> None:",
   "        self.update(self.render_text())",
   "",
   "    def render_text(self) -> str:"] ++
  bodyLines parts.render ++
  ["",
   "    def update_data(self, value) -> None:"] ++
  bodyLines parts.update ++
  ["        self.refresh_view()"] ++
  (match parts.tick with
    | some lines =>
      ["", "    def tick(self) -> None:"] ++ bodyLines lines ++ ["        self.refresh_view()"]
    | none => []) ++
  (if parts.methods.isEmpty then [] else "" :: parts.methods)

theorem classLines_eq (b : Behavior) (comments : Bool) (parts : ClassParts) : classLines b comments parts =
    widgetHead b comments parts ++ (constructorStart b ++ titleLine b :: commonAttributes b ++
      bodyLines parts.state) ++ methodLines b parts := by
  obtain ⟨description, state, render, update, tick, methods⟩ := parts
  unfold classLines widgetHead constructorStart titleLine commonAttributes methodLines
  generalize b.tickMs = interval
  cases tick with
  | none => simp only [List.append_assoc, List.cons_append, List.nil_append]
  | some body => cases interval <;> simp only [List.append_assoc, List.cons_append, List.nil_append]

theorem tidy_widgetHead (b : Behavior) (comments : Bool) : TidyLines (widgetHead b comments (partsOf b)) := by
  have hname : Plain b.typeName := Name.plain_typeName _
  have hclass : Tidy ("class " ++ b.typeName ++ "(Static):") :=
    tidy_named (plain_ofList (by decide)) hname (plain_ofList (by decide))
  refine .append (.optional (.cons (tidy_classComment b (unbroken_description b)) .nil)) ?_
  exact .cons hclass (.cons (tidy_classDocumentation b) .nil)

theorem tidy_constructorStart (b : Behavior) : TidyLines (constructorStart b) := by
  refine .cons (tidy_ofList (by decide)) (.cons (tidy_ofList (by decide)) ?_)
  exact .cons (tidy_around (by decide) (by decide) (by decide) (piece_source _)) .nil

theorem tidy_titleLine (b : Behavior) : Tidy (titleLine b) := tidy_valued (by decide) (piece_source _)

theorem tidy_commonAttributes (b : Behavior) : TidyLines (commonAttributes b) := by
  refine .cons (tidy_valued (by decide) (piece_literal _)) ?_
  refine .cons (tidy_valued (by decide) (Number.plain_intText _).piece) ?_
  exact .cons (tidy_valued (by decide) (Number.plain_intText _).piece) .nil

theorem tidy_timerLines (parts : ClassParts) (b : Behavior) :
    TidyLines (match parts.tick, b.tickMs with
      | some _, some ms => ["        self.set_interval(" ++ (Literal.seconds ms).text ++ ", self.tick)"]
      | _, _ => []) := by
  split
  · exact .cons (tidy_around (by decide) (by decide) (by decide) (Double.plain_text _).piece) .nil
  · exact .nil

theorem tidy_tickLines {parts : ClassParts} (htick : TidyLines (parts.tick.getD [])) :
    TidyLines (match parts.tick with
      | some lines =>
        ["", "    def tick(self) -> None:"] ++ bodyLines lines ++ ["        self.refresh_view()"]
      | none => []) := by
  split
  · rename_i body hbody
    rw [hbody] at htick
    have hstart : TidyLines ["", "    def tick(self) -> None:"] :=
      .cons (tidy_ofList (by decide)) (.cons (tidy_ofList (by decide)) .nil)
    exact (hstart.append (tidy_bodyLines htick)).append (.cons (tidy_ofList (by decide)) .nil)
  · exact .nil

theorem tidy_methodLines (b : Behavior) : TidyLines (methodLines b (partsOf b)) := by
  have hcode := tidy_code b
  simp only [ClassParts.code, TidyLines, List.forall_mem_append] at hcode
  obtain ⟨⟨⟨hrender, hupdate⟩, htick⟩, hmethods⟩ := hcode
  have hmount : TidyLines ["", "    def on_mount(self) -> None:", "        self.border_title = self.widget_title",
      "        self.refresh_view()"] := by
    apply Spelled.tidyLines
    · repeat constructor
    · decide
  have hrefresh : TidyLines ["", "    def refresh_view(self) -> None:",
      "        self.update(self.render_text())", "", "    def render_text(self) -> str:"] := by
    apply Spelled.tidyLines
    · repeat constructor
    · decide
  have hupdateStart : TidyLines ["", "    def update_data(self, value) -> None:"] :=
    .cons (tidy_ofList (by decide)) (.cons (tidy_ofList (by decide)) .nil)
  have hupdateEnd : TidyLines ["        self.refresh_view()"] := .cons (tidy_ofList (by decide)) .nil
  have hmore : TidyLines (if (partsOf b).methods.isEmpty then [] else "" :: (partsOf b).methods) := by
    have hblank : Tidy "" := tidy_ofList (by decide)
    split
    · exact .nil
    · exact .cons hblank hmethods
  exact (((((((hmount.append (tidy_timerLines _ b)).append hrefresh).append (tidy_bodyLines hrender)).append
    hupdateStart).append (tidy_bodyLines hupdate)).append hupdateEnd).append (tidy_tickLines htick)).append hmore

theorem tidy_classLines (b : Behavior) (comments : Bool) : TidyLines (classLines b comments (partsOf b)) := by
  rw [classLines_eq]
  have hattributes : TidyLines (titleLine b :: commonAttributes b) := .cons (tidy_titleLine b) (tidy_commonAttributes b)
  exact ((tidy_widgetHead b comments).append (((tidy_constructorStart b).append hattributes).append
    (tidy_bodyLines (tidy_state b)))).append (tidy_methodLines b)

/-- The class of a widget is read back line by line. -/
theorem lines_widget (b : Behavior) (o : Options) :
    lines (widget b o) = classLines b o.includeComments (partsOf b) := by
  refine lines_joinLines (fun line hline => (tidy_classLines b _ line hline).unbroken.oneLine) ?_
  simp [classLines]

end DashboardCompiler.Textual
