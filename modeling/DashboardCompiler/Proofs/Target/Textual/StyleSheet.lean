import DashboardCompiler.Proofs.Generation.Totality
import DashboardCompiler.Proofs.Json.Writer
import DashboardCompiler.Proofs.Text.LongLiteral
import DashboardCompiler.Target.Textual.Program

/-!
# The style sheet as a literal

A Textual program carries its style sheet as a literal of several lines. The template writes selectors, numbers
and colours of its own, which are inert, and the colours of the styles as the design gives them. Whether the
literal ends where the template ends it, and whether it stands for the rules that it shows, is therefore
decided by the colours of the styles one by one.
-/

namespace DashboardCompiler

open Code Text

/-- The colour of a border, if there is a border. -/
def WidgetStyle.borderColors (style : WidgetStyle) : List String :=
  if style.borderStyle = .none then [] else style.borderColor.toList

/-- The colours of a style that the rules of its widget write as they are. -/
def WidgetStyle.sheetColors (style : WidgetStyle) : List String :=
  style.borderColors ++ style.textColor.toList ++ style.backgroundColor.toList

/-- The colours that the style sheet of a design holds as its styles give them. -/
def Design.sheetColors (d : Design) : List String :=
  (d.widgets.filterMap (·.style)).flatMap WidgetStyle.sheetColors

namespace Textual

/-! ## The parts of the application -/

def classHead (s : Scene) : List String :=
  (if s.options.includeComments then ["# Application"] else []) ++
  ["class DashboardApp(App):",
   "    \"\"\"" ++ commentText s.design.metadata.name ++ "\"\"\"",
   "",
   "    TITLE = " ++ text s.design.metadata.name]

def classBody (s : Scene) : List String :=
  ["    BINDINGS = [(\"q\", \"quit\", \"Quit\")]"] ++
  (if s.hasDataSources then wiringLines s else []) ++
  composeLines s ++
  (if s.hasDataSources then refreshLines s else [])

/-! ## The parts of the rules of a widget -/

def canvasRules (settings : Settings) : List String :=
  ["#canvas \x7b"] ++
  (if settings.autoResize then
    ["    width: 100%;", "    height: 100%;", "    overflow: auto auto;"]
  else
    ["    width: " ++ int settings.dimensions.width ++ ";",
     "    height: " ++ int settings.dimensions.height ++ ";"]) ++
  ["\x7d"]

theorem styleSheet_eq (s : Scene) :
    styleSheet s = canvasRules s.design.settings ++ s.behaviors.flatMap (widgetRules s.design.settings.theme) := rfl

/-- The rules that place a widget. -/
def frameRules (b : Behavior) : List String :=
  ["",
   "#" ++ b.identifier ++ " \x7b",
   "    position: absolute;",
   "    offset: " ++ int b.widget.position.x ++ " " ++ int b.widget.position.y ++ ";",
   "    width: " ++ int b.widget.size.width ++ ";",
   "    height: " ++ int b.widget.size.height ++ ";"]

def backgroundRules : Option String → List String
  | some color => if color.isEmpty then [] else ["    background: " ++ color ++ ";"]
  | none => []

def paddingRules : Option WidgetStyle → List String
  | some s => if s.padding = 0 then [] else ["    padding: 0 " ++ int s.padding ++ ";"]
  | none => []

/-- The colour of a text whose style gives none. -/
def textFallback (theme : Theme) : Option ProgressColor → String
  | some color => Named.name color
  | none => (Display.palette theme).text

theorem widgetRules_eq (theme : Theme) (b : Behavior) :
    widgetRules theme b = frameRules b ++
      ["    border: " ++ borderRule b.widget.style (b.colors theme).border ++ ";",
       "    color: " ++ (b.colors theme).text ++ ";"] ++
      backgroundRules (b.widget.style.bind (·.backgroundColor)) ++ paddingRules b.widget.style ++ ["\x7d"] := rfl

theorem colors_eq (theme : Theme) (b : Behavior) :
    b.colors theme =
      ⟨Display.override (Display.palette theme).border (b.widget.style.bind (·.borderColor)),
       Display.override (textFallback theme b.progressColor?) (b.widget.style.bind (·.textColor))⟩ := by
  unfold Behavior.colors Display.styledColors
  cases b.widget.style <;> rfl

/-- An empty rule is an empty line. -/
def ruleLine (rule : String) : String := if rule.isEmpty then "" else "    " ++ rule

def beforeRules (s : Scene) : String := joinLines (classHead s) ++ "\n    CSS = "

/-- What the template writes between the quotes. -/
def rules (s : Scene) : String := "\n" ++ joinLines ((styleSheet s).map ruleLine) ++ "\n    "

def afterRules (s : Scene) : String := "\n" ++ joinLines (classBody s)

theorem styleSheet_ne_nil (s : Scene) : styleSheet s ≠ [] := by
  unfold styleSheet
  simp

theorem app_eq (s : Scene) :
    app s = beforeRules s ++ "\"\"\"" ++ rules s ++ "\"\"\"" ++ afterRules s := by
  have hlines : appLines s = classHead s ++ ("    CSS = \"\"\"" ::
      ((styleSheet s).map ruleLine ++ "    \"\"\"" :: classBody s)) := by
    simp only [appLines, classHead, classBody, List.append_assoc, List.cons_append, List.nil_append]
    rfl
  have hopening : "    CSS = \"\"\"" = "    CSS = " ++ "\"\"\"" := rfl
  have hmargin : "\n    CSS = " = "\n" ++ "    CSS = " := rfl
  have hindent : "\n    " = "\n" ++ "    " := rfl
  have hclosing : "    \"\"\"" = "    " ++ "\"\"\"" := rfl
  have hhead : classHead s ≠ [] := by
    unfold classHead
    simp
  have hbody : classBody s ≠ [] := by
    unfold classBody
    simp
  have hsheet : (styleSheet s).map ruleLine ≠ [] := by simpa using styleSheet_ne_nil s
  rw [app, hlines, joinLines, joinWith_append _ hhead (List.cons_ne_nil _ _),
    joinWith_cons_of_ne_nil _ _ (List.append_ne_nil_of_left_ne_nil hsheet _),
    joinWith_append _ hsheet (List.cons_ne_nil _ _), joinWith_cons_of_ne_nil _ _ hbody, hopening, hclosing,
    beforeRules, rules, afterRules, hmargin, hindent]
  simp only [joinLines, String.append_assoc]

/-! ## What the template writes of its own -/

theorem inert_int (n : Int) : Inert (int n) := by
  intro c hc
  have hminus : isInert '-' = true := by decide
  rw [int, Number.intText, Notation.signText, Notation.digitText, String.toList_append, List.mem_append] at hc
  rcases hc with hc | hc
  · split at hc
    · rw [List.mem_singleton.1 hc]
      exact hminus
    · cases hc
  · rw [String.toList_ofList] at hc
    obtain ⟨m, rfl⟩ := exists_of_mem_decimal c hc
    simp [isInert, Nat.digitChar_ne]

theorem inert_palette (theme : Theme) :
    Inert (Display.palette theme).border ∧ Inert (Display.palette theme).text := by
  cases theme <;> exact ⟨inert_ofList (by decide), inert_ofList (by decide)⟩

theorem inert_progressColor (color : ProgressColor) : Inert (Named.name color) := by
  cases color <;> exact inert_ofList (by decide)

theorem inert_textFallback (theme : Theme) (progress : Option ProgressColor) :
    Inert (textFallback theme progress) := by
  cases progress with
  | none => exact (inert_palette theme).2
  | some color => exact inert_progressColor color

theorem inert_borderName (style : BorderStyle) : Inert (borderName style) := by
  cases style <;> exact inert_ofList (by decide)

/-! ## What the colours decide -/

section Rules

variable {P : List Char → Prop}

theorem piecewise_ruleLine (hP : Piecewise P) (rule : String) : P (ruleLine rule).toList ↔ P rule.toList := by
  unfold ruleLine
  split
  · rename_i hempty
    rw [String.isEmpty_iff.1 hempty]
  · rw [String.toList_append]
    exact hP.after_inert (inert_ofList (by decide)) _

/-- An override that stands aside leaves an inert colour. -/
theorem piecewise_override (hP : Piecewise P) {fallback : String} (h : Inert fallback) (color : Option String) :
    P (Display.override fallback color).toList ↔ ∀ c ∈ color.toList, P c.toList := by
  cases color with
  | none => exact iff_of_true (hP.of_inert h) (List.forall_mem_nil _)
  | some c =>
    rw [Display.override, Option.toList_some, List.forall_mem_singleton]
    split
    · rename_i hempty
      rw [String.isEmpty_iff.1 hempty]
      exact iff_of_true (hP.of_inert h) hP.nil
    · rfl

theorem piecewise_borderRule (hP : Piecewise P) {fallback : String} (h : Inert fallback)
    (style : Option WidgetStyle) :
    P (borderRule style (Display.override fallback (style.bind (·.borderColor)))).toList ↔
      ∀ s ∈ style, ∀ c ∈ s.borderColors, P c.toList := by
  have hnone : Inert "none" := inert_ofList (by decide)
  have hname (border : BorderStyle) : Inert (borderName border ++ " ") :=
    (inert_borderName border).append (inert_ofList (by decide))
  cases style with
  | none => exact iff_of_true (hP.of_inert ((hname .single).append h)) nofun
  | some s =>
    simp only [Option.mem_some_iff, forall_eq', borderRule, Option.bind_some, WidgetStyle.borderColors]
    split
    · exact iff_of_true (hP.of_inert hnone) (List.forall_mem_nil _)
    · rw [String.toList_append]
      exact (hP.after_inert (hname _) _).trans (piecewise_override hP h _)

theorem piecewise_backgroundRules (hP : Piecewise P) (color : Option String) :
    (∀ rule ∈ backgroundRules color, P rule.toList) ↔ ∀ c ∈ color.toList, P c.toList := by
  cases color with
  | none => rfl
  | some c =>
    rw [backgroundRules, Option.toList_some, List.forall_mem_singleton]
    split
    · rename_i hempty
      rw [String.isEmpty_iff.1 hempty]
      exact iff_of_true (List.forall_mem_nil _) hP.nil
    · rw [List.forall_mem_singleton]
      exact hP.framed (inert_ofList (by decide)) (inert_ofList (by decide)) c

/-- A rule that gives one number. -/
theorem inert_numbered {before : String} (h : Inert before) (n : Int) : Inert (before ++ int n ++ ";") :=
  (h.append (inert_int n)).append (inert_ofList (by decide))

theorem inert_paddingRules (style : Option WidgetStyle) : ∀ rule ∈ paddingRules style, Inert rule := by
  cases style with
  | none => exact List.forall_mem_nil _
  | some style =>
    rw [paddingRules]
    split
    · exact List.forall_mem_nil _
    · exact List.forall_mem_singleton.2 (inert_numbered (inert_ofList (by decide)) _)

/-- The rules for the frame of a widget hold its own numbers and name. -/
theorem inert_frameRules (b : Behavior) : ∀ rule ∈ frameRules b, Inert rule := by
  have hselector : Inert ("#" ++ b.identifier ++ " \x7b") :=
    ((inert_ofList (by decide)).append (inert_identifier _)).append (inert_ofList (by decide))
  have hoffset : Inert ("    offset: " ++ int b.widget.position.x ++ " " ++ int b.widget.position.y ++ ";") :=
    inert_numbered (((inert_ofList (by decide)).append (inert_int _)).append (inert_ofList (by decide))) _
  unfold frameRules
  simp only [List.forall_mem_cons]
  exact ⟨inert_ofList (by decide), hselector, inert_ofList (by decide), hoffset,
    inert_numbered (inert_ofList (by decide)) _, inert_numbered (inert_ofList (by decide)) _, List.forall_mem_nil _⟩

/-- The rules of a widget hold what its style gives and nothing else of interest. -/
theorem piecewise_widgetRules (hP : Piecewise P) (theme : Theme) (b : Behavior) :
    (∀ rule ∈ widgetRules theme b, P rule.toList) ↔
      ∀ style ∈ b.widget.style, ∀ color ∈ style.sheetColors, P color.toList := by
  have hframe : ∀ rule ∈ frameRules b, P rule.toList := fun rule hrule => hP.of_inert (inert_frameRules b rule hrule)
  have hpadding : ∀ rule ∈ paddingRules b.widget.style, P rule.toList :=
    fun rule hrule => hP.of_inert (inert_paddingRules _ rule hrule)
  have hbrace : P "\x7d".toList := hP.of_inert (inert_ofList (by decide))
  have hborder (rule : String) : P ("    border: " ++ rule ++ ";").toList ↔ P rule.toList :=
    hP.framed (inert_ofList (by decide)) (inert_ofList (by decide)) rule
  have htext (color : String) : P ("    color: " ++ color ++ ";").toList ↔ P color.toList :=
    hP.framed (inert_ofList (by decide)) (inert_ofList (by decide)) color
  have hcolor {choice : WidgetStyle → Option String} : (∀ c ∈ (b.widget.style.bind choice).toList, P c.toList) ↔
      ∀ style ∈ b.widget.style, ∀ c ∈ (choice style).toList, P c.toList := by
    cases b.widget.style <;> simp
  rw [widgetRules_eq, colors_eq]
  simp only [List.forall_mem_append, List.forall_mem_cons, List.not_mem_nil, false_implies, implies_true,
    iff_true_intro hframe, iff_true_intro hpadding, iff_true_intro hbrace, hborder, htext,
    piecewise_backgroundRules hP, piecewise_override hP (inert_textFallback _ _),
    piecewise_borderRule hP (inert_palette theme).1, hcolor, true_and, and_true, WidgetStyle.sheetColors,
    forall_and, and_assoc]

/-- The canvas is sized by fixed text and numbers. -/
theorem inert_canvasRules (settings : Settings) : ∀ rule ∈ canvasRules settings, Inert rule := by
  rw [canvasRules, List.forall_mem_append, List.forall_mem_append]
  refine ⟨⟨List.forall_mem_singleton.2 (inert_ofList (by decide)), ?_⟩,
    List.forall_mem_singleton.2 (inert_ofList (by decide))⟩
  split
  · exact List.forall_mem_cons.2 ⟨inert_ofList (by decide), List.forall_mem_cons.2
      ⟨inert_ofList (by decide), List.forall_mem_singleton.2 (inert_ofList (by decide))⟩⟩
  · exact List.forall_mem_cons.2 ⟨inert_numbered (inert_ofList (by decide)) _,
      List.forall_mem_singleton.2 (inert_numbered (inert_ofList (by decide)) _)⟩

/-- **The literal of a style sheet is safe if and only if the colours of its styles are**, in whatever way that
can be judged piece by piece. -/
theorem piecewise_rules (hP : Piecewise P) {s : Scene} (hwidgets : s.behaviors.map (·.widget) = s.design.widgets) :
    P (rules s).toList ↔ ∀ color ∈ s.design.sheetColors, P color.toList := by
  have hcanvas : ∀ rule ∈ canvasRules s.design.settings, P rule.toList :=
    fun rule hrule => hP.of_inert (inert_canvasRules _ rule hrule)
  have hframed : P (rules s).toList ↔ P (joinLines ((styleSheet s).map ruleLine)).toList :=
    hP.framed (inert_ofList (by decide)) (inert_ofList (by decide)) _
  rw [hframed, hP.joinLines, List.forall_mem_map, styleSheet_eq]
  simp only [piecewise_ruleLine hP, List.forall_mem_append, List.forall_mem_flatMap,
    piecewise_widgetRules hP, Design.sheetColors, ← hwidgets]
  simp only [List.filterMap_map, List.forall_mem_filterMap, iff_true_intro hcanvas, true_and, Option.mem_def,
    Function.comp_apply]

end Rules

/-! ## The end of the literal -/

/-- The literal that opens before the rules ends at the quotes that the template writes after them. -/
def EndsSheet (s : Scene) : Prop :=
  longBody? (rules s ++ "\"\"\"" ++ afterRules s).toList = some ((rules s).toList, (afterRules s).toList)

/-- The literal stands for the rules as they are written. -/
def ShowsSheet (s : Scene) : Prop := longText? (rules s).toList = some (rules s).toList

/-- Whatever follows the rules, their literal ends at the quotes after them or inside of the rules. -/
theorem longBody?_rules (s : Scene) (after : String) :
    longBody? (rules s ++ "\"\"\"" ++ after).toList = some ((rules s).toList, after.toList) ↔
      longBody? (rules s).toList = none := by
  have hblank : isInert ' ' = true := by decide
  have hquotes : "\"\"\"".toList = tripleQuote := rfl
  have hmargin : "\n    " = "\n   " ++ " " := rfl
  have hchar : " ".toList = [' '] := rfl
  have hbody : (rules s).toList = ("\n" ++ joinLines ((styleSheet s).map ruleLine) ++ "\n   ").toList ++ [' '] := by
    rw [rules, hmargin, ← String.append_assoc, String.toList_append, hchar]
  rw [String.toList_append, String.toList_append, hquotes, hbody, longBody?_eq_some_iff hblank,
    piecewise_longBody?.before_inert (List.forall_mem_singleton.2 hblank)]

theorem endsSheet_iff (s : Scene) : EndsSheet s ↔ longBody? (rules s).toList = none :=
  longBody?_rules s (afterRules s)

/-- **The rules of an accepted design stay inside of their literal as long as every colour of a style does.**
The rules hold three quotes or a backslash only where a colour does; without them the literal ends where the
template ends it. In general it ends there if and only if no colour would end it, and it stands for the rules as
they are written if and only if that holds of each colour. -/
theorem app_encloses_rules {document : Json} {d : Design} (hvalid : Design.validate document = .ok d)
    (o : Options) :
    ∃ s, Scene.ofDesign d o = .accepted s ∧
      app s = beforeRules s ++ "\"\"\"" ++ rules s ++ "\"\"\"" ++ afterRules s ∧
      (Harmless (rules s).toList ↔ ∀ color ∈ d.sheetColors, Harmless color.toList) ∧
      (Harmless (rules s).toList → EndsSheet s) ∧
      (EndsSheet s ↔ ∀ color ∈ d.sheetColors, longBody? color.toList = none) ∧
      (ShowsSheet s ↔ ∀ color ∈ d.sheetColors, longText? color.toList = some color.toList) := by
  obtain ⟨-, hwell⟩ := Design.validate_ok_iff.1 hvalid
  obtain ⟨bs, hbs, hwidgets⟩ := Behavior.ofWidgets_accepted o hwell.types
  refine ⟨⟨d, o, bs⟩, Checked.map_accepted_iff.2 ⟨bs, hbs, rfl⟩, app_eq _, piecewise_rules piecewise_harmless hwidgets,
    fun h => (endsSheet_iff _).2 h.longBody?_eq_none, ?_, piecewise_rules piecewise_longText? hwidgets⟩
  rw [endsSheet_iff]
  exact piecewise_rules piecewise_longBody? hwidgets

/-- A text with a border of the given colour. -/
def paintedDocument (color : String) : Json :=
  .object
    [("metadata", .object [("name", .text "painted")]),
     ("widgets", .list
       [.object
         [("id", .text "note"),
          ("type", .text "text"),
          ("position", .object [("x", .ofInt 0), ("y", .ofInt 0)]),
          ("size", .object [("width", .ofInt 10), ("height", .ofInt 3)]),
          ("style", .object [("borderColor", .text color)])]])]

/-- The design of `paintedDocument`. -/
def painted (color : String) : Design where
  version := "1.0.0"
  metadata := ⟨"painted", none, none, "1.0.0", none, none, .textual, []⟩
  settings := .default
  widgets := [⟨"note", "text", ⟨0, 0⟩, ⟨10, 3⟩, none, none, some ⟨.single, some color, none, none, 0⟩, []⟩]
  dataSources := []

/-- A colour may end the literal, and it may bring an escape into it. -/
theorem app_encloses_rules_painted :
    (∃ s, Scene.ofDesign (painted "red") ⟨.textual, .single, true, true⟩ = .accepted s ∧
      Harmless (rules s).toList ∧ EndsSheet s ∧ ShowsSheet s) ∧
    (∃ s, Scene.ofDesign (painted "red\"\"\"") ⟨.textual, .single, true, true⟩ = .accepted s ∧
      ¬ Harmless (rules s).toList ∧ ¬ EndsSheet s) ∧
    (∃ s, Scene.ofDesign (painted "re\\x64") ⟨.textual, .single, true, true⟩ = .accepted s ∧
      ¬ Harmless (rules s).toList ∧ EndsSheet s ∧ ¬ ShowsSheet s) := by
  have hread (color : String) : Design.read (paintedDocument color) = .accepted (painted color) := by rfl
  have hwell (color : String) : (painted color).WellFormed := (painted color).faults_eq_nil_iff.1 (by rfl)
  have hvalid (color : String) : Design.validate (paintedDocument color) = .ok (painted color) :=
    Design.validate_ok_iff.2 ⟨hread color, hwell color⟩
  have hcolors (color : String) : (painted color).sheetColors = [color] := rfl
  refine ⟨?_, ?_, ?_⟩
  · obtain ⟨s, hs, -, hharmless, -, hends, hshows⟩ := app_encloses_rules (hvalid "red") ⟨.textual, .single, true, true⟩
    rw [hcolors, List.forall_mem_singleton] at hharmless hends hshows
    exact ⟨s, hs, hharmless.2 (by decide), hends.2 (by decide), hshows.2 (by decide)⟩
  · obtain ⟨s, hs, -, hharmless, -, hends, -⟩ :=
      app_encloses_rules (hvalid "red\"\"\"") ⟨.textual, .single, true, true⟩
    rw [hcolors, List.forall_mem_singleton] at hharmless hends
    exact ⟨s, hs, hharmless.not.2 (by decide), hends.not.2 (by decide)⟩
  · obtain ⟨s, hs, -, hharmless, -, hends, hshows⟩ :=
      app_encloses_rules (hvalid "re\\x64") ⟨.textual, .single, true, true⟩
    rw [hcolors, List.forall_mem_singleton] at hharmless hends hshows
    exact ⟨s, hs, hharmless.not.2 (by decide), hends.2 (by decide), hshows.not.2 (by decide)⟩

end Textual

end DashboardCompiler
