import DashboardCompiler.Design.Properties
import DashboardCompiler.Unicode.Case

/-!
# Colours

The palette of each theme, the colours of a widget after its style, and colour names as indices of the
terminal palette.
-/

namespace DashboardCompiler.Display

structure Palette where
  border : String
  accent : String
  text : String

def palette : Theme → Palette
  | .dark => ⟨"blue", "cyan", "white"⟩
  | .light => ⟨"black", "blue", "black"⟩
  | .monokai => ⟨"magenta", "yellow", "white"⟩
  | .dracula => ⟨"magenta", "green", "white"⟩
  | .nord => ⟨"cyan", "blue", "white"⟩
  | .custom => ⟨"white", "cyan", "white"⟩

def ansiIndices : List (String × Nat) :=
  [("black", 0), ("red", 1), ("green", 2), ("yellow", 3), ("blue", 4), ("magenta", 5), ("cyan", 6),
   ("white", 7), ("gray", 8), ("grey", 8)]

/-- A colour that starts with a number sign stays as it is, a name becomes its index, and an unknown name
counts as white. -/
def ansiColor (name : String) : String :=
  if name.toList.head? = some '#' then name
  else toString ((ansiIndices.lookup (Unicode.lower name)).getD 7)

/-- An override counts unless it is absent or empty. -/
def override (fallback : String) : Option String → String
  | some s => if s.isEmpty then fallback else s
  | none => fallback

structure WidgetColors where
  border : String
  text : String

/-- The colours of a widget: its style over the colour of a progress bar over the theme. -/
def styledColors (w : Widget) (theme : Theme) (progress : Option ProgressColor) : WidgetColors :=
  let base := palette theme
  let text := match progress with
    | some color => Named.name color
    | none => base.text
  match w.style with
  | none => ⟨base.border, text⟩
  | some s => ⟨override base.border s.borderColor, override text s.textColor⟩

/-- The colours of a widget whose properties are still unread. -/
def widgetColors (w : Widget) (theme : Theme) : Checked WidgetColors :=
  if w.kind? = some .progressBar then
    (ProgressBarProperties.read w.properties).map fun p => styledColors w theme (some p.color)
  else .accepted (styledColors w theme none)

end DashboardCompiler.Display
