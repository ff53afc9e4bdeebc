import DashboardCompiler.Display.Behavior
import DashboardCompiler.Display.Literal

/-!
# Python literals

The values of widgets as they are written into Textual programs.
-/

namespace DashboardCompiler.Textual

def text (s : String) : String := Text.sourceQuoted s

def flag (b : Bool) : String := if b then "True" else "False"

def int (n : Int) : String := Number.intText n

/-- The double nearest to a number that is a double or small, as the text that reads back to it. -/
def floatText : Number → String
  | .int n => (Double.ofInt n).text
  | .double x => x.text

def texts (items : List String) : Json := .list (items.map .text)

def ints (items : List Int) : Json := .list (items.map .ofInt)

def pairs (items : List (String × String)) : Json :=
  .list (items.map fun (a, b) => .list [.text a, .text b])

def literal (v : Json) : String := v.sourceLine

end DashboardCompiler.Textual
