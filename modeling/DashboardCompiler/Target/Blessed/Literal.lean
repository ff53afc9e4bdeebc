import DashboardCompiler.Display.Literal

/-!
# JavaScript literals

A document value is its own literal, and so are strings and numbers.
-/

namespace DashboardCompiler.Blessed

def literal (v : Json) : String := v.documentLine

def text (s : String) : String := Text.documentQuoted s

def int (n : Int) : String := Number.intText n

def number (n : Number) : String := literal (.number n)

def texts (items : List String) : Json := .list (items.map .text)

def integers (items : List Int) : Json := .list (items.map Json.ofInt)

def textRows (rows : List (List String)) : Json := .list (rows.map texts)

def pairs (items : List (String × String)) : Json :=
  .list (items.map fun (a, b) => .list [.text a, .text b])

def bars (items : List (String × Int)) : Json :=
  .list (items.map fun (label, n) => .list [.text label, .ofInt n])

end DashboardCompiler.Blessed
