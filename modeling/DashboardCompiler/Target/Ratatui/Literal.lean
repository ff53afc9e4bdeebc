import DashboardCompiler.Display.Literal

/-!
# Rust literals

Owned strings and vectors for the fields of widgets, borrowed ones for tables, and document values as the
argument of a macro that reads JSON.
-/

namespace DashboardCompiler.Ratatui

def text (s : String) : String := Text.rustQuoted s

def int (n : Int) : String := Number.intText n

def commaList (items : List String) : String := Text.joinWith ", " items

/-- A string that its field owns. -/
def ownedText (s : String) : String := "String::from(" ++ text s ++ ")"

/-- A vector; an empty one has no element to take its type from. -/
def vector (items : List String) : String :=
  if items.isEmpty then "Vec::new()" else "vec![" ++ commaList items ++ "]"

def floats (values : List Number) : String := vector (values.map Literal.float)

def strings (values : List String) : String := "strings(&[" ++ commaList (values.map text) ++ "])"

def stringRows (rows : List (List String)) : String := vector (rows.map strings)

def pair (p : String × String) : String := "(" ++ text p.1 ++ ", " ++ text p.2 ++ ")"

def pairs (items : List (String × String)) : String := "[" ++ commaList (items.map pair) ++ "]"

def bars (items : List (String × Int)) : String :=
  "bars(&[" ++
    commaList (items.map fun (label, n) => "(" ++ text label ++ ", " ++ Literal.float (.int n) ++ ")") ++
    "])"

/-- A document value, with the integers and doubles that JSON text has. -/
def value (v : Json) : String := "json!(" ++ v.documentLine ++ ")"

end DashboardCompiler.Ratatui
