import DashboardCompiler.Display.Literal

/-!
# Go literals

Numbers are doubles and containers are typed the way decoded documents are, so that static values look to
a program like fetched ones.
-/

namespace DashboardCompiler.BubbleTea

def text (s : String) : String := Text.documentQuoted s

def int (n : Int) : String := Number.intText n

def commaList (items : List String) : String := Text.joinWith ", " items

def floats (values : List Number) : String :=
  "[]float64\x7b" ++ commaList (values.map Literal.float) ++ "\x7d"

def strings (values : List String) : String := "[]string\x7b" ++ commaList (values.map text) ++ "\x7d"

def stringRows (rows : List (List String)) : String :=
  "[][]string\x7b" ++ commaList (rows.map fun row => "\x7b" ++ commaList (row.map text) ++ "\x7d") ++ "\x7d"

def pairs (items : List (String × String)) : String :=
  "[][2]string\x7b" ++ commaList (items.map fun (a, b) => "\x7b" ++ text a ++ ", " ++ text b ++ "\x7d") ++ "\x7d"

def bars (items : List (String × Int)) : String :=
  "[]bar\x7b" ++
    commaList (items.map fun (label, n) => "\x7b" ++ text label ++ ", " ++ Literal.float (.int n) ++ "\x7d") ++
    "\x7d"

mutual

/-- A document value; an integer beyond the doubles has no literal. -/
def value : Json → Except ArithmeticFault String
  | .null => .ok "nil"
  | .bool b => .ok (Literal.flag b)
  | .number n => Literal.ofNumber n
  | .text s => .ok (text s)
  | .list items => do return "[]interface\x7b\x7d\x7b" ++ commaList (← valueItems items) ++ "\x7d"
  | .object fields => do return "map[string]interface\x7b\x7d\x7b" ++ commaList (← valueFields fields) ++ "\x7d"

def valueItems : List Json → Except ArithmeticFault (List String)
  | [] => .ok []
  | item :: rest => do
    let first ← value item
    let others ← valueItems rest
    return first :: others

def valueFields : List (String × Json) → Except ArithmeticFault (List String)
  | [] => .ok []
  | (key, item) :: rest => do
    let first ← value item
    let others ← valueFields rest
    return (text key ++ ": " ++ first) :: others

end

end DashboardCompiler.BubbleTea
