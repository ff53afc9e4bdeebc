import DashboardCompiler.Console.Panel

/-!
# Tables

A title, a heavy head and a light body. Each column is as wide as its widest line, with a space on either
side, and a row is as high as its highest cell.
-/

namespace DashboardCompiler.Console

structure Table where
  title : String
  head : List String
  /-- each row holds as many cells as the head -/
  rows : List (List String)

namespace Table

/-- The width of each column. -/
def widths (t : Table) : List Nat :=
  ((t.head :: t.rows).map fun cells => cells.map fun cell => widest (Text.lines cell)).foldr
    (fun row sofar => if sofar.isEmpty then row else List.zipWith max row sofar) []

/-- The strokes at the start, between the cells and at the end of a line. -/
structure Strokes where
  left : String
  between : String
  right : String

def Strokes.around (s : Strokes) (cells : List String) : String :=
  s.left ++ Text.joinWith s.between cells ++ s.right

def ruleLine (s : Strokes) (stroke : Char) (widths : List Nat) : String :=
  s.around (widths.map fun width => rule (width + 2) stroke)

def cellText (width : Nat) (line : String) : String := " " ++ padRight width line ++ " "

/-- The lines of a row; a cell with fewer lines than the highest is blank below them. -/
def rowLines (s : Strokes) (widths : List Nat) (cells : List String) : List String :=
  let columns := cells.map Text.lines
  let height := (columns.map List.length).foldl max 0
  (List.range height).map fun n =>
    s.around (List.zipWith (fun width column => cellText width (column[n]?.getD "")) widths columns)

def lines (t : Table) : List String :=
  let ws := t.widths
  let total := ws.foldl (fun sofar width => sofar + width + 3) 1
  [centredIn total ' ' t.title, ruleLine ⟨"┏", "┳", "┓"⟩ '━' ws] ++
    rowLines ⟨"┃", "┃", "┃"⟩ ws t.head ++
    [ruleLine ⟨"┡", "╇", "┩"⟩ '━' ws] ++
    t.rows.flatMap (rowLines ⟨"│", "│", "│"⟩ ws) ++
    [ruleLine ⟨"└", "┴", "┘"⟩ '─' ws]

end Table

end DashboardCompiler.Console
