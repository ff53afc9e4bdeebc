import DashboardCompiler.Text.Lines

/-!
# Panels

A rounded box around some lines, as wide as the widest of them or its title needs. The title stands in the
middle of the upper edge; an odd rest of that edge goes to the right.
-/

namespace DashboardCompiler.Console

def widest (lines : List String) : Nat := (lines.map String.length).foldl max 0

def padRight (width : Nat) (s : String) : String := s ++ Text.spaces (width - s.length)

def rule (width : Nat) (c : Char) : String := String.ofList (List.replicate width c)

/-- A text in the middle of an edge. -/
def centredIn (width : Nat) (edge : Char) (s : String) : String :=
  let left := (width - s.length) / 2
  rule left edge ++ s ++ rule (width - s.length - left) edge

def panel (title : String) (lines : List String) : List String :=
  let label := " " ++ title ++ " "
  let width := max (widest lines) label.length
  ["╭─" ++ centredIn width '─' label ++ "─╮"] ++
    lines.map (fun line => "│ " ++ padRight width line ++ " │") ++
    ["╰" ++ rule (width + 2) '─' ++ "╯"]

end DashboardCompiler.Console
