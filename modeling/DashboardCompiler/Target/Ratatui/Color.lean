import DashboardCompiler.Json.Reader
import DashboardCompiler.Unicode.Blank
import DashboardCompiler.Unicode.Case
import DashboardCompiler.Unicode.Digit

/-!
# Terminal colours of Ratatui programs

A colour is one of the names of the terminal palette, in any case, or `#rrggbb`. Each of the three parts is
two characters wide: two hexadecimal digits, or one digit with a sign before it or white space on either
side. Decimal digits of every script count. What is neither a name nor a full triple is white.
-/

namespace DashboardCompiler.Ratatui

def hexDigit? (c : Char) : Option Nat := Unicode.digitValue? c <|> Json.hexValue? c

/-- The value of one part of a colour; a minus sign makes it negative. -/
def colorPart? (a b : Char) : Option Int :=
  match hexDigit? a, hexDigit? b with
  | some high, some low => some (high * 16 + low)
  | none, some n =>
    if a = '-' then some (-n)
    else if a = '+' || Unicode.isWhiteSpace a then some n
    else none
  | some n, none => if Unicode.isWhiteSpace b then some n else none
  | none, none => none

/-- The three parts of a colour given by number. -/
def triple? : List Char → Option (Int × Int × Int)
  | [a, b, c, d, e, f] => do
    let red ← colorPart? a b
    let green ← colorPart? c d
    let blue ← colorPart? e f
    return (red, green, blue)
  | _ => none

def namedColors : List (String × String) :=
  [("black", "Color::Black"), ("red", "Color::Red"), ("green", "Color::Green"),
   ("yellow", "Color::Yellow"), ("blue", "Color::Blue"), ("magenta", "Color::Magenta"),
   ("cyan", "Color::Cyan"), ("white", "Color::White"), ("gray", "Color::Gray"),
   ("grey", "Color::Gray")]

def white : String := "Color::White"

def color (name : String) : String :=
  let numbered := match name.toList with
    | '#' :: digits => triple? digits
    | _ => none
  match numbered with
  | some (red, green, blue) =>
    "Color::Rgb(" ++ Number.intText red ++ ", " ++ Number.intText green ++ ", " ++
      Number.intText blue ++ ")"
  | none => (namedColors.lookup (Unicode.lower name)).getD white

end DashboardCompiler.Ratatui
