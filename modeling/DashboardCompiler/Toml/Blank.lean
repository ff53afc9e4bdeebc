import DashboardCompiler.Toml.Basic

/-!
# Blanks and comments of TOML

Spaces and tabs separate the parts of a statement; inside an array line feeds and comments do as well. A
comment runs to the end of its line and holds no control character but the tab.
-/

namespace DashboardCompiler.Toml

def isControl (c : Char) : Bool := c.toNat < 0x20 || c.toNat = 0x7f

def isIllegalInLine (c : Char) : Bool := isControl c && c ≠ '\t'

def isIllegalInLines (c : Char) : Bool := isControl c && c ≠ '\t' && c ≠ '\n'

def isSpace (c : Char) : Bool := c = ' ' || c = '\t'

def skipSpaces (cs : List Char) : List Char := cs.dropWhile isSpace

/-- The text after a comment, if there is one. -/
def skipComment (cs : List Char) : Except Fault (List Char) :=
  match cs with
  | '#' :: rest =>
    if (rest.takeWhile (· ≠ '\n')).any isIllegalInLine then .error .malformed
    else .ok (rest.dropWhile (· ≠ '\n'))
  | _ => .ok cs

/-- The text after spaces, line feeds and comments. -/
def skipBetween : Nat → List Char → Except Fault (List Char)
  | 0, cs => .ok cs
  | fuel + 1, cs =>
    match cs.dropWhile fun c => isSpace c || c = '\n' with
    | '#' :: rest => do
      let after ← skipComment ('#' :: rest)
      skipBetween fuel after
    | rest => .ok rest

end DashboardCompiler.Toml
