import DashboardCompiler.Emoji.Codes
import DashboardCompiler.Text.Lines
import DashboardCompiler.Unicode.Width

/-!
# Printed text

How a text shows on the console. A few control characters are dropped, tabs reach to the next multiple of
eight columns, and a line that is wider than the console goes on in the next one, between words as far as
that is possible. Text that comes from outside is quoted first, so that nothing in it is taken for a style;
a backslash in front of a bracket is what the quoting can lose. Codes of pictographs are replaced.
-/

namespace DashboardCompiler.Console

open Unicode

/-- The columns of the console. -/
def consoleWidth : Nat := 1000

/-- The bell, the backspace, the vertical tab, the form feed and the carriage return. -/
def isDropped (c : Char) : Bool := [7, 8, 11, 12, 13].contains c.toNat

/-- The pieces between the characters of a kind. -/
def splitAt (separator : Char) : List Char → List (List Char)
  | [] => [[]]
  | c :: rest =>
    if c = separator then [] :: splitAt separator rest
    else match splitAt separator rest with
      | piece :: pieces => (c :: piece) :: pieces
      | [] => [[c]]

/-- Pieces of a line with a tab between them, the first one at `column`. A tab takes at least one column. -/
def expandTabs (column : Nat) : List (List Char) → List Char
  | [] => []
  | [piece] => piece
  | piece :: rest =>
    let reached := column + textColumns (piece ++ [' '])
    let missing := (8 - reached % 8) % 8
    piece ++ ' ' :: List.replicate missing ' ' ++ expandTabs (reached + missing) rest

/-- The words of a line, each with the blanks after it, and the first one with those before it too. Blanks
alone are no word. `word` is what was read of a word, and `ended` says that blanks have followed. -/
def wordsFrom (word : List Char) (started ended : Bool) : List Char → List (List Char)
  | [] => if started then [word] else []
  | c :: rest =>
    if isBlank c then wordsFrom (word ++ [c]) started started rest
    else if ended then word :: wordsFrom [c] true false rest
    else wordsFrom (word ++ [c]) true false rest

/-- A word cut into pieces of at most `width` columns; `used` counts those of the piece being cut. -/
def chopFrom (width used : Nat) : List Char → List (List Char)
  | [] => [[]]
  | c :: rest =>
    let size := columns c
    if width < used + size then
      match chopFrom width size rest with
      | piece :: pieces => [] :: (c :: piece) :: pieces
      | [] => [[], [c]]
    else
      match chopFrom width (used + size) rest with
      | piece :: pieces => (c :: piece) :: pieces
      | [] => [[c]]

/-- Lines that are being filled with words. -/
structure Filling where
  /-- the full lines, the last first -/
  done : List (List Char)
  line : List Char
  /-- the columns of the line, with the blanks at its end -/
  used : Nat

namespace Filling

def empty : Filling := ⟨[], [], 0⟩

/-- The full lines once the current line is closed. -/
def closed (f : Filling) : List (List Char) := if f.line.isEmpty then f.done else f.line :: f.done

/-- The text at the start of a new line. -/
def start (f : Filling) (text : List Char) : Filling := ⟨f.closed, text, textColumns text⟩

/-- A word goes into the current line if it fits there, and is cut if it fits into no line. -/
def add (width : Nat) (f : Filling) (word : List Char) : Filling :=
  let size := textColumns (word.reverse.dropWhile isBlank).reverse
  if f.used + size ≤ width then ⟨f.done, f.line ++ word, f.used + textColumns word⟩
  else if width < size then (chopFrom width 0 word).foldl start f
  else f.start word

end Filling

/-- The lines that a line takes on a console of some width. -/
def wrapped (width : Nat) (line : List Char) : List (List Char) :=
  match wordsFrom [] false false line with
  | [] => [line]
  | words => (words.foldl (Filling.add width) Filling.empty).closed.reverse

def printed (s : String) : String :=
  let lines := splitAt '\n' (s.toList.filter fun c => !isDropped c)
  Text.joinLines
    (lines.flatMap fun line => (wrapped consoleWidth (expandTabs 0 (splitAt '\t' line))).map String.ofList)

/-- The characters that may come first in a style between brackets. -/
def opensStyle (c : Char) : Bool := c.isLower || c = '#' || c = '/' || c = '@'

/-- The length of a style after its opening bracket, with the closing bracket. -/
def styleLength? : List Char → Option Nat
  | [] => none
  | c :: rest =>
    let inside := rest.takeWhile fun d => !(d = '[' || d = ']')
    if opensStyle c && (rest.drop inside.length).head? = some ']' then some (inside.length + 2)
    else none

def consFirst (c : Char) : List (List Char) → List (List Char)
  | piece :: pieces => (c :: piece) :: pieces
  | [] => [[c]]

/-- The text cut before and after everything that looks like a style; `inside` counts the characters of
such a style that are still to come. -/
def splitStyles : Nat → List Char → List (List Char)
  | _, [] => [[]]
  | 0, c :: rest =>
    match (if c = '[' then styleLength? rest else none) with
    | some inside => [] :: consFirst c (splitStyles inside rest)
    | none => consFirst c (splitStyles 0 rest)
  | 1, c :: rest => [c] :: splitStyles 0 rest
  | inside + 2, c :: rest => consFirst c (splitStyles (inside + 1) rest)

/-- A backslash is lost in front of a bracket that starts no style. -/
def dropEscapes : List Char → List Char
  | '\\' :: '[' :: rest => '[' :: dropEscapes rest
  | c :: rest => c :: dropEscapes rest
  | [] => []

/-- A single backslash at the end of a text is written twice. -/
def doubleLast (cs : List Char) : List Char :=
  match cs.reverse with
  | '\\' :: '\\' :: _ => cs
  | '\\' :: _ => cs ++ ['\\']
  | _ => cs

/-- A text from outside as a part of what is printed. No code reaches over the edge of a style. -/
def quoted (s : String) : String :=
  String.ofList ((splitStyles 0 (doubleLast s.toList)).flatMap fun piece =>
    Emoji.replaced (dropEscapes piece))

end DashboardCompiler.Console
