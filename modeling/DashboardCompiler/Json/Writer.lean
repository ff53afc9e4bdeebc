import DashboardCompiler.Json.Basic
import DashboardCompiler.Text.Quoted
import DashboardCompiler.Text.Lines

/-!
# Writing document values

Values on one line, with a space after each comma and colon, in the spelling of JSON documents or of
Python literals, and the indented form with two columns a level and pure ASCII text.
-/

namespace DashboardCompiler.Json

/-- How the words, doubles and strings of a written form are spelled. -/
structure Spelling where
  null : String
  yes : String
  no : String
  double : Double → String
  quote : String → String

def documentSpelling : Spelling := ⟨"null", "true", "false", Double.documentText, Text.documentQuoted⟩

def asciiSpelling : Spelling := ⟨"null", "true", "false", Double.documentText, Text.asciiQuoted⟩

def sourceSpelling : Spelling := ⟨"None", "True", "False", Double.text, Text.sourceQuoted⟩

mutual

def write (how : Spelling) : Json → String
  | .null => how.null
  | .bool b => if b then how.yes else how.no
  | .number (.int n) => Number.intText n
  | .number (.double x) => how.double x
  | .text s => how.quote s
  | .list items => "[" ++ Text.joinWith ", " (writeItems how items) ++ "]"
  | .object fields => "\x7b" ++ Text.joinWith ", " (writeFields how fields) ++ "\x7d"

def writeItems (how : Spelling) : List Json → List String
  | [] => []
  | item :: rest => write how item :: writeItems how rest

def writeFields (how : Spelling) : List (String × Json) → List String
  | [] => []
  | (key, value) :: rest => (how.quote key ++ ": " ++ write how value) :: writeFields how rest

end

/-- The value as JSON, which JavaScript reads as a literal. -/
def documentLine (v : Json) : String := v.write documentSpelling

/-- The value as JSON in pure ASCII. -/
def asciiLine (v : Json) : String := v.write asciiSpelling

/-- The value as a Python literal. -/
def sourceLine (v : Json) : String := v.write sourceSpelling

/-- A container over several lines: its parts one level deeper, the closing bracket at its own level. -/
def bracketLines (opening closing : String) (columns : Nat) (parts : List String) : String :=
  if parts.isEmpty then opening ++ closing
  else
    let pad := Text.spaces (columns + 2)
    opening ++ "\n" ++ Text.joinWith ",\n" (parts.map (pad ++ ·)) ++ "\n" ++ Text.spaces columns ++ closing

mutual

/-- A value that starts at a column, its containers spread over lines. -/
def spread (columns : Nat) : Json → String
  | .list items => bracketLines "[" "]" columns (spreadItems (columns + 2) items)
  | .object fields => bracketLines "\x7b" "\x7d" columns (spreadFields (columns + 2) fields)
  | .null => write asciiSpelling .null
  | .bool b => write asciiSpelling (.bool b)
  | .number n => write asciiSpelling (.number n)
  | .text s => write asciiSpelling (.text s)

def spreadItems (columns : Nat) : List Json → List String
  | [] => []
  | item :: rest => spread columns item :: spreadItems columns rest

def spreadFields (columns : Nat) : List (String × Json) → List String
  | [] => []
  | (key, value) :: rest =>
    (Text.asciiQuoted key ++ ": " ++ spread columns value) :: spreadFields columns rest

end

def indented (v : Json) : String := spread 0 v

end DashboardCompiler.Json
