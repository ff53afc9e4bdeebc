import DashboardCompiler.Unicode.Blank

/-!
# Text for comments

`commentText` makes one line of any text that is safe inside a comment of each output language: no
double quote, no backslash, no end of a block comment, and single spaces between its words.
-/

namespace DashboardCompiler.Text

/-- The maximal runs of characters that are not blank; `open` is the run being read. -/
def wordsFrom (reading : List Char) : List Char → List (List Char)
  | [] => if reading.isEmpty then [] else [reading]
  | c :: rest =>
    if Unicode.isBlank c then
      if reading.isEmpty then wordsFrom [] rest else reading :: wordsFrom [] rest
    else wordsFrom (reading ++ [c]) rest

def words (cs : List Char) : List (List Char) := wordsFrom [] cs

/-- A space is put between the two characters that end a block comment. -/
def splitCommentEnd : List Char → List Char
  | '*' :: '/' :: rest => '*' :: ' ' :: '/' :: splitCommentEnd rest
  | c :: rest => c :: splitCommentEnd rest
  | [] => []

def softenQuote (c : Char) : Char :=
  if c = '\\' then '/' else if c = '"' then '\'' else c

def joinWords : List (List Char) → List Char
  | [] => []
  | [w] => w
  | w :: rest => w ++ ' ' :: joinWords rest

def commentChars (cs : List Char) : List Char :=
  joinWords (words (splitCommentEnd (cs.map softenQuote)))

def commentText (s : String) : String := String.ofList (commentChars s.toList)

end DashboardCompiler.Text
