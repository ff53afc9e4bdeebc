import DashboardCompiler.Text.Lines
import DashboardCompiler.Unicode.Word

/-!
# Scanning generated code

Which modules a generated file needs is read off its code: full-line comments are removed, string
literals are emptied, and a module counts as used where its name is followed by a point and is not part
of a longer name. A quote that no literal closes stays as it is.
-/

namespace DashboardCompiler.Code

/-- Whether a line holds nothing before a `#` or `//` comment. -/
def isCommentLine (line : List Char) : Bool :=
  match line.dropWhile fun c => c = ' ' || c = '\t' with
  | '#' :: _ => true
  | '/' :: '/' :: _ => true
  | _ => false

def joinChars : List (List Char) → List Char
  | [] => []
  | [line] => line
  | line :: rest => line ++ '\n' :: joinChars rest

/-- Full-line comments become empty lines. -/
def withoutComments (cs : List Char) : List Char :=
  joinChars ((Text.splitAtFeeds cs).map fun line => if isCommentLine line then [] else line)

/-- The number of characters up to and including the quote that closes a one-line literal. -/
def closeQuote (quote : Char) : List Char → Option Nat
  | [] => none
  | '\\' :: c :: rest => if c = '\n' then none else (closeQuote quote rest).map (· + 2)
  | c :: rest =>
    if c = quote then some 1
    else if c = '\n' ∨ c = '\\' then none
    else (closeQuote quote rest).map (· + 1)

/-- The number of characters up to and including the next three quotes. -/
def closeTriple (quote : Char) : List Char → Option Nat
  | [] => none
  | c :: rest =>
    if [quote, quote, quote].isPrefixOf (c :: rest) then some 3
    else (closeTriple quote rest).map (· + 1)

/-- The number of characters up to and including the next backtick. -/
def closeRaw : List Char → Option Nat
  | [] => none
  | c :: rest => if c.toNat = 0x60 then some 1 else (closeRaw rest).map (· + 1)

/-- How many characters follow `c` in the string literal that it opens, if it opens one that is closed. -/
def literalTail? (c : Char) (rest : List Char) : Option Nat :=
  if c = '"' ∨ c = '\'' then
    let long := if [c, c].isPrefixOf rest then (closeTriple c (rest.drop 2)).map (· + 2) else none
    long <|> closeQuote c rest
  else if c.toNat = 0x60 then closeRaw rest
  else none

/-- The text with each string literal emptied; `skip` characters belong to the literal being passed. -/
def emptyLiterals : Nat → List Char → List Char
  | _, [] => []
  | skip + 1, _ :: rest => emptyLiterals skip rest
  | 0, c :: rest =>
    match literalTail? c rest with
    | some n => '"' :: '"' :: emptyLiterals n rest
    | none => c :: emptyLiterals 0 rest

def codeChars (cs : List Char) : List Char := emptyLiterals 0 (withoutComments cs)

/-- The code of a text: no full-line comments, and string literals emptied. -/
def codeOnly (s : String) : String := String.ofList (codeChars s.toList)

/-- Whether a text occurs where it does not continue a longer name; `joined` says that the character before
continues a name. -/
def occurs (text : List Char) (joined : Bool) : List Char → Bool
  | [] => false
  | c :: rest =>
    (!joined && text.isPrefixOf (c :: rest)) || occurs text (Unicode.isWord c || c = '.') rest

/-- Whether a name with a point after it occurs outside longer names. -/
def mentions (name code : List Char) : Bool := occurs (name ++ ['.']) false code

/-- The candidates that the code of a text refers to, in the order of the candidates. -/
def usedModules (s : String) (candidates : List String) : List String :=
  let code := codeChars s.toList
  candidates.filter fun name => mentions name.toList code

end DashboardCompiler.Code
