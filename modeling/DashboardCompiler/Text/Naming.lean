import DashboardCompiler.Unicode.Case

/-!
# Names from ids

Ids are any text; what becomes a name in generated source is made of ASCII letters, digits and
underscores. `identifier` gives a lower-case name with underscores, `typeName` the name of the type
generated for a widget.
-/

namespace DashboardCompiler.Name

/-- ASCII letters, digits and the underscore. -/
def isNameChar (c : Char) : Bool :=
  ('0' ≤ c && c ≤ '9') || ('A' ≤ c && c ≤ 'Z') || ('a' ≤ c && c ≤ 'z') || c = '_'

/-- Each run of other characters becomes one underscore; `inRun` says that one was just written. -/
def cleanFrom (inRun : Bool) : List Char → List Char
  | [] => []
  | c :: rest =>
    if isNameChar c then c :: cleanFrom false rest
    else if inRun then cleanFrom true rest
    else '_' :: cleanFrom true rest

def clean (cs : List Char) : List Char := cleanFrom false cs

def trimUnderscores (cs : List Char) : List Char :=
  ((cs.dropWhile (· = '_')).reverse.dropWhile (· = '_')).reverse

/-- Lower case, with an underscore before each capital that does not open the text or follow a separator. -/
def splitCapitals (previous : Option Char) : List Char → List Char
  | [] => []
  | c :: rest =>
    let opens := match previous with
      | none => false
      | some p => !(p = '_' || p = '-' || p = ' ')
    (if Unicode.isUpper c && opens then ['_'] else []) ++ Unicode.lowerChars c ++
      splitCapitals (some c) rest

def snakeChars (cs : List Char) : List Char := trimUnderscores (clean (splitCapitals none cs))

/-- The pieces between underscores that are not empty. -/
def wordsFrom (reading : List Char) : List Char → List (List Char)
  | [] => if reading.isEmpty then [] else [reading]
  | c :: rest =>
    if c = '_' then
      if reading.isEmpty then wordsFrom [] rest else reading :: wordsFrom [] rest
    else wordsFrom (reading ++ [c]) rest

def capitalize : List Char → List Char
  | [] => []
  | c :: rest => c.toUpper :: rest

def pascalChars (cs : List Char) : List Char := ((wordsFrom [] (clean cs)).map capitalize).flatten

def camelChars (cs : List Char) : List Char :=
  match pascalChars cs with
  | [] => []
  | c :: rest => c.toLower :: rest

def startsWithDigit : List Char → Bool
  | [] => false
  | c :: _ => c.isDigit

def identifierChars (cs : List Char) : List Char :=
  let snake := snakeChars cs
  let named := if snake.isEmpty then "item".toList else snake
  if startsWithDigit named then 'w' :: '_' :: named else named

def typeChars (cs : List Char) : List Char :=
  let pascal := pascalChars cs
  let named := if pascal.isEmpty then "Item".toList else pascal
  (if startsWithDigit named then 'W' :: named else named) ++ "Widget".toList

def snakeCase (s : String) : String := String.ofList (snakeChars s.toList)

def pascalCase (s : String) : String := String.ofList (pascalChars s.toList)

def camelCase (s : String) : String := String.ofList (camelChars s.toList)

/-- A name with underscores that is never empty and never starts with a digit. -/
def identifier (s : String) : String := String.ofList (identifierChars s.toList)

/-- The name of the type generated for a widget with this id. -/
def typeName (s : String) : String := String.ofList (typeChars s.toList)

end DashboardCompiler.Name
