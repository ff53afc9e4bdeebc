import DashboardCompiler.Json.Basic

/-!
# Reading document values

The reader takes JSON with three more number words (`NaN`, `Infinity`, `-Infinity`). A failure is a
cause and the rest of the text at the place that it is about, from which `lineAt` counts the line. Each
step passes on less fuel than it got and takes at least one character, so a text as long as its fuel is
always read to its end. Lists and objects may lie in one another up to a depth that no document needs.
-/

namespace DashboardCompiler.Json

inductive SyntaxFault where
  | expectingValue
  | expectingKey
  | expectingColon
  | expectingComma
  | extraData
  | unterminatedText
  | controlCharacter
  | badEscape
  | badUnitEscape
  | byteOrderMark
  deriving DecidableEq, Repr

def SyntaxFault.message : SyntaxFault → String
  | .expectingValue => "Expecting value"
  | .expectingKey => "Expecting property name enclosed in double quotes"
  | .expectingColon => "Expecting ':' delimiter"
  | .expectingComma => "Expecting ',' delimiter"
  | .extraData => "Extra data"
  | .unterminatedText => "Unterminated string starting at"
  | .controlCharacter => "Invalid control character at"
  | .badEscape => "Invalid \\escape"
  | .badUnitEscape => "Invalid \\uXXXX escape"
  | .byteOrderMark => "Unexpected UTF-8 BOM (decode using utf-8-sig)"

/-- Why a text is no document. -/
inductive Failure where
  /-- `rest` is the text from the place of the fault on -/
  | malformed (fault : SyntaxFault) (rest : List Char)
  /-- an integer of more digits than a reader converts -/
  | longInteger
  /-- more lists and objects in one another than a reader follows -/
  | tooDeep

/-- Blanks of the format: space, tab and the two line breaks. -/
def isFormatBlank (c : Char) : Bool := c = ' ' || c = '\t' || c = '\n' || c = '\r'

def skipBlanks (cs : List Char) : List Char := cs.dropWhile isFormatBlank

def hexValue? (c : Char) : Option Nat :=
  if '0' ≤ c ∧ c ≤ '9' then some (c.toNat - 48)
  else if 'a' ≤ c ∧ c ≤ 'f' then some (c.toNat - 87)
  else if 'A' ≤ c ∧ c ≤ 'F' then some (c.toNat - 55)
  else none

/-- The value of four hexadecimal digits, which never end a text. -/
def unit? : List Char → Option (Nat × List Char)
  | a :: b :: c :: d :: next :: rest => do
    let a ← hexValue? a
    let b ← hexValue? b
    let c ← hexValue? c
    let d ← hexValue? d
    return (((a * 16 + b) * 16 + c) * 16 + d, next :: rest)
  | _ => none

def shortEscape? : Char → Option Char
  | '"' => some '"'
  | '\\' => some '\\'
  | '/' => some '/'
  | 'b' => some '\x08'
  | 'f' => some '\x0c'
  | 'n' => some '\n'
  | 'r' => some '\r'
  | 't' => some '\t'
  | _ => none

def isHighUnit (n : Nat) : Bool := 0xd800 ≤ n && n < 0xdc00

def isLowUnit (n : Nat) : Bool := 0xdc00 ≤ n && n < 0xe000

/-- A unit that is half of a pair and stands alone is read as the replacement character. -/
def charOfUnit (n : Nat) : Char :=
  if isHighUnit n || isLowUnit n then Char.ofNat 0xfffd else Char.ofNat n

/-- The character of an escape after its `\u`, and what follows it. Two units may form one character. -/
def readUnits (cs : List Char) : Option (Char × List Char) := do
  let (first, rest) ← unit? cs
  if isHighUnit first then
    match rest with
    | '\\' :: 'u' :: more =>
      let (second, after) ← unit? more
      if isLowUnit second then
        return (Char.ofNat (0x10000 + (first - 0xd800) * 0x400 + (second - 0xdc00)), after)
      else return (charOfUnit first, rest)
    | _ => return (charOfUnit first, rest)
  else return (charOfUnit first, rest)

/-- The text up to its closing quote. `opening` is the input from the opening quote on. -/
def readText (opening : List Char) : Nat → List Char → List Char → Except Failure (String × List Char)
  | 0, _, _ | _, _, [] => .error (.malformed .unterminatedText opening)
  | fuel + 1, done, c :: rest =>
    if c = '"' then .ok (String.ofList done.reverse, rest)
    else if c = '\\' then
      match rest with
      | [] => .error (.malformed .unterminatedText opening)
      | 'u' :: units =>
        match readUnits units with
        | some (u, after) => readText opening fuel (u :: done) after
        | none => .error (.malformed .badUnitEscape (c :: rest))
      | e :: after =>
        match shortEscape? e with
        | some plain => readText opening fuel (plain :: done) after
        | none => .error (.malformed .badEscape (c :: rest))
    else if c.toNat < 0x20 then .error (.malformed .controlCharacter (c :: rest))
    else readText opening fuel (c :: done) rest

def natOfDigits (cs : List Char) : Nat := cs.foldl (fun n c => n * 10 + (c.toNat - 48)) 0

/-- Integers of more digits than this are not converted. -/
def digitLimit : Nat := 4300

/-- The digits after a point, if there is at least one. -/
def fraction (cs : List Char) : List Char × List Char :=
  match cs with
  | '.' :: rest =>
    let digits := rest.takeWhile Char.isDigit
    if digits.isEmpty then ([], cs) else (digits, rest.dropWhile Char.isDigit)
  | _ => ([], cs)

/-- A signed exponent, if there is at least one digit. -/
def exponent? (cs : List Char) : Option (Int × List Char) :=
  match cs with
  | e :: rest =>
    if e = 'e' ∨ e = 'E' then
      let (negative, rest) := match rest with
        | '+' :: more => (false, more)
        | '-' :: more => (true, more)
        | _ => (false, rest)
      let digits := rest.takeWhile Char.isDigit
      if digits.isEmpty then none
      else
        let n : Int := natOfDigits digits
        some (if negative then -n else n, rest.dropWhile Char.isDigit)
    else none
  | [] => none

/-- The digits before the point: a single zero, or digits that start with another one. -/
def wholeDigits (cs : List Char) : List Char × List Char :=
  match cs with
  | '0' :: rest => (['0'], rest)
  | _ => (cs.takeWhile Char.isDigit, cs.dropWhile Char.isDigit)

/-- A number: an integer, or a double as soon as it has a fraction or an exponent. -/
def readNumber (opening : List Char) (negative : Bool) (cs : List Char) : Except Failure (Json × List Char) :=
  let (whole, rest) := wholeDigits cs
  if whole.isEmpty then .error (.malformed .expectingValue opening)
  else
    let (places, rest) := fraction rest
    match places, exponent? rest with
    | [], none =>
      if digitLimit < whole.length then .error .longInteger
      else
        let n : Int := natOfDigits whole
        .ok (ofInt (if negative then -n else n), rest)
    | places, exponent =>
      let (power, rest) := exponent.getD (0, rest)
      .ok (.number (.double (Double.ofDecimal negative (natOfDigits (whole ++ places))
        (power - places.length))), rest)

/-- A word of the format, if the text starts with it. -/
def word? (word : String) (cs : List Char) : Option (List Char) :=
  if word.toList.isPrefixOf cs then some (cs.drop word.length) else none

/-- Lists and objects in one another up to this depth are read. -/
def depthLimit : Nat := 985

def readWord (word : String) (value : Json) (cs : List Char) : Except Failure (Json × List Char) :=
  match word? word cs with
  | some rest => .ok (value, rest)
  | none => .error (.malformed .expectingValue cs)

mutual

/-- The value at the start of a text; `depth` more lists and objects may lie in one another. -/
def readValue : Nat → Nat → List Char → Except Failure (Json × List Char)
  | 0, _, cs => .error (.malformed .expectingValue cs)
  | fuel + 1, depth, cs =>
    match cs with
    | '"' :: rest => do
      let (s, rest) ← readText cs (rest.length + 1) [] rest
      return (.text s, rest)
    | '\x7b' :: rest =>
      match depth, skipBlanks rest with
      | 0, _ => .error .tooDeep
      | _, '\x7d' :: rest => .ok (.object [], rest)
      | inner + 1, rest => readFields fuel inner [] rest
    | '[' :: rest =>
      match depth, skipBlanks rest with
      | 0, _ => .error .tooDeep
      | _, ']' :: rest => .ok (.list [], rest)
      | inner + 1, rest => readItems fuel inner [] rest
    | 'n' :: _ => readWord "null" .null cs
    | 't' :: _ => readWord "true" (.bool true) cs
    | 'f' :: _ => readWord "false" (.bool false) cs
    | 'N' :: _ => readWord "NaN" (.number (.double .nan)) cs
    | 'I' :: _ => readWord "Infinity" (.number (.double (.infinite false))) cs
    | '-' :: rest =>
      match word? "Infinity" rest with
      | some rest => .ok (.number (.double (.infinite true)), rest)
      | none => readNumber cs true rest
    | _ => readNumber cs false cs

/-- The items from the next one on; `done` holds the earlier ones, the last first. -/
def readItems : Nat → Nat → List Json → List Char → Except Failure (Json × List Char)
  | 0, _, _, cs => .error (.malformed .expectingValue cs)
  | fuel + 1, depth, done, cs => do
    let (item, rest) ← readValue fuel depth cs
    match skipBlanks rest with
    | ']' :: rest => .ok (.list (item :: done).reverse, rest)
    | ',' :: rest => readItems fuel depth (item :: done) (skipBlanks rest)
    | rest => .error (.malformed .expectingComma rest)

/-- The fields from the next one on; `done` holds the earlier ones in order. -/
def readFields : Nat → Nat → List (String × Json) → List Char → Except Failure (Json × List Char)
  | 0, _, _, cs => .error (.malformed .expectingValue cs)
  | fuel + 1, depth, done, cs =>
    match cs with
    | '"' :: rest => do
      let (key, rest) ← readText cs (rest.length + 1) [] rest
      match skipBlanks rest with
      | ':' :: rest =>
        let (value, rest) ← readValue fuel depth (skipBlanks rest)
        let fields := setField key value done
        match skipBlanks rest with
        | '\x7d' :: rest => .ok (.object fields, rest)
        | ',' :: rest => readFields fuel depth fields (skipBlanks rest)
        | rest => .error (.malformed .expectingComma rest)
      | rest => .error (.malformed .expectingColon rest)
    | _ => .error (.malformed .expectingKey cs)

end

/-- A whole text as one value. -/
def read (s : String) : Except Failure Json :=
  let cs := s.toList
  match cs with
  | '\ufeff' :: _ => .error (.malformed .byteOrderMark cs)
  | _ =>
    match readValue (cs.length + 1) depthLimit (skipBlanks cs) with
    | .error failure => .error failure
    | .ok (value, rest) =>
      match skipBlanks rest with
      | [] => .ok value
      | rest => .error (.malformed .extraData rest)

/-- The line of the place from which `rest` is left of a text, counted from one. -/
def lineAt (s : String) (rest : List Char) : Nat :=
  s.toList.count '\n' - rest.count '\n' + 1

end DashboardCompiler.Json
