import DashboardCompiler.Json.Reader
import DashboardCompiler.Toml.Blank

/-!
# Numbers and moments of TOML

Integers in four bases, doubles, dates and times. Each is as much of the text as its grammar takes; what
follows is for the statement to judge. A date has to be in the calendar.
-/

namespace DashboardCompiler.Toml

/-- Digits after the first one, with single underscores between digits. -/
def moreDigits (digit : Char → Bool) : List Char → List Char × List Char
  | [] => ([], [])
  | [c] => if digit c then ([c], []) else ([], [c])
  | c :: d :: rest =>
    if digit c then
      let (digits, after) := moreDigits digit (d :: rest)
      (c :: digits, after)
    else if c = '_' && digit d then moreDigits digit (d :: rest)
    else ([], c :: d :: rest)

/-- At least one digit, with single underscores between digits. -/
def digitRun? (digit : Char → Bool) : List Char → Option (List Char × List Char)
  | [] => none
  | c :: rest =>
    if digit c then
      let (digits, after) := moreDigits digit rest
      some (c :: digits, after)
    else none

def isDigitBelow (base : Nat) (c : Char) : Bool :=
  match Json.hexValue? c with
  | some n => n < base
  | none => false

def natInBase (base : Nat) (digits : List Char) : Nat :=
  digits.foldl (fun n c => n * base + (Json.hexValue? c).getD 0) 0

/-- An integer in base sixteen, eight or two. -/
def basedInteger? (cs : List Char) : Option (Toml × List Char) := do
  let (base, rest) ← match cs with
    | '0' :: 'x' :: rest => some (16, rest)
    | '0' :: 'o' :: rest => some (8, rest)
    | '0' :: 'b' :: rest => some (2, rest)
    | _ => none
  let (digits, after) ← digitRun? (isDigitBelow base) rest
  return (.integer (natInBase base digits), after)

def splitSign : List Char → Bool × List Char
  | '+' :: rest => (false, rest)
  | '-' :: rest => (true, rest)
  | cs => (false, cs)

/-- The digits before the point: a single zero, or digits that start with another one. -/
def wholePart? (cs : List Char) : Option (List Char × List Char) :=
  match cs with
  | '0' :: rest => some (['0'], rest)
  | _ => digitRun? Char.isDigit cs

/-- The digits after a point, if there are any. -/
def places (cs : List Char) : List Char × List Char :=
  match cs with
  | '.' :: rest => (digitRun? Char.isDigit rest).getD ([], cs)
  | _ => ([], cs)

/-- The power of ten, if there is one. -/
def power? (cs : List Char) : Option (Int × List Char) :=
  match cs with
  | e :: rest =>
    if e = 'e' || e = 'E' then do
      let (negative, rest) := splitSign rest
      let (digits, after) ← digitRun? Char.isDigit rest
      let n : Int := Json.natOfDigits digits
      return (if negative then -n else n, after)
    else none
  | [] => none

/-- A decimal number: an integer, or a double as soon as it has a fraction or an exponent. -/
def decimal? (cs : List Char) : Option (Except Fault (Toml × List Char)) := do
  let (negative, rest) := splitSign cs
  let (whole, rest) ← wholePart? rest
  let (fraction, rest) := places rest
  match fraction, power? rest with
  | [], none =>
    let n : Int := Json.natOfDigits whole
    return if Json.digitLimit < whole.length then .error .longInteger
      else .ok (.integer (if negative then -n else n), rest)
  | fraction, power =>
    let (exponent, rest) := power.getD (0, rest)
    return .ok (.double (Double.ofDecimal negative (Json.natOfDigits (whole ++ fraction))
      (exponent - fraction.length)), rest)

/-- The words for infinity and nan, with or without a sign. -/
def doubleWord? (cs : List Char) : Option (Toml × List Char) :=
  let (negative, rest) := splitSign cs
  match rest with
  | 'i' :: 'n' :: 'f' :: after => some (.double (.infinite negative), after)
  | 'n' :: 'a' :: 'n' :: after => some (.double .nan, after)
  | _ => none

def twoDigits? (a b : Char) : Option Nat :=
  if a.isDigit && b.isDigit then some (Json.natOfDigits [a, b]) else none

/-- A two-digit number below a limit. -/
def isBelow (limit : Nat) (a b : Char) : Bool :=
  match twoDigits? a b with
  | some n => n < limit
  | none => false

def skipFraction : List Char → List Char
  | '.' :: d :: rest => if d.isDigit then rest.dropWhile Char.isDigit else '.' :: d :: rest
  | cs => cs

/-- The text after a time of day. -/
def afterClock? : List Char → Option (List Char)
  | a :: b :: ':' :: c :: d :: ':' :: e :: f :: rest =>
    if isBelow 24 a b && isBelow 60 c d && isBelow 60 e f then some (skipFraction rest) else none
  | _ => none

/-- The text after the offset of a time, if it has one. -/
def skipOffset (cs : List Char) : List Char :=
  match cs with
  | 'Z' :: rest | 'z' :: rest => rest
  | sign :: a :: b :: ':' :: c :: d :: rest =>
    if (sign = '+' || sign = '-') && isBelow 24 a b && isBelow 60 c d then rest else cs
  | _ => cs

def isLeap (year : Nat) : Bool := year % 4 = 0 && (year % 100 ≠ 0 || year % 400 = 0)

def daysIn (year month : Nat) : Nat :=
  if month = 2 then (if isLeap year then 29 else 28)
  else if month = 4 ∨ month = 6 ∨ month = 9 ∨ month = 11 then 30
  else 31

/-- The year, month and day at the start of a text, and what follows them. -/
def date? : List Char → Option ((Nat × Nat × Nat) × List Char)
  | a :: b :: c :: d :: '-' :: e :: f :: '-' :: g :: h :: rest => do
    let century ← twoDigits? a b
    let year ← twoDigits? c d
    let month ← twoDigits? e f
    let day ← twoDigits? g h
    if 1 ≤ month ∧ month ≤ 12 ∧ 1 ≤ day ∧ day ≤ 31 then
      return ((century * 100 + year, month, day), rest)
    else none
  | _ => none

/-- The text after the time that belongs to a date, if one does. -/
def skipClock (cs : List Char) : List Char :=
  match cs with
  | mark :: rest =>
    if mark = 'T' || mark = 't' || mark = ' ' then
      match afterClock? rest with
      | some after => skipOffset after
      | none => cs
    else cs
  | [] => cs

/-- A date with or without a time, or a time of day. -/
def moment? (cs : List Char) : Option (Except Fault (Toml × List Char)) :=
  match date? cs with
  | some ((year, month, day), rest) =>
    some (if year = 0 ∨ daysIn year month < day then .error .malformed
      else .ok (.moment, skipClock rest))
  | none => (afterClock? cs).map fun rest => .ok (.moment, rest)

/-- A value that is neither text nor a container. -/
def scalar (cs : List Char) : Except Fault (Toml × List Char) :=
  let word? (word : String) : Option (List Char) :=
    if word.toList.isPrefixOf cs then some (cs.drop word.length) else none
  match word? "true", word? "false" with
  | some rest, _ => .ok (.flag true, rest)
  | none, some rest => .ok (.flag false, rest)
  | none, none =>
    (moment? cs <|> (basedInteger? cs).map Except.ok <|> decimal? cs <|>
      (doubleWord? cs).map Except.ok).getD
      (.error .malformed)

end DashboardCompiler.Toml
