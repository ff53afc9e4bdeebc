import DashboardCompiler.Json.Reader
import DashboardCompiler.Schema.Checked
import DashboardCompiler.Schema.Named
import DashboardCompiler.Text.Find
import DashboardCompiler.Unicode.Blank

/-!
# Reading scalars

Fields are read leniently: flags and whole doubles count as integers, numbers and flags may be written as
text. Each reader says which of its causes a value that does not fit has.
-/

namespace DashboardCompiler.Schema

def readText : Json → Checked String
  | .text s => .accepted s
  | _ => .fail .notText

def readFilledText (v : Json) : Checked String :=
  (readText v).andThen fun s => if s.isEmpty then .fail .emptyText else .accepted s

/-- A sign in front, and what follows it. -/
def splitSign : List Char → Bool × List Char
  | '+' :: rest => (false, rest)
  | '-' :: rest => (true, rest)
  | cs => (false, cs)

/-- The text without its underscores, unless one of them is first, last or next to another. -/
def withoutUnderscores? (cs : List Char) : Option (List Char) :=
  if cs.head? = some '_' ∨ cs.getLast? = some '_' ∨ Text.occursIn "__".toList cs then none
  else some (cs.filter (· ≠ '_'))

/-- A number from its first digit other than zero on. Underscores among the zeros count as zeros, and a
minus sign may follow them. The last zero stays in front of a point and where nothing else follows. -/
def afterZeros (last : Char) : List Char → Option (List Char)
  | [] => some [last]
  | c :: rest =>
    if c = '0' ∨ c = '_' then afterZeros c rest
    else if c.isDigit ∨ c = '-' then some (c :: rest)
    else if c = '.' then some (last :: c :: rest)
    else none

/-- Zeros in front are dropped; a number starts with a digit or a minus sign. -/
def withoutZeros? : List Char → Option (List Char)
  | '0' :: rest => afterZeros '0' rest
  | c :: rest => if c.isDigit ∨ c = '-' then some (c :: rest) else none
  | [] => none

/-- A fraction of zeros alone is dropped with its point. -/
def withoutZeroFraction (cs : List Char) : List Char :=
  match cs.dropWhile (· ≠ '.') with
  | _ :: zero :: zeros =>
    if (zero :: zeros).all (· = '0') then cs.takeWhile (· ≠ '.') else cs
  | _ => cs

/-- Digits with an optional minus sign. The first of several digits is not zero, and sign and digits
together stay within the limit of a reader. -/
def plainInteger (cs : List Char) : Except Cause Int :=
  let (negative, body) := match cs with
    | '-' :: rest => (true, rest)
    | _ => (false, cs)
  let digits := body.takeWhile Char.isDigit
  let size := digits.length + if negative then 1 else 0
  if digits.isEmpty ∨ digits.head? = some '0' ∧ 1 < digits.length then .error .unreadableInteger
  else if Json.digitLimit < size then .error .hugeInteger
  else if digits.length < body.length then .error .unreadableInteger
  else
    let n : Int := Json.natOfDigits digits
    .ok (if negative then -n else n)

/-- An integer as text. White space around it, a plus sign, zeros in front, a fraction of zeros and
underscores mean nothing; what is left is a plain integer. -/
def textInteger (s : String) : Except Cause Int :=
  let trimmed := Unicode.trimBy Unicode.isWhiteSpace s.toList
  let unsigned := match trimmed with
    | '+' :: '-' :: _ => none
    | '+' :: rest => some rest
    | cs => some cs
  match unsigned.bind withoutZeros? with
  | none => .error .unreadableInteger
  | some cs =>
    let whole := withoutZeroFraction cs
    plainInteger ((withoutUnderscores? whole).getD whole)

/-- Integers of 64 bits lie below this size: `2 ^ 63`. -/
def wordLimit : Int := 9223372036854775808

/-- Whole doubles are integers as long as they are inside the 64-bit range. -/
def integerOfDouble (x : Double) : Checked Int :=
  if !x.isFinite then .fail .infiniteInteger
  else if !x.isWhole then .fail .fractionalInteger
  else match x.truncate with
    | .error _ => .fail .infiniteInteger
    | .ok n => if -wordLimit < n ∧ n < wordLimit then .accepted n else .fail .hugeInteger

def readAnyInteger : Json → Checked Int
  | .bool b => .accepted (if b then 1 else 0)
  | .number (.int n) => .accepted n
  | .number (.double x) => integerOfDouble x
  | .text s =>
    match textInteger s with
    | .ok n => .accepted n
    | .error cause => .fail cause
  | _ => .fail .notInteger

/-- An integer within bounds, either of which may be absent. -/
def readInteger (least greatest : Option Int) (v : Json) : Checked Int :=
  (readAnyInteger v).andThen fun n =>
    match least, greatest with
    | some l, _ => if n < l then .fail (.below l) else
      match greatest with
      | some g => if g < n then .fail (.above g) else .accepted n
      | none => .accepted n
    | none, some g => if g < n then .fail (.above g) else .accepted n
    | none, none => .accepted n

/-- The text is compared in ASCII lower case. -/
def textFlag? (s : String) : Option Bool :=
  let word := String.ofList (s.toList.map Char.toLower)
  if ["0", "off", "f", "false", "n", "no"].contains word then some false
  else if ["1", "on", "t", "true", "y", "yes"].contains word then some true
  else none

def flagOfInt (n : Int) : Checked Bool :=
  if n = 0 then .accepted false else if n = 1 then .accepted true else .fail .unreadableFlag

def readFlag : Json → Checked Bool
  | .bool b => .accepted b
  | .text s =>
    match textFlag? s with
    | some b => .accepted b
    | none => .fail .unreadableFlag
  | .number (.int n) => if -wordLimit ≤ n ∧ n < wordLimit then flagOfInt n else .fail .notFlag
  | .number (.double x) =>
    match integerOfDouble x with
    | .accepted n => flagOfInt n
    | .rejected _ => .fail .notFlag
  | _ => .fail .notFlag

/-- The power of ten after the mark of an exponent; none where there is no mark. -/
def exponent? : List Char → Option Int
  | [] => some 0
  | _ :: rest =>
    let (negative, digits) := splitSign rest
    if digits.isEmpty ∨ !digits.all Char.isDigit then none
    else
      let n : Int := Json.natOfDigits digits
      some (if negative then -n else n)

/-- Digits around an optional point, at least one of them, and an optional exponent. -/
def decimalText? (negative : Bool) (cs : List Char) : Option Double := do
  let isMark : Char → Bool := fun c => c = 'e' || c = 'E'
  let mantissa := cs.takeWhile (!isMark ·)
  let whole := mantissa.takeWhile (· ≠ '.')
  let places := (mantissa.dropWhile (· ≠ '.')).drop 1
  let digits := whole ++ places
  let power ← exponent? (cs.dropWhile (!isMark ·))
  if digits.isEmpty ∨ !digits.all Char.isDigit then none
  else return Double.ofDecimal negative (Json.natOfDigits digits) (power - places.length)

/-- A number: decimal, or a word for infinity or nan in any ASCII case. -/
def plainDouble? (cs : List Char) : Option Double :=
  let (negative, body) := splitSign cs
  let word := String.ofList (body.map Char.toLower)
  if word = "inf" ∨ word = "infinity" then some (.infinite negative)
  else if word = "nan" then some .nan
  else decimalText? negative body

/-- A number as text. White space may surround it, or underscores may stand inside it, but not both. -/
def textDouble? (s : String) : Option Double :=
  plainDouble? (Unicode.trimBy Unicode.isWhiteSpace s.toList) <|>
    (withoutUnderscores? s.toList).bind plainDouble?

def readDouble : Json → Checked Double
  | .bool b => .accepted (Double.ofInt (if b then 1 else 0))
  | .number (.double x) => .accepted x
  | .number (.int n) => .ofExcept .notNumber (Double.ofInt? n)
  | .text s =>
    match textDouble? s with
    | some x => .accepted x
    | none => .fail .unreadableNumber
  | _ => .fail .notNumber

/-- Exactly one of the names of an enumeration. -/
def readChoice {α : Type} [Named α] : Json → Checked α
  | .text s =>
    match Named.ofName? s with
    | some a => .accepted a
    | none => .fail (.notChoice (Named.names α))
  | _ => .fail (.notChoice (Named.names α))

def readList {α : Type} (read : Json → Checked α) : Json → Checked (List α)
  | .list items => Checked.all read 0 items
  | _ => .fail .notList

/-- Null stands for no value. -/
def readOptional {α : Type} (read : Json → Checked α) : Json → Checked (Option α)
  | .null => .accepted none
  | v => (read v).map some

end DashboardCompiler.Schema
