import DashboardCompiler.Double.Decimal

/-!
# Written forms of doubles

A `Notation` record holds the decisions of one written form: where positional digits end, whether a
whole number keeps a point, and the texts for nan and infinity. Which digits are written is the work of
`Double.shortest` and `Double.significant`; the layout is `Notation.layout`.
-/

namespace DashboardCompiler

/-- The layout of a decimal. An exponent has a sign and at least two digits. -/
structure Notation where
  /-- the power of ten of the first digit from which on digits are positional -/
  positionalFrom : Int
  /-- the power of ten of the first digit from which on an exponent is written -/
  positionalBelow : Int
  /-- what follows a positional whole number -/
  wholeSuffix : String
  infinity : String
  notANumber : String

namespace Notation

/-- The digits of a number in base ten, the most significant first. -/
def digitText (n : Nat) : String := String.ofList (Nat.toDigits 10 n)

def zeros (n : Nat) : String := String.ofList (List.replicate n '0')

def exponentText (power : Int) : String :=
  let size := digitText power.natAbs
  let padded := if size.length < 2 then "0" ++ size else size
  (if power < 0 then "e-" else "e+") ++ padded

/-- The text of a positive decimal. -/
def layout (form : Notation) (d : Decimal) : String :=
  let digits := Nat.toDigits 10 d.digits
  let first : Int := (digits.length : Int) + d.exponent - 1
  if first < form.positionalFrom ∨ form.positionalBelow ≤ first then
    let head := String.ofList (digits.take 1)
    let tail := digits.drop 1
    let fraction := if tail.isEmpty then "" else "." ++ String.ofList tail
    head ++ fraction ++ exponentText first
  else if first < 0 then "0." ++ zeros (-first - 1).toNat ++ String.ofList digits
  else if 0 ≤ d.exponent then String.ofList digits ++ zeros d.exponent.toNat ++ form.wholeSuffix
  else
    let whole := (first + 1).toNat
    String.ofList (digits.take whole) ++ "." ++ String.ofList (digits.drop whole)

def signText (negative : Bool) : String := if negative then "-" else ""

/-- A double with the digits that `select` chooses for its size. -/
def render (form : Notation) (select : Nat → Decimal) : Double → String
  | .nan => form.notANumber
  | .infinite negative => signText negative ++ form.infinity
  | .finite negative units _ =>
    signText negative ++ (if units = 0 then "0" ++ form.wholeSuffix else form.layout (select units))

end Notation

namespace Double

/-- Doubles in source text: the fewest digits that read back, positional from `1e-4` below `1e16`. -/
def identifying : Notation := ⟨-4, 16, ".0", "inf", "nan"⟩

/-- The same digits with the spellings of infinity and nan that JSON documents use. -/
def documentForm : Notation := ⟨-4, 16, ".0", "Infinity", "NaN"⟩

/-- Six significant digits without trailing zeros, positional below a million. -/
def general : Notation := ⟨-4, 6, "", "inf", "nan"⟩

def text (x : Double) : String := identifying.render shortest x

def documentText (x : Double) : String := documentForm.render shortest x

def generalText (x : Double) : String := general.render (significant · 6) x

/-- One decimal place, the exact value rounded with ties to even, never with an exponent. -/
def tenths : Double → String
  | .nan => "nan"
  | .infinite negative => Notation.signText negative ++ "inf"
  | .finite negative units _ =>
    let n := scaled units 1
    Notation.signText negative ++ Notation.digitText (n / 10) ++ "." ++ Notation.digitText (n % 10)

end Double

end DashboardCompiler
