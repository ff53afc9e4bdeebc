import DashboardCompiler.Double.Basic

/-!
# Arithmetic of doubles

Sums, differences, products and quotients are computed exactly in units and rounded once by
`Double.round`. Order comparisons are false as soon as nan takes part. `floor`, `ceil` and `truncate`
give integers of any size and fail exactly on nan and on the infinities.
-/

namespace DashboardCompiler.Double

/-- The value of a finite double as a whole number of units; nothing for nan and the infinities. -/
def units? : Double → Option Int
  | .finite negative units _ => some (if negative then -(units : Int) else units)
  | _ => none

def isNegative : Double → Bool
  | .nan => false
  | .infinite negative => negative
  | .finite negative _ _ => negative

def neg : Double → Double
  | .nan => .nan
  | .infinite negative => .infinite !negative
  | .finite negative units fits => .finite (!negative) units fits

/-- The sum is exact before it is rounded; a sum of zero is negative only if both terms are. -/
def add : Double → Double → Double
  | .nan, _ | _, .nan => .nan
  | .infinite a, .infinite b => if a = b then .infinite a else .nan
  | .infinite a, .finite .. | .finite .., .infinite a => .infinite a
  | .finite a m _, .finite b n _ =>
    let total := (if a then -(m : Int) else m) + (if b then -(n : Int) else n)
    if total = 0 then zero (a && b) else round (total < 0) total.natAbs 1

def sub (x y : Double) : Double := add x y.neg

def mul : Double → Double → Double
  | .nan, _ | _, .nan => .nan
  | .infinite a, .infinite b => .infinite (a != b)
  | .infinite a, .finite b n _ | .finite b n _, .infinite a => if n = 0 then .nan else .infinite (a != b)
  | .finite a m _, .finite b n _ => round (a != b) (m * n) unitsPerOne

/-- A zero divisor is a fault whatever is divided. -/
def div : Double → Double → Except ArithmeticFault Double
  | x, .finite b n _ =>
    if n = 0 then .error .divisionByZero
    else match x with
      | .nan => .ok .nan
      | .infinite a => .ok (.infinite (a != b))
      | .finite a m _ => .ok (round (a != b) (m * unitsPerOne) n)
  | .nan, _ | _, .nan => .ok .nan
  | .infinite _, .infinite _ => .ok .nan
  | .finite a _ _, .infinite b => .ok (zero (a != b))

/-- A rounded result; one that left the finite range is a fault. -/
def inRange : Double → Except ArithmeticFault Double
  | .infinite _ => .error .tooLarge
  | x => .ok x

/-- The quotient of two integers, correctly rounded; a zero over a negative number is a negative zero. -/
def ofQuotient (a b : Int) : Except ArithmeticFault Double :=
  if b = 0 then .error .divisionByZero
  else inRange (round ((a < 0) != (b < 0)) (a.natAbs * unitsPerOne) b.natAbs)

/-- An integer as a double, unless it is beyond the finite range. -/
def ofInt? (n : Int) : Except ArithmeticFault Double := inRange (ofInt n)

def lt : Double → Double → Bool
  | .nan, _ | _, .nan => false
  | .infinite a, .infinite b => a && !b
  | .infinite a, .finite .. => a
  | .finite .., .infinite b => !b
  | .finite a m _, .finite b n _ =>
    decide ((if a then -(m : Int) else m) < (if b then -(n : Int) else n))

/-- Equality of values: the two zeros are equal and nan equals nothing. -/
def eqValue : Double → Double → Bool
  | .nan, _ | _, .nan => false
  | .infinite a, .infinite b => a == b
  | .finite a m _, .finite b n _ =>
    decide ((if a then -(m : Int) else m) = (if b then -(n : Int) else n))
  | _, _ => false

def le (x y : Double) : Bool := lt x y || eqValue x y

/-- The integer that a rounding rule gives for the exact fraction `units / unitsPerOne`. -/
def toIntBy (rule : Int → Int → Int) : Double → Except ArithmeticFault Int
  | .nan => .error .undefinedInteger
  | .infinite _ => .error .infiniteInteger
  | .finite negative units _ => .ok (rule (if negative then -(units : Int) else units) unitsPerOne)

def floor : Double → Except ArithmeticFault Int := toIntBy Int.fdiv

def truncate : Double → Except ArithmeticFault Int := toIntBy Int.tdiv

def ceil : Double → Except ArithmeticFault Int := toIntBy fun num den => -(Int.fdiv (-num) den)

/-- Whether the value is a whole number. -/
def isWhole : Double → Bool
  | .finite _ units _ => units % unitsPerOne = 0
  | _ => false

end DashboardCompiler.Double
