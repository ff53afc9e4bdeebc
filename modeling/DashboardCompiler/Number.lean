import DashboardCompiler.Double.Notation

/-!
# Numbers of a document

A document number is an integer of any size or a double, and the two stay apart: integers add and
subtract exactly, a quotient of integers is rounded once, and every other mixed step goes through
doubles. Comparisons between the two kinds are exact.
-/

namespace DashboardCompiler

inductive Number where
  | int (n : Int)
  | double (x : Double)
  deriving DecidableEq

namespace Number

def toDouble : Number → Except ArithmeticFault Double
  | .int n => Double.ofInt? n
  | .double x => .ok x

/-- Where a number stands on the extended line, in units; nothing for nan. -/
inductive Place where
  | below
  | at (units : Int)
  | above

def place? : Number → Option Place
  | .int n => some (.at (n * unitsPerOne))
  | .double .nan => none
  | .double (.infinite negative) => some (if negative then .below else .above)
  | .double (.finite negative units _) => some (.at (if negative then -(units : Int) else units))

def Place.lt : Place → Place → Bool
  | .below, .below | _, .below | .above, _ => false
  | .below, _ | _, .above => true
  | .at m, .at n => decide (m < n)

def Place.same : Place → Place → Bool
  | .below, .below | .above, .above => true
  | .at m, .at n => decide (m = n)
  | _, _ => false

def lt (a b : Number) : Bool :=
  match a.place?, b.place? with
  | some p, some q => p.lt q
  | _, _ => false

def eqValue (a b : Number) : Bool :=
  match a.place?, b.place? with
  | some p, some q => p.same q
  | _, _ => false

def le (a b : Number) : Bool := a.lt b || a.eqValue b

/-- The exact operation on two integers, otherwise the one on doubles. -/
def combine (exact : Int → Int → Int) (rounded : Double → Double → Double) (a b : Number) :
    Except ArithmeticFault Number :=
  match a, b with
  | .int m, .int n => .ok (.int (exact m n))
  | a, b => do
    let x ← a.toDouble
    let y ← b.toDouble
    return .double (rounded x y)

def add (a b : Number) : Except ArithmeticFault Number := combine (· + ·) Double.add a b

def sub (a b : Number) : Except ArithmeticFault Number := combine (· - ·) Double.sub a b

/-- A quotient is always a double. -/
def div (a b : Number) : Except ArithmeticFault Double :=
  match a, b with
  | .int m, .int n => Double.ofQuotient m n
  | a, b => do
    let x ← a.toDouble
    let y ← b.toDouble
    x.div y

/-- The first number that no later one of the list is strictly below. -/
def least (first : Number) (rest : List Number) : Number :=
  rest.foldl (fun best n => if n.lt best then n else best) first

/-- The first number that no later one of the list is strictly above. -/
def greatest (first : Number) (rest : List Number) : Number :=
  rest.foldl (fun best n => if best.lt n then n else best) first

def intText (n : Int) : String :=
  Notation.signText (n < 0) ++ Notation.digitText n.natAbs

/-- The text that identifies the number and its kind. -/
def text : Number → String
  | .int n => intText n
  | .double x => x.text

/-- One decimal place; an integer is shown as the double nearest to it. -/
def tenths (n : Number) : Except ArithmeticFault String := do
  return (← n.toDouble).tenths

end Number

end DashboardCompiler
