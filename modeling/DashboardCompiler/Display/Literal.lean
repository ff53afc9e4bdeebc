import DashboardCompiler.Json.Writer

/-!
# Literals shared by the targets

Numbers, flags and durations as they are written into generated source.
-/

namespace DashboardCompiler.Literal

/-- A double with a decimal point or an exponent, which Go, Rust and JavaScript all read as a double. Nan
and the infinities, which they have no literal for, become zero. -/
def ofDouble (x : Double) : String := if x.isFinite then x.text else "0.0"

/-- A number of any size as the double nearest to it. -/
def ofNumber (n : Number) : Except ArithmeticFault String := do
  return ofDouble (← n.toDouble)

/-- A number that is a double, or an integer that one holds. -/
def float : Number → String
  | .int n => ofDouble (Double.ofInt n)
  | .double x => ofDouble x

def flag (b : Bool) : String := if b then "true" else "false"

/-- Milliseconds as seconds. -/
def seconds (ms : Int) : Double := Double.round (ms < 0) (ms.natAbs * unitsPerOne) 1000

end DashboardCompiler.Literal
