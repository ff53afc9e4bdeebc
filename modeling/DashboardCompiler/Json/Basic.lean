import DashboardCompiler.Number

/-!
# Document values

The values that design files hold. Objects keep their fields in order, and a field that is written
again keeps its first place and takes the last value.
-/

namespace DashboardCompiler

inductive Json where
  | null
  | bool (b : Bool)
  | number (n : Number)
  | text (s : String)
  | list (items : List Json)
  | object (fields : List (String × Json))

namespace Json

def ofInt (n : Int) : Json := .number (.int n)

def ofOptional {α : Type} (write : α → Json) : Option α → Json
  | none => .null
  | some a => write a

/-- The value of the first field with this name. -/
def lookup (key : String) (fields : List (String × Json)) : Option Json :=
  List.lookup key fields

/-- A new key goes to the end; a key that is there keeps its place. -/
def setField (key : String) (value : Json) : List (String × Json) → List (String × Json)
  | [] => [(key, value)]
  | (k, v) :: rest => if k = key then (k, value) :: rest else (k, v) :: setField key value rest

end Json

end DashboardCompiler
