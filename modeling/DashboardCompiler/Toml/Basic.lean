import DashboardCompiler.Json.Basic

/-!
# TOML values

What a TOML document holds. Dates and times are one kind of value here: no setting is a moment, so all that
matters is that it is none of the others.
-/

namespace DashboardCompiler

inductive Toml where
  | text (s : String)
  | integer (n : Int)
  | double (x : Double)
  | flag (b : Bool)
  | moment
  | list (items : List Toml)
  | table (fields : List (String × Toml))

namespace Toml

/-- Why a text is no TOML document. -/
inductive Fault where
  | malformed
  /-- an integer of more digits than a reader converts -/
  | longInteger
  /-- more lists and tables in one another than a reader follows -/
  | tooDeep
  deriving DecidableEq, Repr

mutual

/-- The value as a document value. A moment has no form there and is null. -/
def toJson : Toml → Json
  | .text s => .text s
  | .integer n => .ofInt n
  | .double x => .number (.double x)
  | .flag b => .bool b
  | .moment => .null
  | .list items => .list (itemsToJson items)
  | .table fields => .object (fieldsToJson fields)

def itemsToJson : List Toml → List Json
  | [] => []
  | item :: rest => item.toJson :: itemsToJson rest

def fieldsToJson : List (String × Toml) → List (String × Json)
  | [] => []
  | (key, v) :: rest => (key, v.toJson) :: fieldsToJson rest

end

end Toml

end DashboardCompiler
