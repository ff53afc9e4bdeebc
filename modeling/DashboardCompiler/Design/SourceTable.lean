import DashboardCompiler.Design.Dump

/-!
# Entries of source tables

The fields of a source as the generated programs that read plain values get them. A static value that is
no finite number has no plain form there and is written as null.
-/

namespace DashboardCompiler

namespace Json

mutual

/-- The value with null for each double that is not finite. -/
def finiteOnly : Json → Json
  | .number (.double x) => if x.isFinite then .number (.double x) else .null
  | .number (.int n) => .number (.int n)
  | .list items => .list (finiteItems items)
  | .object fields => .object (finiteFields fields)
  | .null => .null
  | .bool b => .bool b
  | .text s => .text s

def finiteItems : List Json → List Json
  | [] => []
  | item :: rest => finiteOnly item :: finiteItems rest

def finiteFields : List (String × Json) → List (String × Json)
  | [] => []
  | (key, value) :: rest => (key, finiteOnly value) :: finiteFields rest

end

end Json

def SourceConfig.tableEntry (c : SourceConfig) : Json := c.toJson.finiteOnly

end DashboardCompiler
