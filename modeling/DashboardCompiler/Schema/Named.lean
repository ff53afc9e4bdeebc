/-!
# Enumerations with names

The members of an enumeration in their order, and the name of each in documents.
-/

namespace DashboardCompiler

class Named (α : Type) where
  members : List α
  name : α → String

namespace Named

variable {α : Type} [Named α]

def names (α : Type) [Named α] : List String := (members : List α).map name

/-- The member with exactly this name. -/
def ofName? (s : String) : Option α := members.find? fun a => name a = s

end Named

end DashboardCompiler
