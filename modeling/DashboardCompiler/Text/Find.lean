/-!
# Finding text in text
-/

namespace DashboardCompiler.Text

def occursIn (pattern : List Char) : List Char → Bool
  | [] => pattern.isEmpty
  | c :: rest => pattern.isPrefixOf (c :: rest) || occursIn pattern rest

/-- Whether the text contains the other one. -/
def contains (s pattern : String) : Bool := occursIn pattern.toList s.toList

end DashboardCompiler.Text
