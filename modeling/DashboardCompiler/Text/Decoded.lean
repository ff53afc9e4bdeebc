/-!
# Decoded texts

The text of a file: UTF-8, with every kind of line break read as a line feed.
-/

namespace DashboardCompiler.Text

/-- A carriage return counts as a line feed, alone or with a line feed after it. -/
def unifyBreaks : List Char → List Char
  | [] => []
  | '\r' :: '\n' :: rest => '\n' :: unifyBreaks rest
  | '\r' :: rest => '\n' :: unifyBreaks rest
  | c :: rest => c :: unifyBreaks rest

/-- The text of the bytes, unless they are no UTF-8. -/
def decoded? (bytes : ByteArray) : Option String :=
  (String.fromUTF8? bytes).map fun s => String.ofList (unifyBreaks s.toList)

end DashboardCompiler.Text
