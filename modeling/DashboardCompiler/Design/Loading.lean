import DashboardCompiler.Design.Validation
import DashboardCompiler.Json.Reader
import DashboardCompiler.Storage.FileTree
import DashboardCompiler.Text.Decoded

/-!
# Loading designs

A design file is read as text, as a document, as an object and as a design, in this order; the first of
these steps that fails gives the fault.
-/

namespace DashboardCompiler

/-- Why no design came out of a file. -/
inductive LoadFault where
  | unreadable (fault : AccessFault)
  | notText
  | malformed (line : Nat) (fault : Json.SyntaxFault)
  | longInteger
  | tooDeep
  | notObject
  | refused (faults : List DesignFault)

/-- The wording of the faults of a file, as opposed to those of the design in it. -/
def LoadFault.message? (p : Path) : LoadFault → Option String
  | .unreadable fault =>
    fault.number?.map fun _ => p.text ++ ": Cannot read design file: " ++ fault.reason
  | .malformed line fault =>
    some (p.text ++ ": Invalid JSON at line " ++ toString line ++ ": " ++ fault.message)
  | .notObject => some (p.text ++ ": Design document must be a JSON object")
  | .notText | .longInteger | .tooDeep | .refused _ => none

namespace Design

/-- The design in the text of a file. -/
def ofText (text : String) : Except LoadFault Design :=
  match Json.read text with
  | .error (.malformed fault rest) => .error (.malformed (Json.lineAt text rest) fault)
  | .error .longInteger => .error .longInteger
  | .error .tooDeep => .error .tooDeep
  | .ok (.object fields) => (validate (.object fields)).mapError .refused
  | .ok _ => .error .notObject

def ofBytes (bytes : ByteArray) : Except LoadFault Design :=
  match Text.decoded? bytes with
  | none => .error .notText
  | some text => ofText text

def load (t : FileTree) (p : Path) : Except LoadFault Design :=
  match t.read p with
  | .error fault => .error (.unreadable fault)
  | .ok bytes => ofBytes bytes

end Design

end DashboardCompiler
