import DashboardCompiler.Design.Properties

/-!
# Validation

A document becomes a design in three passes: its schema, then the widget types and their properties, then
unique ids and the references to data sources. Problems of the schema end the validation; those of the
other passes are reported together, each as one fault.
-/

namespace DashboardCompiler

/-- One problem of a document that is to become a design. -/
inductive DesignFault where
  | misfit (problem : Problem)
  | unknownType (position : Nat) (type : String)
  | duplicateWidget (id : String)
  | duplicateSource (id : String)
  | unknownSource (widget source : String)
  | unsupportedType (type target : String)
  | sharedTypeName (first second name : String)
  deriving DecidableEq, Repr

def DesignFault.message : DesignFault → String
  | .misfit problem => problem.message
  | .unknownType position type =>
    "widgets." ++ toString position ++ ".type: Widget type '" ++ type ++
      "' is not supported (expected one of: " ++ Text.joinWith ", " (Named.names WidgetKind) ++ ")"
  | .duplicateWidget id => "Duplicate widget id '" ++ id ++ "'"
  | .duplicateSource id => "Duplicate data source id '" ++ id ++ "'"
  | .unknownSource widget source =>
    "Widget " ++ widget ++ " references unknown data source '" ++ source ++ "'"
  | .unsupportedType type target =>
    "Widget type '" ++ type ++ "' is not supported in " ++ target
  | .sharedTypeName first second name =>
    "Widget ids '" ++ first ++ "' and '" ++ second ++ "' both generate class " ++ name

namespace Widget

/-- The problems of one widget's type or properties; `position` is its place in the design. -/
def typeFaults (position : Nat) (w : Widget) : List DesignFault :=
  match w.kind? with
  | none => [.unknownType position w.type]
  | some kind =>
    (Properties.read kind w.properties).problems.map fun p =>
      .misfit (p.under ["widgets", toString position, "properties"])

end Widget

/-- The items that are equal to an earlier one, in order. -/
def repeated (seen : List String) : List String → List String
  | [] => []
  | s :: rest => if seen.contains s then s :: repeated seen rest else repeated (s :: seen) rest

namespace Design

def typeFaultsFrom (position : Nat) : List Widget → List DesignFault
  | [] => []
  | w :: rest => w.typeFaults position ++ typeFaultsFrom (position + 1) rest

def typeFaults (d : Design) : List DesignFault := typeFaultsFrom 0 d.widgets

def idFaults (d : Design) : List DesignFault :=
  (repeated [] (d.widgets.map (·.id))).map .duplicateWidget ++
    (repeated [] (d.dataSources.map (·.id))).map .duplicateSource

def referenceFault? (d : Design) (w : Widget) : Option DesignFault :=
  match w.dataSource with
  | none => none
  | some id => if d.dataSources.any (·.id = id) then none else some (.unknownSource w.id id)

def referenceFaults (d : Design) : List DesignFault := d.widgets.filterMap d.referenceFault?

/-- The faults that a design may have although its document fits the schema. -/
def faults (d : Design) : List DesignFault := d.typeFaults ++ d.idFaults ++ d.referenceFaults

def check (d : Design) : Except (List DesignFault) Design :=
  if d.faults.isEmpty then .ok d else .error d.faults

/-- A document as a design without faults, or all faults of the first pass that finds any. -/
def validate (document : Json) : Except (List DesignFault) Design :=
  match Design.read document with
  | .rejected problems => .error (problems.map .misfit)
  | .accepted d => d.check

end Design

end DashboardCompiler
