import DashboardCompiler.CommandLine.Generate
import DashboardCompiler.CommandLine.Validate
import DashboardCompiler.Console.Table
import DashboardCompiler.Design.Catalogue

/-!
# Running commands

Each command as a function from the files before it to its outcome. Only a generate command changes files.
-/

namespace DashboardCompiler.CommandLine

open Console

def frameworksTable : Table :=
  ⟨"Frameworks", ["Framework", "Name", "Language", "Dependencies"],
    Generator.default.targets.map fun t =>
      [Named.name t.framework, t.displayName, t.language, Text.joinLines t.dependencies.packages]⟩

def extentText (e : Extent) : String :=
  Number.intText e.width ++ "x" ++ Number.intText e.height

def widgetsTable : Table :=
  ⟨"Widgets", ["Type", "Icon", "Name", "Default size", "Min size", "Description"],
    catalogue.map fun e =>
      [Named.name e.kind, e.icon, e.name, extentText e.defaultSize, extentText e.minSize,
       e.description]⟩

def Command.run (c : Command) (t : FileTree) : Outcome :=
  match c with
  | .generate c => c.run t
  | .validate c => c.run t
  | .frameworks => ⟨0, frameworksTable.lines, [], none, t⟩
  | .widgets => ⟨0, widgetsTable.lines, [], none, t⟩

/-- The files that a command reads. -/
def Command.inputs : Command → List Path
  | .generate c =>
    c.design :: match c.config with
      | some p => [p]
      | none => Config.searched
  | .validate c => [c.design]
  | .frameworks | .widgets => []

/-- The files that a command writes if nothing is in the way. -/
def Command.outputs (c : Command) (t : FileTree) : List Path :=
  match c with
  | .generate c =>
    match c.plan t with
    | .ok plan => plan.project.files.map plan.pathOf
    | .error _ => []
  | _ => []

/-- The paths that the arguments of a command name. -/
def Command.named : Command → List Path
  | .generate c => c.design :: (c.output.toList ++ c.config.toList)
  | .validate c => [c.design]
  | .frameworks | .widgets => []

/-- The outcome of arguments. A mistake of usage ends with 2 and changes nothing, and no command looks at a
path with a null character. -/
def run (arguments : List String) (t : FileTree) : Outcome :=
  match Command.ofArguments? arguments with
  | some command =>
    if command.named.any Path.hasNull then (Failure.aborted .nullInPath).outcome t else command.run t
  | none => ⟨2, [], [], none, t⟩

end DashboardCompiler.CommandLine
