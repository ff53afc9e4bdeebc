import DashboardCompiler.CommandLine.Command
import DashboardCompiler.CommandLine.Outcome
import DashboardCompiler.Target.All

/-!
# Validating a design

A design is valid if it loads and, where a framework is named, if the target for it has nothing against
the design. Warnings on the layout are printed; only a strict run fails for them.
-/

namespace DashboardCompiler.CommandLine

open Console

namespace ValidateCommand

def check (c : ValidateCommand) (t : FileTree) : Except Failure Design := do
  let design ← (Design.load t c.design).mapError (.ofLoad c.design)
  match c.framework with
  | none => return design
  | some framework => do
    let target ← (Generator.default.find framework).mapError .ofGeneration
    let faults := target.designFaults design
    if faults.isEmpty then return design else .error (.refused faults)

def approval (d : Design) : String :=
  "Design is valid: " ++ quoted d.metadata.name ++ " (" ++ toString d.widgets.length ++ " widgets, " ++
    toString d.dataSources.length ++ " data sources)"

def run (c : ValidateCommand) (t : FileTree) : Outcome :=
  match c.check t with
  | .error failure => failure.outcome t
  | .ok design =>
    let warnings := design.lint
    let output := approval design :: warnings.map fun w => "warning: " ++ quoted w.message
    let count := toString warnings.length ++ " layout warning(s) in strict mode"
    let fails := c.strict && !warnings.isEmpty
    ⟨if fails then 1 else 0, output.map printed, if fails then [count] else [], none, t⟩

end ValidateCommand

end DashboardCompiler.CommandLine
