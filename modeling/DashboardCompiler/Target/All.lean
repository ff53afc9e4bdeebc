import DashboardCompiler.Generation.Generator
import DashboardCompiler.Target.Blessed.Program
import DashboardCompiler.Target.BubbleTea.Program
import DashboardCompiler.Target.Ratatui.Program
import DashboardCompiler.Target.Textual.Program

/-!
# The built-in targets

One for each framework, and the generator that knows them all.
-/

namespace DashboardCompiler

def Target.ofFramework : Framework → Target
  | .textual => .textual
  | .bubbleTea => .bubbleTea
  | .ratatui => .ratatui
  | .blessed => .blessed

theorem Target.framework_ofFramework (f : Framework) : (Target.ofFramework f).framework = f := by
  cases f <;> rfl

/-- Every built-in target, in the order of the frameworks. -/
def Generator.default : Generator := ⟨(Named.members : List Framework).map Target.ofFramework⟩

end DashboardCompiler
