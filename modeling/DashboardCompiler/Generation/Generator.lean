import DashboardCompiler.Generation.Target

/-!
# Generators

A generator is a list of targets with at most one for each framework. Generation looks the target up, asks
it for what stands against the design, and only then assembles the project.
-/

namespace DashboardCompiler

/-- Why no project came out of a design. -/
inductive GenerationFault where
  | noTarget (framework : String)
  | unsuitable (faults : List DesignFault)
  | misfit (problems : List Problem)
  | arithmetic (fault : ArithmeticFault)

/-- The wording of a refused design, all its faults in one line. -/
def Design.refusal (faults : List DesignFault) : String :=
  "Design validation failed: " ++ Text.joinWith ", " (faults.map (·.message))

def noTargetMessage (framework : String) : String :=
  "No adapter registered for framework: " ++ framework

namespace Target

/-- The whole project of a design that is taken as it is. -/
def generate (t : Target) (d : Design) (options : Options) : Except GenerationFault Project :=
  match Scene.ofDesign d options with
  | .rejected problems => .error (.misfit problems)
  | .accepted scene =>
    match t.generateScene scene with
    | .error fault => .error (.arithmetic fault)
    | .ok project => .ok project

end Target

structure Generator where
  targets : List Target

namespace Generator

def empty : Generator := ⟨[]⟩

/-- A target takes the place of the one for its framework, or goes to the end. -/
def put (t : Target) : List Target → List Target
  | [] => [t]
  | u :: rest => if u.framework = t.framework then t :: rest else u :: put t rest

def register (g : Generator) (t : Target) : Generator := ⟨put t g.targets⟩

def frameworks (g : Generator) : List Framework := g.targets.map (·.framework)

def target? (g : Generator) (framework : Framework) : Option Target :=
  g.targets.find? (·.framework = framework)

def find (g : Generator) (framework : Framework) : Except GenerationFault Target :=
  match g.target? framework with
  | some t => .ok t
  | none => .error (.noTarget (Named.name framework))

/-- The target of the framework with this name. -/
def findNamed (g : Generator) (name : String) : Except GenerationFault Target :=
  match Named.ofName? name with
  | some framework => g.find framework
  | none => .error (.noTarget name)

/-- The project of a design, unless its target finds something against the design. -/
def generate (g : Generator) (d : Design) (options : Options) : Except GenerationFault Project := do
  let t ← g.find options.framework
  let faults := t.designFaults d
  if faults.isEmpty then t.generate d options else .error (.unsuitable faults)

end Generator

end DashboardCompiler
