import DashboardCompiler.CommandLine.Switch
import DashboardCompiler.Design.Kinds
import DashboardCompiler.Schema.Named
import DashboardCompiler.Storage.Path

/-!
# Commands

What the command line can be asked for, and how arguments ask for it. Arguments that ask for nothing it
knows are a mistake of usage, whichever of them is to blame.
-/

namespace DashboardCompiler.CommandLine

structure GenerateCommand where
  design : Path
  output : Option Path
  framework : Option Framework
  outputFormat : Option OutputFormat
  includeComments : Option Bool
  useMockData : Option Bool
  config : Option Path

structure ValidateCommand where
  design : Path
  strict : Bool
  framework : Option Framework

inductive Command where
  | generate (c : GenerateCommand)
  | validate (c : ValidateCommand)
  | frameworks
  | widgets

/-- What the switches of a generate command say, as written. -/
structure GenerateEntries where
  framework : Option String
  outputFormat : Option String
  includeComments : Option Bool
  useMockData : Option Bool
  config : Option String

def generateSwitches : List (Switch GenerateEntries) :=
  [⟨"--framework", some 'f', .value fun v e => { e with framework := some v }⟩,
   ⟨"--format", none, .value fun v e => { e with outputFormat := some v }⟩,
   ⟨"--comments", none, .flag fun e => { e with includeComments := some true }⟩,
   ⟨"--no-comments", none, .flag fun e => { e with includeComments := some false }⟩,
   ⟨"--mock-data", none, .flag fun e => { e with useMockData := some true }⟩,
   ⟨"--no-mock-data", none, .flag fun e => { e with useMockData := some false }⟩,
   ⟨"--config", some 'c', .value fun v e => { e with config := some v }⟩]

structure ValidateEntries where
  strict : Bool
  framework : Option String

def validateSwitches : List (Switch ValidateEntries) :=
  [⟨"--strict", none, .flag fun e => { e with strict := true }⟩,
   ⟨"--framework", some 'f', .value fun v e => { e with framework := some v }⟩]

/-- No entry is no choice; an entry has to be the name of a member. -/
def choice? {α : Type} [Named α] : Option String → Option (Option α)
  | none => some none
  | some s => (Named.ofName? s).map some

/-- A design and perhaps an output directory. -/
def generatePaths? : List String → Option (Path × Option Path)
  | [design] => some (.ofText design, none)
  | [design, output] => some (.ofText design, some (.ofText output))
  | _ => none

def GenerateCommand.ofArguments? (arguments : List String) : Option GenerateCommand := do
  let (entries, positional) ← readArguments generateSwitches ⟨none, none, none, none, none⟩ arguments
  let (design, output) ← generatePaths? positional
  let framework ← choice? entries.framework
  let outputFormat ← choice? entries.outputFormat
  return ⟨design, output, framework, outputFormat, entries.includeComments, entries.useMockData,
    entries.config.map .ofText⟩

def ValidateCommand.ofArguments? (arguments : List String) : Option ValidateCommand := do
  let (entries, positional) ← readArguments validateSwitches ⟨false, none⟩ arguments
  let framework ← choice? entries.framework
  match positional with
  | [design] => return ⟨.ofText design, entries.strict, framework⟩
  | _ => none

/-- Neither a switch nor anything else may follow a command that only lists. -/
def listing? (c : Command) (arguments : List String) : Option Command :=
  match readArguments ([] : List (Switch Unit)) () arguments with
  | some (_, []) => some c
  | _ => none

namespace Command

def named? (name : String) (arguments : List String) : Option Command :=
  match name with
  | "generate" => (GenerateCommand.ofArguments? arguments).map .generate
  | "validate" => (ValidateCommand.ofArguments? arguments).map .validate
  | "frameworks" => listing? .frameworks arguments
  | "widgets" => listing? .widgets arguments
  | _ => none

/-- The command that the arguments ask for; its name comes first, or after two dashes. -/
def ofArguments? : List String → Option Command
  | "--" :: name :: rest => named? name rest
  | name :: rest => named? name rest
  | [] => none

end Command

end DashboardCompiler.CommandLine
