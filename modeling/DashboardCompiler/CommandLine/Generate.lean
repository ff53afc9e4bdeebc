import DashboardCompiler.CommandLine.Command
import DashboardCompiler.CommandLine.Outcome
import DashboardCompiler.Console.Panel
import DashboardCompiler.Target.All

/-!
# Generating a project

The whole project is made before the first file is written, so a failure before that changes no file. The
files are written one after the other; a fault ends the writing and leaves those before it.
-/

namespace DashboardCompiler.CommandLine

open Console

/-- A project and the directory that it is to be written to. -/
structure Plan where
  project : Project
  directory : Path

namespace GenerateCommand

/-- The options that the command gives; null where it leaves them to the configured ones. -/
def given (c : GenerateCommand) : Schema.Fields :=
  [("framework", .ofOptional .ofNamed c.framework),
   ("output_format", .ofOptional .ofNamed c.outputFormat),
   ("include_comments", .ofOptional .bool c.includeComments),
   ("use_mock_data", .ofOptional .bool c.useMockData)]

def plan (c : GenerateCommand) (t : FileTree) : Except Failure Plan := do
  let config ← (Config.load t c.config).mapError .ofConfig
  let options ← (config.toOptions c.given).toExcept.mapError fun _ => .aborted .misfit
  let design ← (Design.load t c.design).mapError (.ofLoad c.design)
  let project ← (Generator.default.generate design options).mapError .ofGeneration
  return ⟨project, c.output.getD config.outputDirectory⟩

end GenerateCommand

namespace Plan

def pathOf (p : Plan) (file : GeneratedFile) : Path := p.directory.join (.ofText file.filename)

/-- The tree with the files written, or with those before the first fault. -/
def writeFiles (p : Plan) (t : FileTree) : List GeneratedFile → FileTree × Option (AccessFault × Path)
  | [] => (t, none)
  | file :: rest =>
    match t.store (p.pathOf file) file.content.toUTF8 file.executable with
    | .ok next => writeFiles p next rest
    | .error fault => (t, some fault)

def fileLine (file : GeneratedFile) : String :=
  "  " ++ quoted file.filename ++ (if file.executable then " (entry point)" else "")

/-- What is printed once all files are written. -/
def announcement (p : Plan) : List String :=
  let summary := "Generated " ++ toString p.project.files.length ++ " files for " ++
    Named.name p.project.framework ++ " in " ++ quoted p.directory.text
  (summary :: p.project.files.map fileLine).map printed ++
    panel "Next steps" (Text.lines (printed (quoted p.project.instructions)))

def write (p : Plan) (t : FileTree) : Outcome :=
  match p.writeFiles t p.project.files with
  | (after, none) => ⟨0, p.announcement, [], none, after⟩
  | (after, some fault) => (Failure.ofAccess fault).outcome after

end Plan

def GenerateCommand.run (c : GenerateCommand) (t : FileTree) : Outcome :=
  match c.plan t with
  | .ok plan => plan.write t
  | .error failure => failure.outcome t

end DashboardCompiler.CommandLine
