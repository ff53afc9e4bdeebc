import DashboardCompiler.Design.Kinds

/-!
# Generated projects

The files of a project in the order they are written out, what the project needs to run, and the steps
that a person takes to run it. Nothing is written to disk here.
-/

namespace DashboardCompiler

structure GeneratedFile where
  filename : String
  language : String
  executable : Bool
  content : String
  deriving DecidableEq

structure Dependencies where
  packages : List String
  system : List String
  dev : List String
  deriving DecidableEq

structure Project where
  framework : Framework
  files : List GeneratedFile
  dependencies : Dependencies
  instructions : String
  deriving DecidableEq

namespace Project

def filenames (p : Project) : List String := p.files.map (·.filename)

def file? (p : Project) (filename : String) : Option GeneratedFile :=
  p.files.find? (·.filename = filename)

def entryPoints (p : Project) : List GeneratedFile := p.files.filter (·.executable)

end Project

end DashboardCompiler
