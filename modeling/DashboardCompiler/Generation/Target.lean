import DashboardCompiler.Design.Validation
import DashboardCompiler.Generation.Project
import DashboardCompiler.Generation.Scene

/-!
# Targets and the assembly of projects

A target says how each section of a program is spelled for one runtime; the assembly is the same for all:
data sources if the design declares any, one fragment for each widget in document order, the application,
the entry point. Single output joins all sections into one executable file; modular output gives the
application, the widgets and the data sources a file each. Every source file is a header, its body and a
footer, joined by `Text.joinSections`.
-/

namespace DashboardCompiler

structure Target where
  framework : Framework
  displayName : String
  language : String
  commentMark : String
  separator : String
  singleFile : String
  appFile : String
  widgetsFile : String
  sourcesFile : String
  /-- the names of the widget types that the target can show -/
  widgetTypes : List String
  dependencies : Dependencies
  widget : Behavior → Options → String
  dataSources : Scene → Except ArithmeticFault String
  app : Scene → Except ArithmeticFault String
  entryPoint : Scene → String
  /-- imports and shared helpers for one file, given the body of that file -/
  header : Scene → FileRole → String → String
  footer : Scene → FileRole → String
  /-- name, content and language of each manifest -/
  manifests : Scene → List (String × String × String)
  /-- name and content of each further file of a modular project -/
  moduleIndex : Scene → List (String × String)
  instructions : Scene → String

/-- The sections of a program before they are laid out into files. -/
structure Sections where
  dataSources : String
  widgets : List String
  app : String
  entryPoint : String

namespace Target

def join (t : Target) (sections : List String) : String := Text.joinSections sections t.separator

/-- A line comment, or nothing when comments are off. -/
def comment (t : Target) (s : Scene) (text : String) : String :=
  if s.options.includeComments then t.commentMark ++ " " ++ text else ""

def sections (t : Target) (s : Scene) : Except ArithmeticFault Sections := do
  let dataSources ← if s.hasDataSources then t.dataSources s else pure ""
  let app ← t.app s
  return ⟨dataSources, s.behaviors.map (t.widget · s.options), app, t.entryPoint s⟩

def sourceFile (t : Target) (s : Scene) (role : FileRole) (filename body : String)
    (executable : Bool) : GeneratedFile :=
  ⟨filename, t.language, executable, t.join [t.header s role body, body, t.footer s role]⟩

def singleFiles (t : Target) (s : Scene) (parts : Sections) : List GeneratedFile :=
  let body := t.join ([parts.dataSources] ++ parts.widgets ++ [parts.app, parts.entryPoint])
  [t.sourceFile s .single t.singleFile body true]

def modularFiles (t : Target) (s : Scene) (parts : Sections) : List GeneratedFile :=
  [t.sourceFile s .app t.appFile (t.join [parts.app, parts.entryPoint]) true,
   t.sourceFile s .widgets t.widgetsFile (t.join parts.widgets) false] ++
  (if s.hasDataSources then
    [t.sourceFile s .dataSources t.sourcesFile parts.dataSources false] else []) ++
  (t.moduleIndex s).map fun (filename, content) => ⟨filename, t.language, false, content⟩

def manifestFiles (t : Target) (s : Scene) : List GeneratedFile :=
  (t.manifests s).map fun (filename, content, language) => ⟨filename, language, false, content⟩

/-- The readme depends on the target and the instructions alone. -/
def readme (t : Target) (instructions : String) : String :=
  let deps := t.dependencies
  let requirements :=
    if deps.system.isEmpty then []
    else ["## Requirements", ""] ++ deps.system.map ("- " ++ ·) ++ [""]
  Text.joinLines
    (["# " ++ t.displayName ++ " Dashboard", "",
      "Terminal dashboard generated by tuidesigner for " ++ t.displayName ++ ".", ""] ++
     requirements ++
     ["## Dependencies", ""] ++ deps.packages.map (fun p => "- `" ++ p ++ "`") ++
     ["", "## Setup", "", Text.trimEndFeeds instructions, ""])

/-- The whole project of a scene. -/
def generateScene (t : Target) (s : Scene) : Except ArithmeticFault Project := do
  let parts ← t.sections s
  let sources := if s.isModular then t.modularFiles s parts else t.singleFiles s parts
  let instructions := t.instructions s
  let readme : GeneratedFile := ⟨"README.md", "markdown", false, t.readme instructions⟩
  return ⟨t.framework, sources ++ t.manifestFiles s ++ [readme], t.dependencies, instructions⟩

/-- Widgets whose type the target does not know, then widgets whose type name an earlier one has. -/
def unsupported (t : Target) (d : Design) : List DesignFault :=
  (d.widgets.filter fun w => !t.widgetTypes.contains w.type).map fun w => .unsupportedType w.type t.displayName

/-- For each widget whose type name is taken, the first widget that has it. -/
def sharedNames (seen : List (String × String)) : List Widget → List DesignFault
  | [] => []
  | w :: rest =>
    let name := Name.typeName w.id
    match seen.lookup name with
    | some first => .sharedTypeName first w.id name :: sharedNames seen rest
    | none => sharedNames ((name, w.id) :: seen) rest

/-- Why the target cannot generate a design. -/
def designFaults (t : Target) (d : Design) : List DesignFault :=
  t.unsupported d ++ sharedNames [] d.widgets

end Target

end DashboardCompiler
