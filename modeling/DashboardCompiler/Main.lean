import DashboardCompiler.CommandLine.Run

/-!
# The program

Looks at the places that a command reads or writes, runs the command on the tree of what is there, and
writes what the outcome has more than that tree.
-/

namespace DashboardCompiler

namespace Storage

def location (place : Place) : String := "/" ++ "/".intercalate place

/-- The tree with what is at a place. A place that cannot be read counts as empty. -/
def observed (t : FileTree) (place : Place) : IO FileTree := do
  if t.isDirectoryAt place || (t.fileAt? place).isSome then return t
  try
    let content ← IO.FS.readBinFile (location place)
    return { t with files := t.files ++ [(place, ⟨content, false⟩)] }
  catch e =>
    match e with
    | .inappropriateType _ 21 _ => return { t with directories := t.directories ++ [place] }
    | _ => return t

def observedAll (t : FileTree) (paths : List Path) : IO FileTree :=
  (paths.flatMap fun p => FileTree.waypoints (t.start p) p.parts).foldlM observed t

def everyone (execution : Bool) : IO.AccessRight := ⟨true, false, execution⟩

/-- A new directory, or a file with new content. -/
def carryOut (before after : FileTree) : IO Unit := do
  for place in after.directories do
    if !before.isDirectoryAt place then IO.FS.createDir (location place)
  for (place, file) in after.files do
    let unchanged := match before.fileAt? place with
      | some old => old.content == file.content
      | none => false
    if !unchanged then IO.FS.writeBinFile (location place) file.content
    if file.executable then
      IO.setAccessRights (location place) ⟨⟨true, true, true⟩, everyone true, everyone true⟩

end Storage

namespace CommandLine

def usage : List String :=
  ["Usage: tuidesigner COMMAND [ARGUMENTS]", "",
   "  generate DESIGN [OUTPUT_DIR] [-f FRAMEWORK] [--format single|modular] [-c CONFIG]",
   "           [--comments|--no-comments] [--mock-data|--no-mock-data]",
   "  validate DESIGN [--strict] [-f FRAMEWORK]",
   "  frameworks",
   "  widgets"]

/-- The tree that a command needs to know. -/
def surroundings (command : Command) : IO FileTree := do
  let here := (Path.ofText (toString (← IO.currentDir))).parts
  let blank : FileTree := ⟨here, [], []⟩
  let inputs ← Storage.observedAll blank (Path.ofText "." :: command.inputs)
  Storage.observedAll inputs (command.outputs inputs)

def execute (command : Command) : IO UInt32 := do
  let before ← surroundings command
  let outcome := command.run before
  try
    Storage.carryOut before outcome.tree
    IO.print (streamed outcome.output)
    IO.eprint (streamed outcome.errors)
    if outcome.abort.isSome then IO.eprintln "Aborted."
    return outcome.exitCode.toUInt32
  catch e =>
    IO.eprintln ("Error: cannot write output: " ++ toString e)
    return 1

end CommandLine

end DashboardCompiler

open DashboardCompiler.CommandLine in
def main (arguments : List String) : IO UInt32 := do
  match Command.ofArguments? arguments with
  | some command => execute command
  | none => do
    IO.eprint (streamed usage)
    return 2
