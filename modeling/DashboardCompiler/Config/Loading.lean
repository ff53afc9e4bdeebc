import DashboardCompiler.Config.Basic
import DashboardCompiler.Storage.FileTree
import DashboardCompiler.Text.Decoded
import DashboardCompiler.Toml.Reader

/-!
# Loading settings

Settings stand in the table `generation` of a file of their own, or in the same table two tables deeper in
a file that several tools share. A file or a table that is absent leaves the defaults.
-/

namespace DashboardCompiler

/-- Why no settings came out of a file. -/
inductive ConfigFault where
  | notText
  | malformed
  | longInteger
  | tooDeep
  /-- the file can neither be found nor found missing -/
  | unreachable (fault : AccessFault)
  /-- a value on the way to the settings is no table -/
  | blocked
  | notTable
  | misfit (problems : List Problem)

/-- The wording of a fault; those before the settings are reached have none. -/
def ConfigFault.message? (p : Path) : ConfigFault → Option String
  | .malformed => some (p.text ++ ": Invalid TOML")
  | .notTable => some (p.text ++ ": [generation] must be a table")
  | .misfit problems =>
    some (p.text ++ ": Invalid [generation] settings: " ++
      Text.joinWith "; " (problems.map (·.message)))
  | .notText | .longInteger | .tooDeep | .unreachable _ | .blocked => none

namespace Config

def ownName : String := "tuidesigner.toml"

def sharedName : String := "pyproject.toml"

def lookup (key : String) : List (String × Toml) → Option Toml
  | [] => none
  | (other, v) :: rest => if other = key then some v else lookup key rest

/-- The table under a key, empty if the key is absent. -/
def subtable (fault : ConfigFault) (key : String) (fields : List (String × Toml)) :
    Except ConfigFault (List (String × Toml)) :=
  match lookup key fields with
  | none => .ok []
  | some (.table inner) => .ok inner
  | some _ => .error fault

/-- The tables from the top of a file to the one that holds the settings. -/
def wayTo (p : Path) : List String :=
  if p.name? = some sharedName then ["tool", "tuidesigner"] else []

def follow : List String → List (String × Toml) → Except ConfigFault (List (String × Toml))
  | [], fields => .ok fields
  | key :: rest, fields => do
    let inner ← subtable .blocked key fields
    follow rest inner

/-- The settings in the fields of a whole file; the path decides where in the file they stand. -/
def ofDocument (p : Path) (fields : List (String × Toml)) : Except ConfigFault Config := do
  let holder ← follow (wayTo p) fields
  let settings ← subtable .notTable "generation" holder
  (ofFields (Toml.fieldsToJson settings)).toExcept.mapError .misfit

def ofText (p : Path) (text : String) : Except ConfigFault Config :=
  match Toml.read text with
  | .error .malformed => .error .malformed
  | .error .longInteger => .error .longInteger
  | .error .tooDeep => .error .tooDeep
  | .ok fields => ofDocument p fields

def ofBytes (p : Path) (bytes : ByteArray) : Except ConfigFault Config :=
  match Text.decoded? bytes with
  | none => .error .notText
  | some text => ofText p text

/-- The settings in the file at a path; without such a file, the defaults. Of a name that is too long it
cannot be said that there is no such file. -/
def loadFrom (t : FileTree) (p : Path) : Except ConfigFault Config :=
  match t.read p with
  | .error .longName => .error (.unreachable .longName)
  | .error _ => .ok default
  | .ok bytes => ofBytes p bytes

/-- Where settings are looked for, in the working directory. -/
def searched : List Path := [.ofText ownName, .ofText sharedName]

/-- The first place where there is a file. -/
def find (t : FileTree) : Option Path := searched.find? t.isFile

/-- The settings at the given path, or else in the file that is found; a fault comes with the path. -/
def load (t : FileTree) (given : Option Path) : Except (ConfigFault × Path) Config :=
  match given <|> find t with
  | some p => (loadFrom t p).mapError (·, p)
  | none => .ok default

end Config

end DashboardCompiler
