import DashboardCompiler.Storage.Path
import DashboardCompiler.Text.Quoted

/-!
# File trees

The files and directories that a run sees, each at its place: the names from the root down. Paths lead to
places by way of the working directory, and every place on the way has to be a directory. A failed
operation leaves no tree, so the tree before it is still the current one.
-/

namespace DashboardCompiler

/-- Why a path cannot be used as it was meant to. -/
inductive AccessFault where
  | absent
  | present
  | notDirectory
  | isDirectory
  | longName
  /-- no path holds a null character -/
  | nullInPath
  deriving DecidableEq, Repr

namespace AccessFault

/-- The number by which a system tells a fault; a null character does not get as far as that. -/
def number? : AccessFault → Option Nat
  | .absent => some 2
  | .present => some 17
  | .notDirectory => some 20
  | .isDirectory => some 21
  | .longName => some 36
  | .nullInPath => none

def reason : AccessFault → String
  | .absent => "No such file or directory"
  | .present => "File exists"
  | .notDirectory => "Not a directory"
  | .isDirectory => "Is a directory"
  | .longName => "File name too long"
  | .nullInPath => "embedded null byte"

/-- A numbered fault with the path that it is about. -/
def message? (fault : AccessFault) (p : Path) : Option String :=
  fault.number?.map fun number =>
    "[Errno " ++ toString number ++ "] " ++ fault.reason ++ ": " ++ Text.sourceQuoted p.text

end AccessFault

structure StoredFile where
  content : ByteArray
  executable : Bool

abbrev Place := List String

structure FileTree where
  workingDirectory : Place
  files : List (Place × StoredFile)
  /-- every directory but the root -/
  directories : List Place

namespace FileTree

def isDirectoryAt (t : FileTree) (place : Place) : Bool :=
  place.isEmpty || t.directories.contains place

def fileAt? (t : FileTree) (place : Place) : Option StoredFile := t.files.lookup place

/-- The bytes that a name may have. -/
def nameLimit : Nat := 255

/-- The bytes that a path may have. -/
def pathLimit : Nat := 4095

/-- The place that the parts lead to. Each place on the way is a directory, the last one may be anything. -/
def follow (t : FileTree) (here : Place) : List String → Except AccessFault Place
  | [] => .ok here
  | part :: rest =>
    if t.isDirectoryAt here then
      if nameLimit < part.utf8ByteSize then .error .longName
      else follow t (if part = ".." then here.dropLast else here ++ [part]) rest
    else if (t.fileAt? here).isSome then .error .notDirectory
    else .error .absent

/-- The places that the parts lead over, the last one included. -/
def waypoints (here : Place) : List String → List Place
  | [] => [here]
  | part :: rest =>
    here :: waypoints (if part = ".." then here.dropLast else here ++ [part]) rest

def start (t : FileTree) (p : Path) : Place := if p.root.isEmpty then t.workingDirectory else []

def placeOf (t : FileTree) (p : Path) : Except AccessFault Place :=
  if p.hasNull then .error .nullInPath
  else if pathLimit < p.text.utf8ByteSize then .error .longName
  else t.follow (t.start p) p.parts

def isFile (t : FileTree) (p : Path) : Bool :=
  match t.placeOf p with
  | .ok place => !t.isDirectoryAt place && (t.fileAt? place).isSome
  | .error _ => false

def isDirectory (t : FileTree) (p : Path) : Bool :=
  match t.placeOf p with
  | .ok place => t.isDirectoryAt place
  | .error _ => false

/-- The content of the file at a path. -/
def read (t : FileTree) (p : Path) : Except AccessFault ByteArray := do
  let place ← t.placeOf p
  if t.isDirectoryAt place then .error .isDirectory
  else match t.fileAt? place with
    | some file => .ok file.content
    | none => .error .absent

/-- A new directory inside one that exists. -/
def makeDirectory (t : FileTree) (p : Path) : Except AccessFault FileTree := do
  let place ← t.placeOf p
  if t.isDirectoryAt place || (t.fileAt? place).isSome then .error .present
  else return { t with directories := t.directories ++ [place] }

/-- A directory that may exist; a fault tells the path that it is about. -/
def ensureDirectory (t : FileTree) (p : Path) : Except (AccessFault × Path) FileTree :=
  match t.makeDirectory p with
  | .ok next => .ok next
  | .error fault => if t.isDirectory p then .ok t else .error (fault, p)

/-- A directory with all those that it lies in, for a path of at most `depth` parts. -/
def ensureDirectories (t : FileTree) (p : Path) : Nat → Except (AccessFault × Path) FileTree
  | 0 => t.ensureDirectory p
  | depth + 1 =>
    match t.makeDirectory p with
    | .error .absent => do
      let above ← ensureDirectories t p.parent depth
      above.ensureDirectory p
    | _ => t.ensureDirectory p

def putFile (place : Place) (file : StoredFile) : List (Place × StoredFile) → List (Place × StoredFile)
  | [] => [(place, file)]
  | (other, old) :: rest =>
    if other = place then (place, file) :: rest else (other, old) :: putFile place file rest

/-- A file that is there is overwritten, and stays executable if it was. -/
def write (t : FileTree) (p : Path) (content : ByteArray) (executable : Bool) :
    Except (AccessFault × Path) FileTree :=
  match t.placeOf p with
  | .error fault => .error (fault, p)
  | .ok place =>
    if t.isDirectoryAt place then .error (.isDirectory, p)
    else
      let kept := ((t.fileAt? place).map (·.executable)).getD false
      .ok { t with files := putFile place ⟨content, executable || kept⟩ t.files }

/-- A file with the directories that it lies in. -/
def store (t : FileTree) (p : Path) (content : ByteArray) (executable : Bool) :
    Except (AccessFault × Path) FileTree := do
  let ready ← t.ensureDirectories p.parent p.parts.length
  ready.write p content executable

end FileTree

end DashboardCompiler
