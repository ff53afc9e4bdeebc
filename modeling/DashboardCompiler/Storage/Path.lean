import DashboardCompiler.Text.Lines

/-!
# Paths

A path is its root and its parts; empty parts and single points mean nothing and are dropped, two points
stay. The written form of no parts at all is a single point.
-/

namespace DashboardCompiler

structure Path where
  /-- empty for a path from the working directory -/
  root : String
  parts : List String
  deriving DecidableEq, Repr

namespace Path

/-- The pieces between slashes. -/
def splitAtSlashes : List Char → List (List Char)
  | [] => [[]]
  | c :: rest =>
    if c = '/' then [] :: splitAtSlashes rest
    else match splitAtSlashes rest with
      | part :: parts => (c :: part) :: parts
      | [] => [[c]]

def partsOf (cs : List Char) : List String :=
  ((splitAtSlashes cs).map String.ofList).filter fun part => !(part.isEmpty || part = ".")

/-- One slash in front is a root and so are three; two are a root of their own. -/
def rootOf (cs : List Char) : String :=
  match (cs.takeWhile (· = '/')).length with
  | 0 => ""
  | 2 => "//"
  | _ => "/"

def ofText (s : String) : Path := ⟨rootOf s.toList, partsOf s.toList⟩

def text (p : Path) : String :=
  if p.root.isEmpty && p.parts.isEmpty then "." else p.root ++ Text.joinWith "/" p.parts

def hasNull (p : Path) : Bool := p.parts.any fun part => part.toList.contains '\x00'

/-- The last part, if there is one. -/
def name? (p : Path) : Option String := p.parts.getLast?

def parent (p : Path) : Path := ⟨p.root, p.parts.dropLast⟩

/-- A relative path, seen from here. -/
def join (p q : Path) : Path := ⟨p.root, p.parts ++ q.parts⟩

end Path

end DashboardCompiler
