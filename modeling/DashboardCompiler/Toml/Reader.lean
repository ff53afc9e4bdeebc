import DashboardCompiler.Toml.Quoted
import DashboardCompiler.Toml.Scalar
import DashboardCompiler.Toml.Table

/-!
# Reading TOML

A document is a list of statements, one a line: a key with its value, the header of a table, or the doubled
header of a table in an array. A header opens a section, in whose table the keys after it are set.
-/

namespace DashboardCompiler.Toml

/-- Lists and tables in one another up to this depth are read. -/
def depthLimit : Nat := 490

def orMalformed {α : Type} : Option α → Except Fault α
  | some a => .ok a
  | none => .error .malformed

mutual

/-- The value at the start of a text; `depth` more lists and tables may lie in one another. -/
def readValue : Nat → Nat → List Char → Except Fault (Toml × List Char)
  | 0, _, _ => .error .malformed
  | fuel + 1, depth, cs =>
    match quotedText? cs with
    | some scan => do
      let (s, rest) ← scan
      return (.text s, rest)
    | none =>
      match depth, cs with
      | 0, '[' :: _ | 0, '\x7b' :: _ => .error .tooDeep
      | inner + 1, '[' :: rest => do
        let rest ← skipBetween (rest.length + 1) rest
        readItems fuel inner [] rest
      | inner + 1, '\x7b' :: rest =>
        match skipSpaces rest with
        | '\x7d' :: rest => .ok (.table [], rest)
        | rest => readFields fuel inner [] rest
      | _, _ => scalar cs

/-- The items from the next one on; `done` holds the earlier ones, the last first. -/
def readItems : Nat → Nat → List Toml → List Char → Except Fault (Toml × List Char)
  | 0, _, _, _ => .error .malformed
  | _ + 1, _, done, ']' :: rest => .ok (.list done.reverse, rest)
  | fuel + 1, depth, done, cs => do
    let (item, rest) ← readValue fuel depth cs
    let rest ← skipBetween (rest.length + 1) rest
    match rest with
    | ']' :: rest => return (.list (item :: done).reverse, rest)
    | ',' :: rest => do
      let rest ← skipBetween (rest.length + 1) rest
      readItems fuel depth (item :: done) rest
    | _ => .error .malformed

/-- The fields of a table in braces from the next one on. -/
def readFields : Nat → Nat → Nodes → List Char → Except Fault (Toml × List Char)
  | 0, _, _, _ => .error .malformed
  | fuel + 1, depth, done, cs => do
    let (path, rest) ← key (cs.length + 1) cs
    match rest with
    | '=' :: rest =>
      let (v, rest) ← readValue fuel depth (skipSpaces rest)
      let fields ← orMalformed (Nodes.assign 0 v path done)
      match skipSpaces rest with
      | '\x7d' :: rest => return (.table (Node.fieldsToToml fields), rest)
      | ',' :: rest => readFields fuel depth fields (skipSpaces rest)
      | _ => .error .malformed
    | _ => .error .malformed

end

/-- The tables that were read, the path of the section, and the number of headers before it. -/
structure Progress where
  nodes : Nodes
  header : List String
  part : Nat

/-- A key with its value, in the table of the section. -/
def readAssignment (p : Progress) (cs : List Char) : Except Fault (Progress × List Char) := do
  let (path, rest) ← key (cs.length + 1) cs
  match rest with
  | '=' :: rest =>
    let (v, rest) ← readValue (rest.length + 1) depthLimit (skipSpaces rest)
    let nodes ← orMalformed (Nodes.within (Nodes.assign p.part v path) p.header p.nodes)
    return ({ p with nodes }, rest)
  | _ => .error .malformed

/-- A header from its opening bracket on. -/
def readHeader (p : Progress) (cs : List Char) : Except Fault (Progress × List Char) := do
  let (path, rest) ← key (cs.length + 1) (skipSpaces cs)
  let nodes ← orMalformed (Nodes.declare path p.nodes)
  match rest with
  | ']' :: rest => return (⟨nodes, path, p.part + 1⟩, rest)
  | _ => .error .malformed

def readArrayHeader (p : Progress) (cs : List Char) : Except Fault (Progress × List Char) := do
  let (path, rest) ← key (cs.length + 1) (skipSpaces cs)
  let nodes ← orMalformed (Nodes.append path p.nodes)
  match rest with
  | ']' :: ']' :: rest => return (⟨nodes, path, p.part + 1⟩, rest)
  | _ => .error .malformed

def readStatement (p : Progress) (cs : List Char) : Except Fault (Progress × List Char) :=
  match cs with
  | [] => .ok (p, [])
  | '\n' :: _ | '#' :: _ => .ok (p, cs)
  | '[' :: '[' :: rest => readArrayHeader p rest
  | '[' :: rest => readHeader p rest
  | _ => readAssignment p cs

/-- The statements from here on. -/
def readStatements : Nat → Progress → List Char → Except Fault Nodes
  | 0, _, _ => .error .malformed
  | fuel + 1, p, cs => do
    let (p, rest) ← readStatement p (skipSpaces cs)
    let rest ← skipComment (skipSpaces rest)
    match rest with
    | [] => return p.nodes
    | '\n' :: rest => readStatements fuel p rest
    | _ => .error .malformed

/-- The fields of a whole document. -/
def read (s : String) : Except Fault (List (String × Toml)) := do
  let cs := s.toList
  let nodes ← readStatements (cs.length + 1) ⟨[], [], 0⟩ cs
  return Node.fieldsToToml nodes

end DashboardCompiler.Toml
