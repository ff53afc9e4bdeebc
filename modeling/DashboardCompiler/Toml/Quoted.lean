import DashboardCompiler.Json.Reader
import DashboardCompiler.Toml.Blank

/-!
# Quoted text and keys of TOML

Text in double quotes has escapes, text in single quotes has none; three quotes open text over several
lines, whose first line feed is dropped and which up to two more quotes may end.
-/

namespace DashboardCompiler.Toml

def escaped? : Char → Option Char
  | 'b' => some '\x08'
  | 't' => some '\t'
  | 'n' => some '\n'
  | 'f' => some '\x0c'
  | 'r' => some '\r'
  | '"' => some '"'
  | '\\' => some '\\'
  | _ => none

/-- The number with these hexadecimal digits. -/
def hexNumber? (digits : List Char) : Option Nat :=
  digits.foldlM (fun n c => (Json.hexValue? c).map (n * 16 + ·)) 0

/-- A character by its number, which has a fixed count of digits. -/
def numbered (count : Nat) (cs : List Char) : Except Fault (Char × List Char) :=
  let digits := cs.take count
  match hexNumber? digits with
  | some n =>
    if digits.length = count ∧ n.isValidChar then .ok (Char.ofNat n, cs.drop count)
    else .error .malformed
  | none => .error .malformed

/-- A backslash at the end of a line takes all blanks up to the next text with it. -/
def joinedLines (cs : List Char) : Except Fault (List Char) :=
  match skipSpaces cs with
  | [] => .ok []
  | '\n' :: rest => .ok (rest.dropWhile fun c => isSpace c || c = '\n')
  | _ => .error .malformed

/-- Text in double quotes up to its end; `done` is what was read of it, the last character first. -/
def basicText (manyLines : Bool) : Nat → List Char → List Char → Except Fault (List Char × List Char)
  | 0, _, _ | _, _, [] => .error .malformed
  | fuel + 1, done, c :: rest =>
    if c = '"' then
      if !manyLines then .ok (done.reverse, rest)
      else match rest with
        | '"' :: '"' :: after => .ok (done.reverse, after)
        | _ => basicText manyLines fuel ('"' :: done) rest
    else if c = '\\' then
      match rest with
      | [] => .error .malformed
      | 'u' :: after => do
        let (u, after) ← numbered 4 after
        basicText manyLines fuel (u :: done) after
      | 'U' :: after => do
        let (u, after) ← numbered 8 after
        basicText manyLines fuel (u :: done) after
      | e :: after =>
        if manyLines && (isSpace e || e = '\n') then do
          let after ← joinedLines rest
          basicText manyLines fuel done after
        else match escaped? e with
          | some plain => basicText manyLines fuel (plain :: done) after
          | none => .error .malformed
    else if (if manyLines then isIllegalInLines c else isIllegalInLine c) then .error .malformed
    else basicText manyLines fuel (c :: done) rest

/-- Text in single quotes up to its end. -/
def literalLine (cs : List Char) : Except Fault (List Char × List Char) :=
  let body := cs.takeWhile (· ≠ '\'')
  match cs.dropWhile (· ≠ '\'') with
  | _ :: rest => if body.any isIllegalInLine then .error .malformed else .ok (body, rest)
  | [] => .error .malformed

/-- Text in three single quotes up to its end. -/
def literalLines : List Char → Except Fault (List Char × List Char)
  | [] => .error .malformed
  | '\'' :: '\'' :: '\'' :: rest => .ok ([], rest)
  | c :: rest =>
    if isIllegalInLines c then .error .malformed
    else do
      let (body, after) ← literalLines rest
      return (c :: body, after)

/-- Up to two more quotes before the end of text over several lines belong to it. -/
def withLastQuotes (quote : Char) (body : List Char) (cs : List Char) : List Char × List Char :=
  let extra := (cs.take 2).takeWhile (· = quote)
  (body ++ extra, cs.drop extra.length)

def skipFeed : List Char → List Char
  | '\n' :: rest => rest
  | cs => cs

/-- Text in quotes of any kind as a value. -/
def quotedText? (cs : List Char) : Option (Except Fault (String × List Char)) :=
  match cs with
  | '"' :: '"' :: '"' :: rest => some do
    let (body, after) ← basicText true (rest.length + 1) [] (skipFeed rest)
    let (body, after) := withLastQuotes '"' body after
    return (String.ofList body, after)
  | '"' :: rest => some do
    let (body, after) ← basicText false (rest.length + 1) [] rest
    return (String.ofList body, after)
  | '\'' :: '\'' :: '\'' :: rest => some do
    let (body, after) ← literalLines (skipFeed rest)
    let (body, after) := withLastQuotes '\'' body after
    return (String.ofList body, after)
  | '\'' :: rest => some do
    let (body, after) ← literalLine rest
    return (String.ofList body, after)
  | _ => none

def isBareKeyChar (c : Char) : Bool := c.isAlphanum || c = '-' || c = '_'

/-- One part of a key: a bare word, or text in quotes on one line. -/
def keyPart (cs : List Char) : Except Fault (String × List Char) :=
  match cs with
  | '"' :: rest => do
    let (body, after) ← basicText false (rest.length + 1) [] rest
    return (String.ofList body, after)
  | '\'' :: rest => do
    let (body, after) ← literalLine rest
    return (String.ofList body, after)
  | _ =>
    let word := cs.takeWhile isBareKeyChar
    if word.isEmpty then .error .malformed
    else .ok (String.ofList word, cs.dropWhile isBareKeyChar)

/-- The parts of a key, which points join, and the text after the spaces behind it. -/
def key : Nat → List Char → Except Fault (List String × List Char)
  | 0, _ => .error .malformed
  | fuel + 1, cs => do
    let (part, rest) ← keyPart cs
    match skipSpaces rest with
    | '.' :: more =>
      let (parts, rest) ← key fuel (skipSpaces more)
      return (part :: parts, rest)
    | rest => return ([part], rest)

end DashboardCompiler.Toml
