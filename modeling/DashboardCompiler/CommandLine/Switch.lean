/-!
# Switches

How a list of arguments divides into switches and positional arguments. A switch has a name after two
dashes and may have a letter after one; a value comes after an equals sign, as the rest of a group of
letters, or as the next argument, whatever that looks like. Two dashes alone end the switches. Where a
switch is repeated the last one counts.
-/

namespace DashboardCompiler.CommandLine

/-- What a switch does to the entries read before it. -/
inductive Effect (α : Type) where
  | flag (set : α → α)
  | value (set : String → α → α)

structure Switch (α : Type) where
  name : String
  letter : Option Char
  effect : Effect α

variable {α : Type}

/-- The entries after a switch, or what is to be done with the value that it still lacks. -/
inductive Step (α : Type) where
  | settled (entries : α)
  | awaiting (set : String → α)

def isSwitch (argument : String) : Bool :=
  match argument.toList with
  | '-' :: _ :: _ => true
  | _ => false

def named? (switches : List (Switch α)) (name : List Char) : Option (Switch α) :=
  switches.find? fun s => s.name.toList = name

def lettered? (switches : List (Switch α)) (c : Char) : Option (Switch α) :=
  switches.find? fun s => s.letter = some c

/-- A group of letters. The first one that takes a value takes the rest of the group for it. -/
def readLetters (switches : List (Switch α)) (entries : α) : List Char → Option (Step α)
  | [] => some (.settled entries)
  | c :: rest =>
    match lettered? switches c with
    | none => none
    | some s =>
      match s.effect with
      | .flag set => readLetters switches (set entries) rest
      | .value set =>
        if rest.isEmpty then some (.awaiting fun v => set v entries)
        else some (.settled (set (String.ofList rest) entries))

/-- A switch by its name, with the value after the equals sign if there is one. -/
def readNamed (s : Switch α) (entries : α) : List Char → Option (Step α)
  | '=' :: v =>
    match s.effect with
    | .flag _ => none
    | .value set => some (.settled (set (String.ofList v) entries))
  | _ =>
    match s.effect with
    | .flag set => some (.settled (set entries))
    | .value set => some (.awaiting fun v => set v entries)

def readSwitch (switches : List (Switch α)) (entries : α) (argument : String) : Option (Step α) :=
  let cs := argument.toList
  match named? switches (cs.takeWhile (· ≠ '=')), cs with
  | some s, _ => readNamed s entries (cs.dropWhile (· ≠ '='))
  | none, '-' :: '-' :: _ => none
  | none, _ => readLetters switches entries (cs.drop 1)

/-- The entries of all switches and the positional arguments in order, unless a switch is not understood. -/
def readArguments (switches : List (Switch α)) (entries : α) : List String → Option (α × List String)
  | [] => some (entries, [])
  | argument :: rest =>
    if argument = "--" then some (entries, rest)
    else if isSwitch argument then
      match readSwitch switches entries argument, rest with
      | none, _ => none
      | some (.settled next), rest => readArguments switches next rest
      | some (.awaiting set), v :: rest => readArguments switches (set v) rest
      | some (.awaiting _), [] => none
    else (readArguments switches entries rest).map fun (found, positional) =>
      (found, argument :: positional)

end DashboardCompiler.CommandLine
