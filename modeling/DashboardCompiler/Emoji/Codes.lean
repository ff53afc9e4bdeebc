import DashboardCompiler.Emoji.Names
import DashboardCompiler.Text.Comment
import DashboardCompiler.Unicode.Case

/-!
# Pictographs by name

A name between two colons stands for a pictograph, in any case of its letters. A tone of the skin may end
the name, and `-text` or `-emoji` after it asks for one of the two forms of the pictograph. A name that
stands for nothing is left as it is written.
-/

namespace DashboardCompiler.Emoji

/-- The two texts of each entry, which take turns. -/
def pairsOf : List String → List (String × String)
  | name :: value :: rest => (name, value) :: pairsOf rest
  | _ => []

def entries (rows : List String) : List (String × String) :=
  rows.flatMap fun row => pairsOf ((Text.words row.toList).map String.ofList)

def countries : List (String × String) := entries countryRows

/-- The flags that take no `flag_for_` in front of their names. -/
def plainFlags : List (String × String) := entries plainCountryRows ++ entries flagRows

def toned : List (String × String) := entries tonedRows

def plain : List (String × String) := entries plainRows

/-- The letter between `A` and `Z` as one half of a flag. -/
def regionalLetter (c : Char) : Char := Char.ofNat (c.toNat + 0x1f1a5)

def flagOf (code : String) : String := String.ofList (code.toList.map regionalLetter)

/-- What follows the start of a name, if the name has it. -/
def afterStart? (start name : String) : Option String :=
  if start.toList.isPrefixOf name.toList then some (String.ofList (name.toList.drop start.length))
  else none

/-- What stands before the end of a name, if the name has it. -/
def beforeEnd? (ending name : String) : Option String :=
  if ending.toList.isSuffixOf name.toList then
    some (String.ofList (name.toList.take (name.length - ending.length)))
  else none

def flag? (name : String) : Option String :=
  (countries.lookup name <|> plainFlags.lookup name <|>
    (afterStart? "flag_for_" name).bind fun country => countries.lookup country).map flagOf

/-- The ends of names that ask for a tone, each with the character for it. -/
def tones : List (String × Char) :=
  [("_light_skin_tone", .ofNat 0x1f3fb), ("_medium-light_skin_tone", .ofNat 0x1f3fc),
   ("_medium_skin_tone", .ofNat 0x1f3fd), ("_medium-dark_skin_tone", .ofNat 0x1f3fe),
   ("_dark_skin_tone", .ofNat 0x1f3ff)]

/-- The tone stands after the first character, in place of a selector that follows it. -/
def withTone (tone : Char) : List Char → List Char
  | first :: rest =>
    first :: tone :: (if rest.head? = some '\ufe0f' then rest.drop 1 else rest)
  | [] => []

def toned? (name : String) : Option String :=
  tones.findSome? fun (ending, tone) => do
    let untoned ← beforeEnd? ending name
    let pictograph ← toned.lookup untoned
    return String.ofList (withTone tone pictograph.toList)

/-- The pictograph with a lower-case name. -/
def named? (name : String) : Option String :=
  plain.lookup name <|> toned.lookup name <|> flag? name <|> toned? name

/-- What a text holds after an opening colon, up to the closing one. -/
structure Code where
  name : List Char
  /-- the character that selects one of the two forms -/
  selector : List Char
  /-- all that is written, with the closing colon -/
  written : List Char

/-- The ends of a code: the closing colon alone, or with the form that is asked for in front. -/
def closings : List (List Char × List Char) :=
  [("-emoji:".toList, ['\ufe0f']), ("-text:".toList, ['\ufe0e']), ([':'], [])]

def closing? (cs : List Char) : Option (List Char × List Char) :=
  closings.find? fun closing => closing.1.isPrefixOf cs

/-- The code after an opening colon, if there is one: it ends at the first end of a code, and no blank
stands before that. `read` holds the name so far. -/
def code? (read : List Char) : List Char → Option Code
  | [] => none
  | c :: rest =>
    match closing? (c :: rest) with
    | some (closing, selector) => some ⟨read, selector, read ++ closing⟩
    | none => if Unicode.isBlank c then none else code? (read ++ [c]) rest

def Code.shown? (code : Code) : Option (List Char) :=
  (named? (Unicode.lower (String.ofList code.name))).map fun s => s.toList ++ code.selector

/-- The text with its codes replaced; `skipped` counts the characters of a code that was. -/
def replacedFrom (skipped : Nat) : List Char → List Char
  | [] => []
  | c :: rest =>
    match skipped with
    | left + 1 => replacedFrom left rest
    | 0 =>
      if c = ':' then
        match code? [] rest with
        | some code =>
          code.shown?.getD (':' :: code.written) ++ replacedFrom code.written.length rest
        | none => ':' :: replacedFrom 0 rest
      else c :: replacedFrom 0 rest

def replaced (cs : List Char) : List Char := replacedFrom 0 cs

end DashboardCompiler.Emoji
