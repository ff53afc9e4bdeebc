import DashboardCompiler.Unicode.Blank

/-!
# Lines and sections

Generated text is built from lines joined by line feeds and from sections joined by a separator.
`joinSections` drops blank sections, trims the line feeds around the others, and ends the result with
exactly one line feed.
-/

namespace DashboardCompiler.Text

/-- The texts with a separator between neighbours. -/
def joinWith (separator : String) : List String → String
  | [] => ""
  | [s] => s
  | s :: rest => s ++ separator ++ joinWith separator rest

/-- After the first text, each one comes with the separator in front of it. -/
theorem joinWith_cons (separator s : String) (rest : List String) :
    joinWith separator (s :: rest) = s ++ String.join (rest.map (separator ++ ·)) := by
  induction rest generalizing s with
  | nil => simp [joinWith]
  | cons t rest ih =>
    have hstep : joinWith separator (s :: t :: rest) = s ++ separator ++ joinWith separator (t :: rest) := rfl
    rw [hstep, ih, List.map_cons, String.join_cons, String.append_assoc, String.append_assoc]

def joinLines (lines : List String) : String := joinWith "\n" lines

/-- The pieces between line feeds; a text without one is a single line. -/
def splitAtFeeds : List Char → List (List Char)
  | [] => [[]]
  | c :: rest =>
    if c = '\n' then [] :: splitAtFeeds rest
    else match splitAtFeeds rest with
      | line :: lines => (c :: line) :: lines
      | [] => [[c]]

def lines (s : String) : List String := (splitAtFeeds s.toList).map String.ofList

def spaces (n : Nat) : String := String.ofList (List.replicate n ' ')

/-- Every line that is not empty moves to the right. -/
def indent (s : String) (columns : Nat) : String :=
  joinLines ((lines s).map fun line => if line.isEmpty then line else spaces columns ++ line)

/-- Each four leading spaces become a tab, and what is left of them is dropped. -/
def tabIndentLine (line : List Char) : List Char :=
  let body := line.dropWhile (· = ' ')
  if body.isEmpty then [] else List.replicate ((line.length - body.length) / 4) '\t' ++ body

def tabIndent (s : String) : String :=
  joinLines ((splitAtFeeds s.toList).map fun line => String.ofList (tabIndentLine line))

def isBlankText (s : String) : Bool := s.toList.all Unicode.isBlank

def trimFeeds (s : String) : String := String.ofList (Unicode.trimBy (· = '\n') s.toList)

def joinSections (sections : List String) (separator : String) : String :=
  joinWith separator ((sections.filter fun s => !isBlankText s).map trimFeeds) ++ "\n"

/-- The text without the line feeds at its end. -/
def trimEndFeeds (s : String) : String :=
  String.ofList (s.toList.reverse.dropWhile (· = '\n')).reverse

/-- Every occurrence of a pattern, from the left, is replaced; an empty pattern replaces nothing. -/
def replaceFrom (pattern replacement : List Char) : Nat → List Char → List Char
  | _, [] => []
  | skip + 1, _ :: rest => replaceFrom pattern replacement skip rest
  | 0, c :: rest =>
    if !pattern.isEmpty && pattern.isPrefixOf (c :: rest) then
      replacement ++ replaceFrom pattern replacement (pattern.length - 1) rest
    else c :: replaceFrom pattern replacement 0 rest

def replaceAll (s pattern replacement : String) : String :=
  String.ofList (replaceFrom pattern.toList replacement.toList 0 s.toList)

end DashboardCompiler.Text
