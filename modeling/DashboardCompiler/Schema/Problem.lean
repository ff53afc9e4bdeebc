import DashboardCompiler.Text.Lines
import DashboardCompiler.Text.Quoted
import DashboardCompiler.Number

/-!
# Problems of a document

A record that does not fit its schema is refused with every problem that was found, each at the path of
the field as the document spells it. `Cause.message` holds the wording.
-/

namespace DashboardCompiler

/-- Why an address is no absolute web address. -/
inductive AddressFault where
  | misplacedBracket
  | badFutureAddress
  | bracketedFour
  | badBracketedHost (host : String)
  | foldsToDelimiter (authority : String)
  | notAbsolute (address : String)
  deriving DecidableEq, Repr

inductive Cause where
  | missing
  | notRecord (record : String)
  | notMapping
  | notUnion
  | notList
  | notText
  | emptyText
  | notInteger
  | fractionalInteger
  | infiniteInteger
  | hugeInteger
  | unreadableInteger
  | below (least : Int)
  | above (greatest : Int)
  | notNumber
  | unreadableNumber
  | notFlag
  | unreadableFlag
  | notChoice (choices : List String)
  | noTag
  | unknownTag (shown : String) (tags : List String)
  | address (fault : AddressFault)
  | emptyRange
  | notPath
  | extraField
  deriving DecidableEq, Repr

structure Problem where
  path : List String
  cause : Cause
  deriving DecidableEq, Repr

def inQuotes (s : String) : String := "'" ++ s ++ "'"

/-- Alternatives in quotes, the last one after `or`. -/
def alternatives : List String → String
  | [] => ""
  | [a] => inQuotes a
  | [a, b] => inQuotes a ++ " or " ++ inQuotes b
  | a :: rest => inQuotes a ++ ", " ++ alternatives rest

def AddressFault.message : AddressFault → String
  | .misplacedBracket => "Invalid IPv6 URL"
  | .badFutureAddress => "IPvFuture address is invalid"
  | .bracketedFour => "An IPv4 address cannot be in brackets"
  | .badBracketedHost host => Text.sourceQuoted host ++ " does not appear to be an IPv4 or IPv6 address"
  | .foldsToDelimiter authority =>
    "netloc '" ++ authority ++ "' contains invalid characters under NFKC normalization"
  | .notAbsolute address => "url must be an absolute http(s) URL, got: " ++ address

def Cause.message : Cause → String
  | .missing => "Field required"
  | .notRecord record => "Input should be a valid dictionary or instance of " ++ record
  | .notMapping => "Input should be a valid dictionary"
  | .notUnion => "Input should be a valid dictionary or object to extract fields from"
  | .notList => "Input should be a valid list"
  | .notText => "Input should be a valid string"
  | .emptyText => "String should have at least 1 character"
  | .notInteger => "Input should be a valid integer"
  | .fractionalInteger => "Input should be a valid integer, got a number with a fractional part"
  | .infiniteInteger => "Input should be a finite number"
  | .hugeInteger => "Unable to parse input string as an integer, exceeded maximum size"
  | .unreadableInteger => "Input should be a valid integer, unable to parse string as an integer"
  | .below least => "Input should be greater than or equal to " ++ Number.intText least
  | .above greatest => "Input should be less than or equal to " ++ Number.intText greatest
  | .notNumber => "Input should be a valid number"
  | .unreadableNumber => "Input should be a valid number, unable to parse string as a number"
  | .notFlag => "Input should be a valid boolean"
  | .unreadableFlag => "Input should be a valid boolean, unable to interpret input"
  | .notChoice choices => "Input should be " ++ alternatives choices
  | .noTag => "Unable to extract tag using discriminator 'type'"
  | .unknownTag shown tags =>
    "Input tag '" ++ shown ++ "' found using 'type' does not match any of the expected tags: " ++
      Text.joinWith ", " (tags.map inQuotes)
  | .address fault => "Value error, " ++ fault.message
  | .emptyRange => "Value error, max must be greater than min"
  | .notPath => "Input is not a valid path for <class 'pathlib.Path'>"
  | .extraField => "Extra inputs are not permitted"

/-- The problem seen from the record that holds the field. -/
def Problem.under (segments : List String) (p : Problem) : Problem :=
  { p with path := segments ++ p.path }

/-- The path before the wording; a problem of the whole record has no path. -/
def Problem.message (p : Problem) : String :=
  if p.path.isEmpty then p.cause.message
  else Text.joinWith "." p.path ++ ": " ++ p.cause.message

end DashboardCompiler
