import DashboardCompiler.Schema.Problem
import DashboardCompiler.Json.Reader
import DashboardCompiler.Unicode.Ranges

/-!
# Web addresses

An API source needs an absolute http address. The scheme is what stands before the first colon if it has
the form of a scheme; the authority is what follows two slashes up to the next delimiter. Leading blanks
and controls, and tabs and line breaks anywhere, are left out before the address is taken apart.
-/

namespace DashboardCompiler.Address

/-- The characters that are read: no leading controls or spaces, no tabs and line breaks. -/
def cleaned (cs : List Char) : List Char :=
  (cs.dropWhile fun c => c.toNat ≤ 0x20).filter fun c => !(c = '\t' || c = '\r' || c = '\n')

def isAsciiLetter (c : Char) : Bool := ('a' ≤ c && c ≤ 'z') || ('A' ≤ c && c ≤ 'Z')

def isSchemeChar (c : Char) : Bool :=
  isAsciiLetter c || c.isDigit || c = '+' || c = '-' || c = '.'

/-- The lower-case scheme, empty if there is none, and what follows it. -/
def splitScheme (cs : List Char) : List Char × List Char :=
  let head := cs.takeWhile (· ≠ ':')
  match head, cs.dropWhile (· ≠ ':') with
  | first :: _, _ :: rest =>
    if isAsciiLetter first && head.all isSchemeChar then (head.map Char.toLower, rest) else ([], cs)
  | _, _ => ([], cs)

/-- The authority, empty if there are no two slashes. -/
def authority : List Char → List Char
  | '/' :: '/' :: rest => rest.takeWhile fun c => !(c = '/' || c = '?' || c = '#')
  | _ => []

def splitOn (separator : Char) : List Char → List (List Char)
  | [] => [[]]
  | c :: rest =>
    if c = separator then [] :: splitOn separator rest
    else match splitOn separator rest with
      | part :: parts => (c :: part) :: parts
      | [] => [[c]]

/-- One of the four numbers of an address of version 4, without leading zeros. -/
def isOctet (cs : List Char) : Bool :=
  !cs.isEmpty && cs.all Char.isDigit && cs.length ≤ 3 &&
    (cs = ['0'] || cs.head? ≠ some '0') && Json.natOfDigits cs ≤ 255

def isVersionFour (cs : List Char) : Bool :=
  let octets := splitOn '.' cs
  octets.length = 4 && octets.all isOctet

def isGroup (cs : List Char) : Bool :=
  !cs.isEmpty && cs.length ≤ 4 && cs.all fun c => (Json.hexValue? c).isSome

/-- A trailing address of version 4 counts as two groups. -/
def groupsOf (cs : List Char) : Option (List (List Char)) :=
  let parts := splitOn ':' cs
  match parts.getLast? with
  | some last =>
    if parts.length < 3 then none
    else if last.contains '.' then
      if isVersionFour last then some (parts.dropLast ++ [['0'], ['0']]) else none
    else some parts
  | none => none

/-- Whether the groups are eight, or fewer with one gap written as an empty group inside. An empty group
at an end belongs to the gap. -/
def areGroups (parts : List (List Char)) : Bool :=
  let inner := (parts.drop 1).dropLast
  let gaps := inner.countP List.isEmpty
  if 9 < parts.length ∨ 1 < gaps then false
  else if gaps = 0 then parts.length = 8 && parts.all isGroup
  else
    let before := parts.take (1 + (inner.takeWhile fun g => !g.isEmpty).length)
    let after := parts.drop (before.length + 1)
    let head := if before.head? = some [] then before.drop 1 else before
    let tail := if after.getLast? = some [] then after.dropLast else after
    (before.head? ≠ some [] || head.isEmpty) && (after.getLast? ≠ some [] || tail.isEmpty) &&
      head.length + tail.length ≤ 7 && head.all isGroup && tail.all isGroup

/-- An address of version 6, with an optional zone after a percent sign. -/
def isVersionSix (cs : List Char) : Bool :=
  let zone := (cs.dropWhile (· ≠ '%')).drop 1
  let zoneFits := !cs.contains '%' || (!zone.isEmpty && !zone.contains '%')
  zoneFits && match groupsOf (cs.takeWhile (· ≠ '%')) with
    | some parts => areGroups parts
    | none => false

/-- A host of a later version: a `v`, hexadecimal digits, a point, and text on one line. -/
def isFutureHost : List Char → Bool
  | 'v' :: rest =>
    let version := rest.takeWhile fun c => (Json.hexValue? c).isSome
    let tail := (rest.drop version.length).drop 1
    !version.isEmpty && (rest.drop version.length).head? = some '.' && !tail.isEmpty &&
      !tail.contains '\n'
  | _ => false

/-- What follows the last sign that ends the credentials, or everything if there is none. -/
def afterCredentials (cs : List Char) : List Char :=
  (cs.reverse.takeWhile (· ≠ '@')).reverse

/-- The fault of a host that brackets are about. -/
def hostFault? (host : List Char) : Option AddressFault :=
  if host.head? = some 'v' then
    if isFutureHost host then none else some .badFutureAddress
  else if isVersionFour host then some .bracketedFour
  else if isVersionSix host then none
  else some (.badBracketedHost (String.ofList host))

/-- Nothing stands in front of a bracketed host, and nothing but a port after it. -/
def placeFault? (cs : List Char) : Option AddressFault :=
  match cs with
  | '[' :: rest =>
    let port := (rest.dropWhile (· ≠ ']')).drop 1
    if !port.isEmpty && port.head? ≠ some ':' then some .misplacedBracket
    else hostFault? (rest.takeWhile (· ≠ ']'))
  | _ =>
    if cs.contains '[' then some .misplacedBracket else hostFault? (cs.takeWhile (· ≠ ':'))

/-- Brackets come in pairs. An authority with brackets has the host that they are for, wherever in the
authority they stand. -/
def bracketFault? (cs : List Char) : Option AddressFault :=
  if cs.contains '[' != cs.contains ']' then some .misplacedBracket
  else if cs.contains '[' then placeFault? (afterCredentials cs)
  else none

/-- Characters whose compatibility form contains a delimiter of addresses. -/
def delimiterLookalikes : List Nat :=
  [0x2047, 0x2048, 0x2049, 0x2100, 0x2101, 0x2105, 0x2106, 0x2a74, 0xfe13, 0xfe16, 0xfe55, 0xfe56,
   0xfe5f, 0xfe6b, 0xff03, 0xff0f, 0xff1a, 0xff1f, 0xff20]

/-- The fault of an address, if it has one. -/
def fault? (address : String) : Option AddressFault :=
  let (scheme, rest) := splitScheme (cleaned address.toList)
  let host := authority rest
  match bracketFault? host with
  | some fault => some fault
  | none =>
    if host.any fun c => delimiterLookalikes.contains c.toNat then
      some (.foldsToDelimiter (String.ofList host))
    else if (scheme = "http".toList ∨ scheme = "https".toList) ∧ !host.isEmpty then none
    else some (.notAbsolute address)

end DashboardCompiler.Address
