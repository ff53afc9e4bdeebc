import DashboardCompiler.Unicode.Printable

/-!
# Quoted text

String literals of the four output languages. Every encoder maps the characters one by one to their
escapes and puts the result between quotes, so a literal holds no line break and no bare quote.
-/

namespace DashboardCompiler.Text

/-- The lower-case hexadecimal digits of a number, padded with zeros to a width. -/
def hexDigits (width n : Nat) : List Char :=
  let digits := Nat.toDigits 16 n
  List.replicate (width - digits.length) '0' ++ digits

/-- A quote, a backslash and the control characters are escaped; all else stands for itself. -/
def documentEscape (c : Char) : List Char :=
  if c = '"' then ['\\', '"']
  else if c = '\\' then ['\\', '\\']
  else if c = '\n' then ['\\', 'n']
  else if c = '\r' then ['\\', 'r']
  else if c = '\t' then ['\\', 't']
  else if c.toNat = 8 then ['\\', 'b']
  else if c.toNat = 12 then ['\\', 'f']
  else if c.toNat < 0x20 then '\\' :: 'u' :: hexDigits 4 c.toNat
  else [c]

def documentQuotedChars (cs : List Char) : List Char := '"' :: cs.flatMap documentEscape ++ ['"']

/-- The double-quoted form of JSON documents, of which Go and JavaScript literals are the same. -/
def documentQuoted (s : String) : String := String.ofList (documentQuotedChars s.toList)

/-- A 16-bit unit as an escape of four hexadecimal digits. -/
def unitEscape (unit : Nat) : List Char := '\\' :: 'u' :: hexDigits 4 unit

/-- As `documentEscape`, but every character outside printable ASCII is written as 16-bit units. -/
def asciiEscape (c : Char) : List Char :=
  if c.toNat < 0x7f then documentEscape c
  else if c.toNat < 0x10000 then unitEscape c.toNat
  else
    let rest := c.toNat - 0x10000
    unitEscape (0xd800 + rest / 0x400) ++ unitEscape (0xdc00 + rest % 0x400)

/-- The double-quoted form that is pure ASCII. -/
def asciiQuoted (s : String) : String :=
  String.ofList ('"' :: s.toList.flatMap asciiEscape ++ ['"'])

/-- Unprintable characters are written by their code, in the narrowest of three widths. -/
def sourceEscape (quote c : Char) : List Char :=
  if c = quote ∨ c = '\\' then ['\\', c]
  else if c = '\n' then ['\\', 'n']
  else if c = '\r' then ['\\', 'r']
  else if c = '\t' then ['\\', 't']
  else if Unicode.isPrintable c then [c]
  else if c.toNat < 0x100 then '\\' :: 'x' :: hexDigits 2 c.toNat
  else if c.toNat < 0x10000 then '\\' :: 'u' :: hexDigits 4 c.toNat
  else '\\' :: 'U' :: hexDigits 8 c.toNat

/-- Single quotes, unless the text has a single quote and no double one. -/
def preferredQuote (cs : List Char) : Char :=
  if cs.contains '\'' && !cs.contains '"' then '"' else '\''

def sourceQuotedChars (cs : List Char) : List Char :=
  let quote := preferredQuote cs
  quote :: cs.flatMap (sourceEscape quote) ++ [quote]

/-- The form of Python literals. -/
def sourceQuoted (s : String) : String := String.ofList (sourceQuotedChars s.toList)

/-- Control characters without a short escape are written by their code between braces. -/
def rustEscape (c : Char) : List Char :=
  if c = '\\' then ['\\', '\\']
  else if c = '"' then ['\\', '"']
  else if c = '\n' then ['\\', 'n']
  else if c = '\r' then ['\\', 'r']
  else if c = '\t' then ['\\', 't']
  else if c.toNat < 0x20 then
    ['\\', 'u', '\x7b'] ++ Nat.toDigits 16 c.toNat ++ ['\x7d']
  else [c]

def rustQuotedChars (cs : List Char) : List Char := '"' :: cs.flatMap rustEscape ++ ['"']

/-- The form of Rust literals. -/
def rustQuoted (s : String) : String := String.ofList (rustQuotedChars s.toList)

end DashboardCompiler.Text
