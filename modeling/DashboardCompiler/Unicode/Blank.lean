import DashboardCompiler.Unicode.Ranges

/-!
# Blank characters

Two sets: the characters that separate words of a text, and the white space that may surround a
written scalar, which lacks the four information separators.
-/

namespace DashboardCompiler.Unicode

def blankRanges : List (Nat × Nat) :=
  [(0x9, 0xd), (0x1c, 0x20), (0x85, 0x85), (0xa0, 0xa0), (0x1680, 0x1680), (0x2000, 0x200a),
   (0x2028, 0x2029), (0x202f, 0x202f), (0x205f, 0x205f), (0x3000, 0x3000)]

def isBlank (c : Char) : Bool := inRanges c.toNat blankRanges

/-- The property White_Space: the blank characters but for the information separators. -/
def isWhiteSpace (c : Char) : Bool :=
  isBlank c && !(decide (0x1c ≤ c.toNat) && decide (c.toNat ≤ 0x1f))

/-- The text without the characters of a class at either end. -/
def trimBy (blank : Char → Bool) (cs : List Char) : List Char :=
  ((cs.dropWhile blank).reverse.dropWhile blank).reverse

end DashboardCompiler.Unicode
