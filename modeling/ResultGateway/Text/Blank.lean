-- Blank characters and trimming. Settings are trimmed of blanks before
-- use, and a setting that is all blanks counts as not given.

namespace ResultGateway.Text

/-! ## Blank characters -/

/-- The ranges of the Unicode property `White_Space`, lowest first. -/
def blankRanges : List (Nat × Nat) :=
  [(0x09, 0x0d), (0x20, 0x20), (0x85, 0x85), (0xa0, 0xa0), (0x1680, 0x1680), (0x2000, 0x200a),
    (0x2028, 0x2029), (0x202f, 0x202f), (0x205f, 0x205f), (0x3000, 0x3000)]

def isBlank (c : Char) : Bool :=
  blankRanges.any fun range => range.1 ≤ c.toNat && c.toNat ≤ range.2

/-! ## Trimming -/

/-- Drops the characters with `p` at both ends, and none between. -/
def trimBy (p : Char → Bool) (cs : List Char) : List Char :=
  ((cs.dropWhile p).reverse.dropWhile p).reverse

def trim (s : String) : String := String.ofList (trimBy isBlank s.toList)

/-- A text with a character that is not blank. -/
def isNonBlank (s : String) : Bool := !(s.toList.all isBlank)

end ResultGateway.Text
