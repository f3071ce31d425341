-- Domains in ASCII. A domain is mapped and composed, cut at its dots, and
-- each label that is not ASCII is written in the notation that starts with
-- a mark. Labels with the mark are read back first, to be checked as well.
import ResultGateway.Domain.Label
import ResultGateway.Domain.Punycode
import ResultGateway.Text.Utf8

namespace ResultGateway.Domain

/-- Characters of ASCII that the host of a URL may not hold. -/
def isForbidden (c : Char) : Bool :=
  c.toNat ≤ 0x20 || c.toNat == 0x7f || "#/:<>?@[\\]^|%".contains c

def isAscii (cs : List Char) : Bool := cs.all fun c => c.toNat < 0x80

/-- The mark of a label that stands for another one. -/
def labelMark : List Char := ['x', 'n', '-', '-']

/-- The label that a label stands for. One with the mark must stand for one that is not ASCII. -/
def readLabel (label : List Char) : Option (List Char) :=
  if labelMark.isPrefixOf label then do
    let decoded ← Punycode.decode (label.drop labelMark.length)
    if isAscii decoded then none else some decoded
  else some label

def writeLabel (label : List Char) : List Char :=
  if isAscii label then label else labelMark ++ Punycode.encode label

/-- The ASCII form of a domain that is given in bytes. -/
def toAscii (bytes : List UInt8) : Option (List Char) := do
  let cs ← Text.Utf8.decode? bytes
  let mapped := Normal.compose (← mapChars cs)
  let labels ← (Text.splitBy (· == '.') mapped).mapM readLabel
  if labels.any fun label => label.any isForbidden || !isSound label then none
  let turned := labels.any fun label => label.any fun c => isRightward (directionOf c)
  if turned && !(labels.all keepsDirection) then none
  return List.intercalate ['.'] (labels.map writeLabel)

end ResultGateway.Domain
