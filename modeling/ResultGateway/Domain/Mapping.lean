-- Mapping the characters of a domain: letters to lower case, wide and
-- other special forms to plain ones, and some characters to nothing.
import ResultGateway.Domain.MappingTable

namespace ResultGateway.Domain

/-- What a character of a row of equally shifted ones stands for. -/
def shiftedTo? (point : Nat) : Option Nat :=
  shiftedRows.findSome? fun (first, row) =>
    match row with
    | [count, stride, target] =>
      if first ≤ point && (point - first) % stride == 0 && (point - first) / stride < count then
        some (target + (point - first))
      else none
    | _ => none

/-- What a character stands for in a domain; `none` when it may not be there. -/
def mapChar (c : Char) : Option (List Char) :=
  if ignoredRanges.contains c then some []
  else if disallowedRanges.contains c then none
  else
    match shiftedTo? c.toNat with
    | some target => some [Char.ofNat target]
    | none =>
      match replacedRows.targets? c.toNat with
      | some targets => some (targets.map Char.ofNat)
      | none => some [c]

/-- Maps all characters of a domain. -/
def mapChars (cs : List Char) : Option (List Char) := do
  return (← cs.mapM mapChar).flatten

/-- A character that stands for itself. -/
def isPlain (c : Char) : Bool := mapChar c == some [c]

end ResultGateway.Domain
