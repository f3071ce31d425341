-- Identifiers for records that have none of their own. An identifier is a
-- random UUID of version 4. The supply of them is a value, so that a run
-- is a function of it.
import ResultGateway.Text.Decimal

namespace ResultGateway

/-! ## The text of an identifier -/

/-- The digits of a number in base sixteen, as many as asked for. -/
def fixedHex (width n : Nat) : List Char :=
  match width with
  | 0 => []
  | width + 1 => fixedHex width (n / 16) ++ [Text.lowerHexDigit n]

/-- The UUID of version 4 with the given 122 free bits. -/
def uuidText (bits : Nat) : String :=
  let node := bits % 0x1000000000000
  let bits := bits / 0x1000000000000
  let clock := bits % 0x4000
  let bits := bits / 0x4000
  let high := bits % 0x1000
  let bits := bits / 0x1000
  let mid := bits % 0x10000
  let low := bits / 0x10000 % 0x100000000
  String.ofList (fixedHex 8 low ++ '-' :: fixedHex 4 mid ++ '-' :: '4' :: fixedHex 3 high
    ++ '-' :: fixedHex 4 (0x8000 + clock) ++ '-' :: fixedHex 12 node)

/-! ## The supply -/

/-- An endless row of identifiers, and how many of them are taken. -/
structure FreshIds where
  id : Nat → String
  taken : Nat := 0

namespace FreshIds

/-- The supply whose free bits count up from a number. -/
def countingFrom (start : Nat) : FreshIds := ⟨fun n => uuidText (start + n), 0⟩

def next (ids : FreshIds) : String := ids.id ids.taken

def rest (ids : FreshIds) : FreshIds := { ids with taken := ids.taken + 1 }

/-- The next identifiers, and the supply after them. -/
def take (ids : FreshIds) : Nat → List String × FreshIds
  | 0 => ([], ids)
  | count + 1 =>
    let (later, left) := ids.rest.take count
    (ids.next :: later, left)

end FreshIds

end ResultGateway
