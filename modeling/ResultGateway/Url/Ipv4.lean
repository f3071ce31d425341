-- Addresses of four bytes. A host whose last part is a number must be an
-- address: one to four numbers, in decimal, octal or hexadecimal, of which
-- the last fills all the bytes that are left.
import ResultGateway.Text.Table

namespace ResultGateway.Url.Ipv4

/-! ## Numbers -/

/-- The number that digits denote in a base; no digits denote zero. -/
def inBase (base : Nat) (cs : List Char) : Option Nat :=
  cs.foldlM (fun n c => match Text.hexValue? c with
    | some d => if d < base then some (base * n + d) else none
    | none => none) 0

/-- A part of an address: `0x` starts a hexadecimal number, any other zero an octal one. -/
def number? : List Char → Option Nat
  | [] => none
  | '0' :: 'x' :: cs => inBase 16 cs
  | '0' :: 'X' :: cs => inBase 16 cs
  | '0' :: c :: cs => inBase 8 (c :: cs)
  | cs => inBase 10 cs

/-- The parts between the dots, without an empty one at the end. -/
def parts (host : List Char) : List (List Char) :=
  let all := Text.splitBy (· == '.') host
  if all.getLast? = some [] then all.dropLast else all

/-- The last part of the host is a number, so the host has to be an address. -/
def isNumeric (host : List Char) : Bool :=
  match (parts host).getLast? with
  | none => false
  | some last => (!last.isEmpty && last.all Text.isDigit) || (number? last).isSome

/-! ## Addresses -/

/-- The address as one number, its first byte the highest. -/
def parse (host : List Char) : Option Nat := do
  let all := parts host
  if 4 < all.length then none
  let numbers ← all.mapM number?
  let last ← numbers.getLast?
  let front := numbers.dropLast
  if front.any (255 < ·) then none
  let room := Nat.pow 0x100 (4 - front.length)
  if room ≤ last then none
  return front.foldl (fun address n => 0x100 * address + n) 0 * room + last

def text (address : Nat) : List Char :=
  Text.decimal (address / 0x1000000 % 0x100) ++ '.' :: Text.decimal (address / 0x10000 % 0x100)
    ++ '.' :: Text.decimal (address / 0x100 % 0x100) ++ '.' :: Text.decimal (address % 0x100)

end ResultGateway.Url.Ipv4
