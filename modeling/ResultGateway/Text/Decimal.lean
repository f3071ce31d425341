-- Decimal and hexadecimal digits: the digits of a number, and the number
-- that digits denote. Numbers are written without leading zeros.

namespace ResultGateway.Text

/-! ## Decimal -/

def isDigit (c : Char) : Bool := '0' ≤ c && c ≤ '9'

/-- The value of a decimal digit. -/
def digitValue (c : Char) : Nat := c.toNat - '0'.toNat

def digitChar (d : Nat) : Char := Char.ofNat ('0'.toNat + d % 10)

/-- The number that a run of decimal digits denotes. -/
def ofDigits (cs : List Char) : Nat :=
  cs.foldl (fun n c => 10 * n + digitValue c) 0

def decimal (n : Nat) : List Char :=
  if n < 10 then [digitChar n] else decimal (n / 10) ++ [digitChar n]

/-- An integer in decimal, with a minus sign when it is below zero. -/
def decimalInt (i : Int) : List Char :=
  if i < 0 then '-' :: decimal i.natAbs else decimal i.natAbs

/-! ## Hexadecimal -/

def hexValue? (c : Char) : Option Nat :=
  if isDigit c then some (digitValue c)
  else if 'a' ≤ c && c ≤ 'f' then some (c.toNat - 'a'.toNat + 10)
  else if 'A' ≤ c && c ≤ 'F' then some (c.toNat - 'A'.toNat + 10)
  else none

def lowerHexDigit (d : Nat) : Char :=
  if d % 16 < 10 then digitChar (d % 16) else Char.ofNat ('a'.toNat + (d % 16 - 10))

def upperHexDigit (d : Nat) : Char :=
  if d % 16 < 10 then digitChar (d % 16) else Char.ofNat ('A'.toNat + (d % 16 - 10))

/-- A number in lower-case hexadecimal, without leading zeros. -/
def lowerHex (n : Nat) : List Char :=
  if n < 16 then [lowerHexDigit n] else lowerHex (n / 16) ++ [lowerHexDigit n]

end ResultGateway.Text
