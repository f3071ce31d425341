-- Percent-encoding. Characters outside ASCII, and those of ASCII that a
-- part of a URL does not allow, are written as their bytes, each as a
-- percent sign and two hexadecimal digits.
import ResultGateway.Text.Decimal
import ResultGateway.Text.Utf8

namespace ResultGateway.Url.Percent

/-! ## Characters that a part does not allow -/

def isControl (c : Char) : Bool := c.toNat < 0x20 || c.toNat == 0x7f

def inFragment (c : Char) : Bool := isControl c || " \"<>`".contains c

def inQuery (c : Char) : Bool := isControl c || " \"#<>'".contains c

def inPath (c : Char) : Bool := inFragment c || "#?\x7b\x7d".contains c

def inUserInfo (c : Char) : Bool := inPath c || "/:;=@[\\]^|".contains c

/-! ## Encoding -/

def encodeByte (b : UInt8) : List Char :=
  ['%', Text.upperHexDigit (b.toNat / 16), Text.upperHexDigit b.toNat]

def encodeChar (refused : Char → Bool) (c : Char) : List Char :=
  if 0x80 ≤ c.toNat || refused c then (String.utf8EncodeChar c).flatMap encodeByte else [c]

def encode (refused : Char → Bool) (cs : List Char) : List Char :=
  cs.flatMap (encodeChar refused)

/-! ## Decoding -/

/-- The bytes that a text stands for. A percent sign without two digits stands for itself. -/
def decode : List Char → List UInt8
  | [] => []
  | '%' :: a :: b :: cs =>
    match Text.hexValue? a, Text.hexValue? b with
    | some high, some low => UInt8.ofNat (16 * high + low) :: decode cs
    | _, _ => String.utf8EncodeChar '%' ++ decode (a :: b :: cs)
  | c :: cs => String.utf8EncodeChar c ++ decode cs

end ResultGateway.Url.Percent
