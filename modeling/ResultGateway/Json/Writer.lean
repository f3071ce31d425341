-- JSON texts of values. The compact text has no blanks. The indented text
-- puts each item on a line of its own, two blanks deeper than its list.
import ResultGateway.Json.Value

namespace ResultGateway.Json

/-! ## Texts in quotes -/

/-- Quotes, backslashes and control characters are escaped, and nothing else. -/
def escapeChar (c : Char) : List Char :=
  match c with
  | '"' => ['\\', '"']
  | '\\' => ['\\', '\\']
  | '\x08' => ['\\', 'b']
  | '\t' => ['\\', 't']
  | '\n' => ['\\', 'n']
  | '\x0c' => ['\\', 'f']
  | '\r' => ['\\', 'r']
  | c =>
    if c.toNat < 0x20 then
      ['\\', 'u', '0', '0', Text.lowerHexDigit (c.toNat / 16), Text.lowerHexDigit c.toNat]
    else [c]

def writeText (s : String) : List Char :=
  '"' :: s.toList.flatMap escapeChar ++ ['"']

def writeBool (b : Bool) : List Char :=
  if b then ['t', 'r', 'u', 'e'] else ['f', 'a', 'l', 's', 'e']

/-! ## The compact text -/

mutual

def write : Json → List Char
  | .null => ['n', 'u', 'l', 'l']
  | .bool b => writeBool b
  | .num n => n.text
  | .str s => writeText s
  | .arr items => '[' :: writeItems items ++ [']']
  | .obj members => '\x7b' :: writeMembers members ++ ['\x7d']

def writeItems : List Json → List Char
  | [] => []
  | [item] => write item
  | item :: next :: rest => write item ++ ',' :: writeItems (next :: rest)

def writeMembers : List (String × Json) → List Char
  | [] => []
  | [(name, value)] => writeText name ++ ':' :: write value
  | (name, value) :: next :: rest =>
    writeText name ++ ':' :: write value ++ ',' :: writeMembers (next :: rest)

end

/-- The compact text of a value. -/
def compact (j : Json) : String := String.ofList j.write

/-! ## The indented text -/

/-- A new line at a depth. -/
def newLine (depth : Nat) : List Char := '\n' :: List.replicate (2 * depth) ' '

mutual

def writeIndented (depth : Nat) : Json → List Char
  | .null => ['n', 'u', 'l', 'l']
  | .bool b => writeBool b
  | .num n => n.text
  | .str s => writeText s
  | .arr [] => ['[', ']']
  | .arr (item :: rest) =>
    '[' :: newLine (depth + 1) ++ writeIndentedItems (depth + 1) (item :: rest)
      ++ newLine depth ++ [']']
  | .obj [] => ['\x7b', '\x7d']
  | .obj (member :: rest) =>
    '\x7b' :: newLine (depth + 1) ++ writeIndentedMembers (depth + 1) (member :: rest)
      ++ newLine depth ++ ['\x7d']

def writeIndentedItems (depth : Nat) : List Json → List Char
  | [] => []
  | [item] => writeIndented depth item
  | item :: next :: rest =>
    writeIndented depth item ++ ',' :: newLine depth ++ writeIndentedItems depth (next :: rest)

def writeIndentedMembers (depth : Nat) : List (String × Json) → List Char
  | [] => []
  | [(name, value)] => writeText name ++ ':' :: ' ' :: writeIndented depth value
  | (name, value) :: next :: rest =>
    writeText name ++ ':' :: ' ' :: writeIndented depth value
      ++ ',' :: newLine depth ++ writeIndentedMembers depth (next :: rest)

end

/-- The indented text of a value. -/
def indented (j : Json) : String := String.ofList (j.writeIndented 0)

end ResultGateway.Json
