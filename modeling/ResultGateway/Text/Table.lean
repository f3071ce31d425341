-- Tables of characters. A table is kept as text, because there are many
-- rows: numbers are hexadecimal code points, and blanks divide the rows.
import ResultGateway.Text.Decimal

namespace ResultGateway.Text

/-! ## Rows of a table -/

/-- The number that hexadecimal digits denote; other characters are skipped. -/
def ofHex (cs : List Char) : Nat :=
  cs.foldl (fun n c => match hexValue? c with
    | some d => 16 * n + d
    | none => n) 0

/-- The pieces between the separators; a text with none is one piece. -/
def splitBy (isSeparator : Char → Bool) (cs : List Char) : List (List Char) :=
  let (pieces, last) := cs.foldr (fun c (pieces, current) =>
    if isSeparator c then (current :: pieces, []) else (pieces, c :: current)) ([], [])
  last :: pieces

/-- The rows of the lines of a table. -/
def rowsOf (lines : List String) : List (List Char) :=
  lines.flatMap fun line => splitBy (· == ' ') line.toList

/-! ## Sets of characters -/

/-- Closed ranges of code points. -/
abbrev Ranges := List (Nat × Nat)

namespace Ranges

/-- A range is two ends with a hyphen between them, or one number. -/
def ofRow (row : List Char) : Nat × Nat :=
  match splitBy (· == '-') row with
  | [one] => (ofHex one, ofHex one)
  | low :: high :: _ => (ofHex low, ofHex high)
  | [] => (0, 0)

def ofLines (lines : List String) : Ranges := (rowsOf lines).map ofRow

def contains (ranges : Ranges) (c : Char) : Bool :=
  ranges.any fun range => range.1 ≤ c.toNat && c.toNat ≤ range.2

end Ranges

/-! ## Classes of characters -/

/-- Ranges of code points, each with the name of a class. -/
abbrev Classes := List ((Nat × Nat) × List Char)

namespace Classes

/-- A range, a colon and a name. -/
def ofRow (row : List Char) : (Nat × Nat) × List Char :=
  (Ranges.ofRow (row.takeWhile (· != ':')), (row.dropWhile (· != ':')).drop 1)

def ofLines (lines : List String) : Classes := (rowsOf lines).map ofRow

def classOf? (classes : Classes) (c : Char) : Option (List Char) :=
  (classes.find? fun row => row.1.1 ≤ c.toNat && c.toNat ≤ row.1.2).map Prod.snd

end Classes

/-! ## Characters that stand for others -/

/-- Code points, each with a list of numbers. -/
abbrev Entries := List (Nat × List Nat)

namespace Entries

/-- The numbers of a row, which have plus signs between them. -/
def numbers (row : List Char) : List Nat := (splitBy (· == '+') row).map ofHex

/-- A row is a code point, an equals sign and numbers. A row without an equals sign is for the
code point after that of the row before it. -/
def ofLines (lines : List String) : Entries :=
  let (entries, _) := (rowsOf lines).foldl (fun (entries, next) row =>
    match splitBy (· == '=') row with
    | [values] => ((next, numbers values) :: entries, next + 1)
    | key :: values :: _ => ((ofHex key, numbers values) :: entries, ofHex key + 1)
    | [] => (entries, next)) (([] : Entries), 0)
  entries.reverse

def targets? (entries : Entries) (point : Nat) : Option (List Nat) :=
  (entries.find? fun entry => entry.1 == point).map Prod.snd

end Entries

end ResultGateway.Text
