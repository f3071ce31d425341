-- Addresses of eight pieces of sixteen bits. Two colons stand for a run
-- of zero pieces, and the last two pieces may be an address of four bytes.
import ResultGateway.Text.Decimal

namespace ResultGateway.Url.Ipv6

/-! ## Reading -/

/-- The pieces so far, last first, and how many of them stand before the two colons. -/
structure Progress where
  pieces : List Nat
  gap : Option Nat

/-- A decimal number up to 255 without leading zeros. -/
def byte? (cs : List Char) : Option (Nat × List Char) :=
  let digits := cs.takeWhile Text.isDigit
  let n := Text.ofDigits digits
  if digits.isEmpty || (digits.length != 1 && digits.head? == some '0') || 255 < n then none
  else some (n, cs.dropWhile Text.isDigit)

/-- Reads so many bytes with dots between them, up to the end. -/
def bytes? : Nat → List Char → Option (List Nat)
  | 0, cs => if cs.isEmpty then some [] else none
  | 1, cs =>
    match byte? cs with
    | some (n, []) => some [n]
    | _ => none
  | count + 2, cs =>
    match byte? cs with
    | some (n, '.' :: rest) => (bytes? (count + 1) rest).map (n :: ·)
    | _ => none

/-- The two pieces of an address of four bytes. -/
def tail? (cs : List Char) : Option (Nat × Nat) :=
  match bytes? 4 cs with
  | some [a, b, c, d] => some (256 * a + b, 256 * c + d)
  | _ => none

/-- Reads the pieces. The first argument bounds the rounds by the text itself. -/
def readPieces : List Char → Progress → List Char → Option Progress
  | _, p, [] => some p
  | [], _, _ => none
  | _ :: fuel, p, cs =>
    if p.pieces.length = 8 then none
    else
      match cs with
      | ':' :: cs =>
        if p.gap.isSome then none
        else readPieces fuel ⟨0 :: p.pieces, some (p.pieces.length + 1)⟩ cs
      | cs =>
        let digits := (cs.take 4).takeWhile fun c => (Text.hexValue? c).isSome
        let piece := digits.foldl (fun n c => 16 * n + (Text.hexValue? c).getD 0) 0
        match cs.drop digits.length with
        | [] => some { p with pieces := piece :: p.pieces }
        | '.' :: _ =>
          if digits.isEmpty || 6 < p.pieces.length then none
          else do
            let (high, low) ← tail? cs
            return { p with pieces := low :: high :: p.pieces }
        | ':' :: rest =>
          if rest.isEmpty then none else readPieces fuel { p with pieces := piece :: p.pieces } rest
        | _ => none

/-- Fills the run of zero pieces. The piece put for the two colons is the first of the run. -/
def Progress.fill (p : Progress) : Option (List Nat) :=
  let pieces := p.pieces.reverse
  match p.gap with
  | none => if pieces.length = 8 then some pieces else none
  | some gap =>
    some (pieces.take gap ++ List.replicate (8 - pieces.length) 0 ++ pieces.drop gap)

/-- The eight pieces of the text between the brackets. -/
def parse : List Char → Option (List Nat)
  | ':' :: ':' :: cs => (readPieces cs ⟨[0], some 1⟩ cs) >>= Progress.fill
  | ':' :: _ => none
  | [] => none
  | [_] => none
  | cs => (readPieces cs ⟨[], none⟩ cs) >>= Progress.fill

/-! ## Writing -/

/-- The length of the run of zeros at the front. -/
def zeroRun (pieces : List Nat) : Nat := (pieces.takeWhile (· == 0)).length

/-- The start and the length of the first of the longest runs of zeros, if it has two or more. -/
def longestRun (pieces : List Nat) : Option (Nat × Nat) :=
  let runs := (List.range pieces.length).map fun start => (start, zeroRun (pieces.drop start))
  let best := runs.foldl (fun best run => if best.2 < run.2 then run else best) (0, 0)
  if 2 ≤ best.2 then some best else none

def joinPieces (pieces : List Nat) : List Char :=
  List.intercalate [':'] (pieces.map Text.lowerHex)

def text (pieces : List Nat) : List Char :=
  match longestRun pieces with
  | none => joinPieces pieces
  | some (start, length) =>
    joinPieces (pieces.take start) ++ [':', ':'] ++ joinPieces (pieces.drop (start + length))

end ResultGateway.Url.Ipv6
