-- Labels in ASCII. The plain characters of a label are written first; then
-- the others in ascending order, each as the distance from the one before
-- it, in a notation whose digits adapt to the distances so far.
import ResultGateway.Text.Decimal

namespace ResultGateway.Domain.Punycode

/-! ## Digits -/

def digitChar (d : Nat) : Char :=
  if d < 26 then Char.ofNat ('a'.toNat + d) else Char.ofNat ('0'.toNat + (d - 26))

def digitValue? (c : Char) : Option Nat :=
  if 'a' ≤ c && c ≤ 'z' then some (c.toNat - 'a'.toNat)
  else if 'A' ≤ c && c ≤ 'Z' then some (c.toNat - 'A'.toNat)
  else if Text.isDigit c then some (Text.digitValue c + 26)
  else none

/-- A digit below the threshold of its place is the last of its number. -/
def threshold (place bias : Nat) : Nat :=
  if place ≤ bias then 1 else if bias + 26 ≤ place then 26 else place - bias

theorem threshold_pos (place bias : Nat) : 1 ≤ threshold place bias := by
  unfold threshold
  split
  · omega
  · split <;> omega

theorem threshold_le (place bias : Nat) : threshold place bias ≤ 26 := by
  unfold threshold
  split
  · omega
  · split <;> omega

/-! ## The bias -/

/-- Divides a distance down to 455, counting the places. -/
def shrink (delta places : Nat) : Nat × Nat :=
  if 455 < delta then shrink (delta / 35) (places + 36) else (delta, places)
termination_by delta
decreasing_by exact Nat.div_lt_self (by omega) (by omega)

/-- The bias after a distance, when so many characters are placed. -/
def adapt (delta count : Nat) (first : Bool) : Nat :=
  let halved := if first then delta / 700 else delta / 2
  let (left, places) := shrink (halved + halved / count) 0
  places + 36 * left / (left + 38)

/-! ## Writing -/

/-- The digits of a distance, lowest first. -/
def distanceDigits (bias place delta : Nat) : List Char :=
  let t := threshold place bias
  if delta < t then [digitChar delta]
  else
    digitChar (t + (delta - t) % (36 - t)) ::
      distanceDigits bias (place + 36) ((delta - t) / (36 - t))
termination_by delta
decreasing_by
  have h1 := threshold_pos place bias
  have h2 := threshold_le place bias
  exact Nat.lt_of_le_of_lt (Nat.div_le_self _ _) (by omega)

structure Writing where
  written : List Char
  delta : Nat
  bias : Nat
  /-- How many characters are placed. -/
  count : Nat

/-- Passes one character of the label while the code point `point` is placed. -/
def pass (plain point : Nat) (w : Writing) (c : Char) : Writing :=
  if c.toNat < point then { w with delta := w.delta + 1 }
  else if c.toNat = point then
    ⟨w.written ++ distanceDigits w.bias 36 w.delta, 0,
      adapt w.delta (w.count + 1) (w.count == plain), w.count + 1⟩
  else w

/-- Places the code points in ascending order; the second one is the next that could come. -/
def placeAll (label : List Char) (plain : Nat) : List Nat → Nat → Writing → Writing
  | [], _, w => w
  | point :: rest, next, w =>
    let w := { w with delta := w.delta + (point - next) * (w.count + 1) }
    let w := label.foldl (pass plain point) w
    placeAll label plain rest (point + 1) { w with delta := w.delta + 1 }

/-- Puts a number into its place among ascending ones, once. -/
def insertPoint (n : Nat) : List Nat → List Nat
  | [] => [n]
  | m :: rest =>
    if n < m then n :: m :: rest else if n = m then m :: rest else m :: insertPoint n rest

def encode (label : List Char) : List Char :=
  let plain := label.filter fun c => c.toNat < 0x80
  let points := ((label.filter fun c => 0x80 ≤ c.toNat).map Char.toNat).foldr insertPoint []
  let start : Writing := ⟨[], 0, 72, plain.length⟩
  plain ++ (if plain.isEmpty then [] else ['-'])
    ++ (placeAll label plain.length points 0x80 start).written

/-! ## Reading -/

/-- Reads a distance and adds it, times the weight of its places, to `index`. -/
def readDistance (bias : Nat) : List Char → Nat → Nat → Nat → Option (Nat × List Char)
  | [], _, _, _ => none
  | c :: cs, place, weight, index => do
    let d ← digitValue? c
    let t := threshold place bias
    if d < t then return (index + d * weight, cs)
    else readDistance bias cs (place + 36) (weight * (36 - t)) (index + d * weight)

/-- Reads distances and puts the characters into their places. The first argument bounds the
rounds by the text itself. -/
def placeRead : List Char → Nat → Nat → Nat → List Char → List Char → Option (List Char)
  | _, _, _, _, label, [] => some label
  | [], _, _, _, _, _ => none
  | _ :: fuel, bias, point, index, label, cs => do
    let (sum, rest) ← readDistance bias cs 36 1 index
    let count := label.length + 1
    let point := point + sum / count
    let at' := sum % count
    if point < 0xd800 || (0xdfff < point && point < 0x110000) then
      placeRead fuel (adapt (sum - index) count (index == 0)) point (at' + 1)
        (label.insertIdx at' (Char.ofNat point)) rest
    else none

/-- The label that a text without its mark stands for. -/
def decode (cs : List Char) : Option (List Char) :=
  if cs.any fun c => 0x80 ≤ c.toNat then none
  else
    let tail := (cs.reverse.takeWhile (· != '-')).reverse
    if tail.length = cs.length then placeRead cs 72 0x80 0 [] cs
    else placeRead tail 72 0x80 0 (cs.take (cs.length - tail.length - 1)) tail

end ResultGateway.Domain.Punycode
