-- The shortest decimal of a binary number. A decimal stands for the number
-- when rounding it gives the number back. Of those with the fewest digits
-- the nearest is taken, and of two equally near the one with an even digit.
import ResultGateway.Json.Binary64
import ResultGateway.Text.Decimal

namespace ResultGateway.Json

/-- The number `digits * 10 ^ exponent`. -/
structure Decimal where
  digits : Nat
  exponent : Int
deriving DecidableEq, Repr

/-! ## The interval that rounds to a number -/

/-- The fraction `num / den` scaled by `10 ^ (-k)`, as a numerator and a denominator. -/
def scaleByTen (num den : Nat) (k : Int) : Nat × Nat :=
  (num * Nat.pow 10 (-k).toNat, den * Nat.pow 10 k.toNat)

/-- A number below twice the next smaller one has a neighbour at half the distance. -/
def Binary64.isLowEdge (x : Binary64) : Bool :=
  x.significand == leastNormal && x.exponent != Binary64.leastExponent

/-- `d * 10 ^ k` rounds to the magnitude of `x`: it lies between the halfway points to the two
neighbours, the ends included when the significand is even. -/
def Binary64.admits (x : Binary64) (d : Nat) (k : Int) : Bool :=
  let unit := Nat.pow 2 x.exponent.toNat
  let low := (4 * x.significand - if x.isLowEdge then 1 else 2) * unit
  let high := (4 * x.significand + 2) * unit
  let point := 4 * d * x.den * Nat.pow 10 k.toNat
  let scale := Nat.pow 10 (-k).toNat
  if x.significand % 2 = 0 then low * scale ≤ point && point ≤ high * scale
  else low * scale < point && point < high * scale

/-! ## The search -/

/-- The `e` with `10 ^ e ≤ num / den < 10 ^ (e + 1)`, for positive `num` and `den`. -/
def floorLog10 (num den : Nat) : Int :=
  if den ≤ num then ((Text.decimal (num / den)).length : Int) - 1
  else
    let places := (Text.decimal (den / num)).length
    if num * Nat.pow 10 (places - 1) = den then 1 - (places : Int) else -(places : Int)

/-- The better of the two neighbours of `x` on the grid of multiples of `10 ^ k`, if one rounds
to `x`. -/
def Binary64.onGrid (x : Binary64) (k : Int) : Option Decimal :=
  let (num, den) := scaleByTen x.num x.den k
  let below := num / den
  let rest := num % den
  let choice (d : Nat) : Option Decimal := if x.admits d k then some ⟨d, k⟩ else none
  let belowFirst := 2 * rest < den || (2 * rest == den && below % 2 == 0)
  if belowFirst then choice below <|> choice (below + 1) else choice (below + 1) <|> choice below

/-- Moves the zeros at the end of the digits into the exponent. -/
def Decimal.dropZeros : Nat → Decimal → Decimal
  | 0, d => d
  | fuel + 1, d =>
    if d.digits % 10 = 0 && d.digits != 0 then dropZeros fuel ⟨d.digits / 10, d.exponent + 1⟩ else d

/-- The shortest decimal of the magnitude. Seventeen digits always suffice. -/
def Binary64.shortest (x : Binary64) : Decimal :=
  if x.isZero then ⟨0, 0⟩
  else
    let first := floorLog10 x.num x.den
    let grids := (List.range 17).map fun (n : Nat) => first - (n : Int)
    match grids.findSome? x.onGrid with
    | some d => d.dropZeros 17
    | none => ⟨x.significand, 0⟩

/-! ## Writing -/

/-- Plain notation is for first digits from the fifth place after the point to the sixteenth
before it; other numbers have an exponent, with its sign. A plain number always has a point. -/
def Decimal.text (d : Decimal) : List Char :=
  let digits := Text.decimal d.digits
  let count := digits.length
  let first : Int := d.exponent + (count : Int) - 1
  if -5 ≤ first && first ≤ 15 then
    if 0 ≤ d.exponent then digits ++ List.replicate d.exponent.toNat '0' ++ ['.', '0']
    else if 0 ≤ first then digits.take (first.toNat + 1) ++ '.' :: digits.drop (first.toNat + 1)
    else ['0', '.'] ++ List.replicate (-first - 1).toNat '0' ++ digits
  else
    let lead := match digits with
      | [] => []
      | [c] => [c]
      | c :: rest => c :: '.' :: rest
    lead ++ 'e' :: (if first < 0 then '-' else '+') :: Text.decimal first.natAbs

def Binary64.text (x : Binary64) : List Char :=
  (if x.negative then ['-'] else []) ++ x.shortest.text

end ResultGateway.Json
