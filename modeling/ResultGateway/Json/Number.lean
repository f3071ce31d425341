-- Numbers of a document. An integer of 64 bits stays exact; any other
-- number is a binary floating-point number. The decimal digits of a
-- literal are first gathered in a word of 64 bits, then scaled.
import ResultGateway.Json.Shortest

namespace ResultGateway.Json

inductive Number where
  | integer (value : Int)
  | real (value : Binary64)
deriving DecidableEq, Repr

/-- The integers that stay exact: those of a signed or an unsigned 64-bit word. -/
def Number.Fits (i : Int) : Prop := -0x8000000000000000 ≤ i ∧ i ≤ 0xffffffffffffffff

def Number.text : Number → List Char
  | .integer i => Text.decimalInt i
  | .real x => x.text

/-- A number as it is written in a document, digit by digit. -/
structure Literal where
  negative : Bool
  /-- The digits before the point. -/
  whole : List Nat
  /-- The digits after the point, empty when there is no point. -/
  fraction : List Nat
  /-- The sign and the digits of the exponent. -/
  exponent : Option (Bool × List Nat)
deriving DecidableEq, Repr

/-! ## Gathering digits -/

def greatestWord : Nat := 0xffffffffffffffff

def greatestExponentWord : Nat := 0x7fffffff

/-- Appends digits to a number while it stays within `limit`, and gives the digits left over. -/
def gather (limit : Nat) (n : Nat) : List Nat → Nat × List Nat
  | [] => (n, [])
  | d :: ds => if limit < 10 * n + d then (n, d :: ds) else gather limit (10 * n + d) ds

/-- The significand and the power of ten of a literal without its exponent. A digit of the whole
part that does not fit only counts as a place; one of the fraction is dropped with all after it. -/
def Literal.significand (l : Literal) : Nat × Int :=
  let (whole, extra) := gather greatestWord 0 l.whole
  let (all, dropped) := gather greatestWord whole l.fraction
  (all, (extra.length : Int) - ((l.fraction.length : Int) - (dropped.length : Int)))

/-! ## Scaling -/

/-- The largest power of ten that one scaling step uses. -/
def greatestTenPow : Nat := 308

/-- `x / 10 ^ k`, by powers of at most `greatestTenPow`; a zero stays as it is. -/
def scaleDown (x : Binary64) (k : Nat) : Option Binary64 := do
  if k ≤ greatestTenPow then x.div (← Binary64.tenPow k)
  else if x.isZero then some x
  else scaleDown (← x.div (← Binary64.tenPow greatestTenPow)) (k - greatestTenPow)
termination_by k
decreasing_by simp only [greatestTenPow] at *; omega

/-- `x * 10 ^ k`; only a zero can be scaled by more than `greatestTenPow`. -/
def scaleUp (x : Binary64) (k : Nat) : Option Binary64 := do
  if k ≤ greatestTenPow then x.mul (← Binary64.tenPow k)
  else if x.isZero then some x
  else none

/-- `± n * 10 ^ k` as a floating-point number, or `none` when it is out of range. -/
def scaled (negative : Bool) (n : Nat) (k : Int) : Option Binary64 := do
  let magnitude ← Binary64.ofNat n
  let x ← if 0 ≤ k then scaleUp magnitude k.toNat else scaleDown magnitude (-k).toNat
  return { x with negative }

/-! ## The value of a literal -/

/-- Why a literal has no value. -/
inductive OutOfRange where
  | magnitude
  /-- The exponent is too large, which is known after so many of its digits. -/
  | exponent (digits : Nat)
deriving DecidableEq, Repr

/-- An exponent is held in a signed word of 32 bits, and sticks at its ends. -/
def clampExponent (k : Int) : Int :=
  max (-0x80000000) (min 0x7fffffff k)

def realOrFault (x : Option Binary64) : Except OutOfRange Number :=
  match x with
  | some x => .ok (.real x)
  | none => .error .magnitude

/-- The value of a literal with no point and no exponent. A minus zero is not an integer. -/
def integerValue (negative : Bool) (n : Nat) : Except OutOfRange Number :=
  if !negative then .ok (.integer n)
  else if n = 0 || 0x8000000000000000 < n then realOrFault (scaled true n 0)
  else .ok (.integer (-(n : Int)))

def Literal.value (l : Literal) : Except OutOfRange Number :=
  let (n, k) := l.significand
  match l.exponent with
  | none =>
    if l.fraction.isEmpty && k == 0 then integerValue l.negative n
    else realOrFault (scaled l.negative n k)
  | some (exponentNegative, digits) =>
    match gather greatestExponentWord 0 digits with
    | (e, []) =>
      let e : Int := if exponentNegative then -(e : Int) else (e : Int)
      realOrFault (scaled l.negative n (clampExponent (k + e)))
    | (_, left) =>
      if n != 0 && !exponentNegative then .error (.exponent (digits.length - left.length + 1))
      else .ok (.real (.zero l.negative))

end ResultGateway.Json
