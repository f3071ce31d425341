-- The small parts of a JSON text: blanks, words, numbers and texts in
-- quotes. Each reading takes a part off the front of the text and gives
-- what is left. `Step.number` and `Step.text` give the value of the part;
-- the `skip` readings check its form alone.
import ResultGateway.Json.Fault
import ResultGateway.Text.Utf8

namespace ResultGateway.Json

/-- Reads a part of a text, and gives the text behind it. -/
abbrev Step (α : Type) := List Char → Except Fault (α × List Char)

/-! ## Blanks and words -/

def isSpace (c : Char) : Bool := c == ' ' || c == '\n' || c == '\t' || c == '\r'

def skipSpace (cs : List Char) : List Char := cs.dropWhile isSpace

/-- Takes the letters of a word off the text. -/
def word : List Char → List Char → Except Fault (List Char)
  | [], cs => .ok cs
  | _ :: _, [] => .error (.here .endInValue [])
  | w :: ws, c :: cs => if w = c then word ws cs else .error (.peek .expectedIdent (c :: cs))

/-! ## Numbers -/

/-- The digits at the front of a text. -/
def digits (cs : List Char) : List Nat × List Char :=
  ((cs.takeWhile Text.isDigit).map Text.digitValue, cs.dropWhile Text.isDigit)

/-- The digits before the point: one zero, or a number without leading zeros. -/
def wholeDigits : Step (List Nat)
  | [] => .error (.here .endInValue [])
  | '0' :: cs =>
    match digits cs with
    | ([], cs) => .ok ([0], cs)
    | _ => .error (.peek .invalidNumber cs)
  | c :: cs =>
    if Text.isDigit c then .ok (digits (c :: cs)) else .error (.peek .invalidNumber (c :: cs))

/-- A point and at least one digit, or nothing. -/
def fractionDigits : Step (List Nat)
  | '.' :: cs =>
    match digits cs with
    | ([], []) => .error (.here .endInValue [])
    | ([], cs) => .error (.peek .invalidNumber cs)
    | found => .ok found
  | cs => .ok ([], cs)

def takeSign : List Char → Bool × List Char
  | '+' :: cs => (false, cs)
  | '-' :: cs => (true, cs)
  | cs => (false, cs)

def isExponentMark (c : Char) : Bool := c == 'e' || c == 'E'

/-- The exponent of a number, with the text that starts with its digits. -/
def exponentDigits : Step (Option (Bool × List Nat × List Char))
  | [] => .ok (none, [])
  | c :: cs =>
    if isExponentMark c then
      let (negative, cs) := takeSign cs
      match cs with
      | [] => .error (.here .endInValue [])
      | d :: _ =>
        if Text.isDigit d then
          let (found, rest) := digits cs
          .ok (some (negative, found, cs), rest)
        else .error (.peek .invalidNumber cs)
    else .ok (none, c :: cs)

def takeMinus : List Char → Bool × List Char
  | '-' :: cs => (true, cs)
  | cs => (false, cs)

def Step.number : Step Number := fun cs => do
  let (negative, cs) := takeMinus cs
  let (whole, cs) ← wholeDigits cs
  let (fraction, cs) ← fractionDigits cs
  let (exponent, cs) ← exponentDigits cs
  let literal : Literal := ⟨negative, whole, fraction, exponent.map fun e => (e.1, e.2.1)⟩
  match literal.value with
  | .ok n => .ok (n, cs)
  | .error .magnitude => .error (.here .numberOutOfRange cs)
  | .error (.exponent count) =>
    match exponent with
    | some (_, _, start) => .error (.here .numberOutOfRange (start.drop count))
    | none => .error (.here .numberOutOfRange cs)

/-! ## Texts in quotes -/

/-- The character that a backslash and a letter stand for. -/
def shortEscape? : Char → Option Char
  | '"' => some '"'
  | '\\' => some '\\'
  | '/' => some '/'
  | 'b' => some '\x08'
  | 'f' => some '\x0c'
  | 'n' => some '\n'
  | 'r' => some '\r'
  | 't' => some '\t'
  | _ => none

/-- The number of four hexadecimal digits. -/
def hexWord? (a b c d : Char) : Option Nat := do
  return 4096 * (← Text.hexValue? a) + 256 * (← Text.hexValue? b) + 16 * (← Text.hexValue? c)
    + (← Text.hexValue? d)

def isHighSurrogate (n : Nat) : Bool := 0xd800 ≤ n && n ≤ 0xdbff

def isLowSurrogate (n : Nat) : Bool := 0xdc00 ≤ n && n ≤ 0xdfff

def joinSurrogates (high low : Nat) : Char :=
  Char.ofNat (0x10000 + 0x400 * (high - 0xd800) + (low - 0xdc00))

/-- The fault of an escape with a number whose four digits are not there. -/
def badHex (cs : List Char) : Fault :=
  if Text.Utf8.size (cs.take 4) < 4 then .here .endInText [] else ⟨.invalidEscape, cs, 4⟩

/-- Reads a text from behind its opening quote. The first argument is what is read so far, last
character first. -/
def textRest (found : List Char) : Step String
  | [] => .error (.here .endInText [])
  | '"' :: cs => .ok (String.ofList found.reverse, cs)
  | '\\' :: cs =>
    match cs with
    | [] => .error (.here .endInText [])
    | 'u' :: a :: b :: c :: d :: cs =>
      match hexWord? a b c d with
      | none => .error (badHex (a :: b :: c :: d :: cs))
      | some n =>
        if isLowSurrogate n then .error (.here .loneSurrogate cs)
        else if isHighSurrogate n then
          match cs with
          | [] => .error (.here .endInText [])
          | '\\' :: [] => .error (.here .endInText [])
          | '\\' :: 'u' :: e :: f :: g :: h :: cs =>
            match hexWord? e f g h with
            | none => .error (badHex (e :: f :: g :: h :: cs))
            | some low =>
              if isLowSurrogate low then textRest (joinSurrogates n low :: found) cs
              else .error (.here .loneSurrogate cs)
          | '\\' :: 'u' :: cs => .error (badHex cs)
          | '\\' :: cs => .error (.peek .surrogateEnd cs)
          | cs => .error (.peek .surrogateEnd cs)
        else textRest (Char.ofNat n :: found) cs
    | 'u' :: cs => .error (badHex cs)
    | c :: cs =>
      match shortEscape? c with
      | some e => textRest (e :: found) cs
      | none => .error (.peek .invalidEscape (c :: cs))
  | c :: cs =>
    if c.toNat < 0x20 then .error (.peek .controlCharacter (c :: cs))
    else textRest (c :: found) cs

/-- Reads a text from behind its opening quote. -/
def Step.text : Step String := textRest []

/-! ## Parts whose value is not wanted -/

/-- Passes the exponent of a number, if there is one. -/
def skipExponent : List Char → Except Fault (List Char)
  | [] => .ok []
  | c :: cs =>
    if isExponentMark c then
      match (takeSign cs).2 with
      | [] => .error (.here .invalidNumber [])
      | d :: cs =>
        if Text.isDigit d then .ok (digits cs).2 else .error (.peek .invalidNumber (d :: cs))
    else .ok (c :: cs)

/-- Passes the fraction and the exponent of a number, if there are any. -/
def skipFraction : List Char → Except Fault (List Char)
  | '.' :: cs =>
    match digits cs with
    | ([], cs) => .error (.peek .invalidNumber cs)
    | (_, cs) => skipExponent cs
  | cs => skipExponent cs

/-- Passes a number of any size. -/
def skipNumber (cs : List Char) : Except Fault (List Char) :=
  match (takeMinus cs).2 with
  | [] => .error (.here .invalidNumber [])
  | '0' :: cs =>
    match digits cs with
    | ([], cs) => skipFraction cs
    | _ => .error (.peek .invalidNumber cs)
  | c :: cs =>
    if Text.isDigit c then skipFraction (digits cs).2 else .error (.peek .invalidNumber (c :: cs))

/-- Passes a text from behind its opening quote; surrogates need not pair. -/
def skipText : List Char → Except Fault (List Char)
  | [] => .error (.here .endInText [])
  | '"' :: cs => .ok cs
  | '\\' :: cs =>
    match cs with
    | [] => .error (.here .endInText [])
    | 'u' :: a :: b :: c :: d :: cs =>
      match hexWord? a b c d with
      | none => .error (badHex (a :: b :: c :: d :: cs))
      | some _ => skipText cs
    | 'u' :: cs => .error (badHex cs)
    | c :: cs =>
      match shortEscape? c with
      | some _ => skipText cs
      | none => .error (.peek .invalidEscape (c :: cs))
  | c :: cs => if c.toNat < 0x20 then .error (.here .controlCharacter (c :: cs)) else skipText cs

end ResultGateway.Json
