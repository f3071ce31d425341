-- What is wrong with a text that should be JSON, and where. A fault is
-- found at a point of the text, so many bytes into what is left of it;
-- the message gives that point as a line and a column, both in bytes.
import ResultGateway.Json.Number
import ResultGateway.Text.Quoted

namespace ResultGateway.Json

/-! ## Causes -/

/-- What stands where another kind of value is expected. -/
inductive Found where
  | null
  | bool (b : Bool)
  | num (n : Number)
  | text (s : String)
  | sequence
  | map
deriving DecidableEq, Repr

def Found.phrase : Found → String
  | .null => "null"
  | .bool b => "boolean `" ++ (if b then "true" else "false") ++ "`"
  | .num (.integer i) => "integer `" ++ String.ofList (Text.decimalInt i) ++ "`"
  | .num (.real x) => "floating point `" ++ String.ofList x.text ++ "`"
  | .text s => "string " ++ Text.quoted s
  | .sequence => "sequence"
  | .map => "map"

inductive Cause where
  | endInValue
  | endInList
  | endInObject
  | endInText
  | expectedValue
  | expectedIdent
  | expectedColon
  | expectedListEnd
  | expectedObjectEnd
  | nameNotText
  | trailingComma
  | trailingCharacters
  | tooDeep
  | invalidNumber
  | numberOutOfRange
  | controlCharacter
  | invalidEscape
  | loneSurrogate
  | surrogateEnd
  | wrongType (found : Found) (expected : String)
  | wrongValue (found : Found) (expected : String)
  | missingField (name : String)
  | duplicateField (name : String)
  | wrongLength (length : Nat) (expected : String)
deriving DecidableEq, Repr

def Cause.message : Cause → String
  | .endInValue => "EOF while parsing a value"
  | .endInList => "EOF while parsing a list"
  | .endInObject => "EOF while parsing an object"
  | .endInText => "EOF while parsing a string"
  | .expectedValue => "expected value"
  | .expectedIdent => "expected ident"
  | .expectedColon => "expected `:`"
  | .expectedListEnd => "expected `,` or `]`"
  | .expectedObjectEnd => "expected `,` or `\x7d`"
  | .nameNotText => "key must be a string"
  | .trailingComma => "trailing comma"
  | .trailingCharacters => "trailing characters"
  | .tooDeep => "recursion limit exceeded"
  | .invalidNumber => "invalid number"
  | .numberOutOfRange => "number out of range"
  | .controlCharacter => "control character (\\u0000-\\u001F) found while parsing a string"
  | .invalidEscape => "invalid escape"
  | .loneSurrogate => "lone leading surrogate in hex escape"
  | .surrogateEnd => "unexpected end of hex escape"
  | .wrongType found expected => "invalid type: " ++ found.phrase ++ ", expected " ++ expected
  | .wrongValue found expected => "invalid value: " ++ found.phrase ++ ", expected " ++ expected
  | .missingField name => "missing field `" ++ name ++ "`"
  | .duplicateField name => "duplicate field `" ++ name ++ "`"
  | .wrongLength length expected =>
    "invalid length " ++ String.ofList (Text.decimal length) ++ ", expected " ++ expected

/-! ## Places -/

/-- A cause, the text that is left where it is found, and how many bytes of that text the place
lies beyond. -/
structure Fault where
  cause : Cause
  rest : List Char
  past : Nat
deriving DecidableEq, Repr

/-- A fault right where reading stands. -/
def Fault.here (cause : Cause) (rest : List Char) : Fault := ⟨cause, rest, 0⟩

/-- A fault behind the next byte, if there is one. -/
def Fault.peek (cause : Cause) (rest : List Char) : Fault :=
  ⟨cause, rest, if rest.isEmpty then 0 else 1⟩

/-- A line, from 1, and a column, the number of bytes of that line before the place. -/
structure Place where
  line : Nat
  column : Nat
deriving DecidableEq, Repr

def Place.start : Place := ⟨1, 0⟩

/-- The place after a character of which `bytes` bytes are passed. -/
def Place.after (place : Place) (c : Char) (bytes : Nat) : Place :=
  if c = '\n' then ⟨place.line + 1, 0⟩ else ⟨place.line, place.column + bytes⟩

def Place.advance (place : Place) : Nat → List Char → Place
  | _, [] => place
  | bytes, c :: cs =>
    if bytes = 0 then place
    else (place.after c (min bytes c.utf8Size)).advance (bytes - c.utf8Size) cs

/-- The place of a fault of a text. -/
def Fault.place (text : List Char) (fault : Fault) : Place :=
  let read := text.take (text.length - fault.rest.length)
  let before := read.foldl (fun place c => place.after c c.utf8Size) Place.start
  before.advance fault.past fault.rest

/-! ## Errors of a reading -/

/-- Why a text, or a value, is not what it is read as. Only a text has places. -/
structure ReadError where
  cause : Cause
  place : Option Place
deriving DecidableEq, Repr

def Fault.error (text : List Char) (fault : Fault) : ReadError :=
  ⟨fault.cause, some (fault.place text)⟩

def ReadError.message (e : ReadError) : String :=
  match e.place with
  | none => e.cause.message
  | some place =>
    e.cause.message ++ " at line " ++ String.ofList (Text.decimal place.line) ++ " column "
      ++ String.ofList (Text.decimal place.column)

end ResultGateway.Json
