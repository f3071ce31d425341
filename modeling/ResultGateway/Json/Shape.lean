-- Reading a text straight into a type. A reader names what it expects, so
-- a value of another kind is refused by name. A shape lists the fields of
-- a structure: it is read from an object, where other members are passed
-- over, or from a list of the field values in order.
import ResultGateway.Json.Reader

namespace ResultGateway.Json

/-- Reads one part of a text, in which lists and objects may nest to a depth. -/
abbrev Reader (α : Type) := Nat → Step α

/-! ## Values of the wrong kind -/

/-- The fault of a value of another kind than expected. A list or an object is refused at its
bracket, any other value once it is read. -/
def refuse (expected : String) (cs : List Char) : Fault :=
  match cs with
  | '[' :: _ => .here (.wrongType .sequence expected) cs
  | '\x7b' :: _ => .here (.wrongType .map expected) cs
  | _ =>
    match scalar cs with
    | .error fault => fault
    | .ok (.null, rest) => .here (.wrongType .null expected) rest
    | .ok (.bool b, rest) => .here (.wrongType (.bool b) expected) rest
    | .ok (.num n, rest) => .here (.wrongType (.num n) expected) rest
    | .ok (.str s, rest) => .here (.wrongType (.text s) expected) rest
    | .ok (_, rest) => .here .expectedValue rest

/-! ## Single values -/

namespace Reader

def value : Reader Json := readValue

def text : Reader String := fun _ cs =>
  match skipSpace cs with
  | '"' :: cs => Step.text cs
  | cs => .error (refuse "a string" cs)

/-- An integer that is not below zero. -/
def word : Reader Nat := fun _ cs =>
  match skipSpace cs with
  | [] => .error (.peek .endInValue [])
  | c :: cs =>
    if c = '-' || Text.isDigit c then
      match Step.number (c :: cs) with
      | .error fault => .error fault
      | .ok (.integer (.ofNat n), rest) => .ok (n, rest)
      | .ok (.integer i, rest) =>
        .error (.here (.wrongValue (.num (.integer i)) "u64") rest)
      | .ok (n, rest) => .error (.here (.wrongType (.num n) "u64") rest)
    else .error (refuse "u64" (c :: cs))

/-- Nothing for null, and a value for any other text. -/
def optional {α : Type} (read : Reader α) : Reader (Option α) := fun depth cs =>
  match skipSpace cs with
  | 'n' :: cs => do return (none, ← Json.word ['u', 'l', 'l'] cs)
  | cs => do
    let (a, cs) ← read depth cs
    return (some a, cs)

def list {α : Type} (read : Reader α) : Reader (List α) := fun depth cs =>
  match skipSpace cs with
  | '[' :: cs =>
    match depth with
    | 0 => .error (.peek .tooDeep ('[' :: cs))
    | depth + 1 => do
      let (items, cs) ← readItems (read depth) cs true [] cs
      return (items, cs.drop 1)
  | cs => .error (refuse "a sequence" cs)

def map {α β : Type} (f : α → β) (read : Reader α) : Reader β := fun depth cs => do
  let (a, cs) ← read depth cs
  return (f a, cs)

end Reader

/-! ## Shapes of structures -/

/-- A field of a structure: its name, whether it may be left out, and how it is read into the
structure. -/
structure Field (σ : Type) where
  name : String
  required : Bool
  read : σ → Reader σ

structure Shape (σ : Type) where
  name : String
  fields : List (Field σ)
  /-- The structure before any field is read. -/
  start : σ

/-- The field that `read` reads and `store` puts into its place. -/
def Field.of {σ α : Type} (name : String) (required : Bool) (read : Reader α)
    (store : α → σ → σ) : Field σ :=
  ⟨name, required, fun s => read.map fun a => store a s⟩

namespace Shape

def expected {σ : Type} (shape : Shape σ) : String := "struct " ++ shape.name

def expectedLength {σ : Type} (shape : Shape σ) : String :=
  let count := shape.fields.length
  shape.expected ++ " with " ++ String.ofList (Text.decimal count)
    ++ if count = 1 then " element" else " elements"

/-- A fault with a place, or a cause that gets its place once the structure is closed. -/
inductive Snag where
  | placed (fault : Fault)
  | unplaced (cause : Cause) (rest : List Char)

/-! ### From an object -/

/-- The fields read so far, and the names of those. -/
structure Progress (σ : Type) where
  value : σ
  seen : List String

/-- Reads the member with a name, from behind the name on. -/
def readField {σ : Type} (shape : Shape σ) (depth : Nat) (progress : Progress σ) (name : String)
    (cs : List Char) : Except Snag (Progress σ × List Char) :=
  match shape.fields.find? fun field => field.name == name with
  | none =>
    match colon cs >>= skipValue with
    | .error fault => .error (.placed fault)
    | .ok cs => .ok (progress, cs)
  | some field =>
    if progress.seen.contains name then .error (.unplaced (.duplicateField name) cs)
    else
      match colon cs >>= field.read progress.value depth with
      | .error fault => .error (.placed fault)
      | .ok (value, cs) => .ok (⟨value, name :: progress.seen⟩, cs)

def ofObject {σ : Type} (shape : Shape σ) (depth : Nat) (cs : List Char) :
    Except Snag (σ × List Char) :=
  match readMembers Snag.placed (shape.readField depth) cs true ⟨shape.start, []⟩ cs with
  | .error snag => .error snag
  | .ok (progress, cs) =>
    match shape.fields.find? fun f => f.required && !progress.seen.contains f.name with
    | some field => .error (.unplaced (.missingField field.name) cs)
    | none => .ok (progress.value, cs)

/-! ### From a list -/

/-- Reads the fields in order. A field that may be left out is left out when the list ends. -/
def ofItems {σ : Type} (shape : Shape σ) (depth : Nat) :
    List (Field σ) → Nat → Bool → σ → List Char → Except Snag (σ × List Char)
  | [], _, _, value, cs => .ok (value, cs)
  | field :: fields, index, first, value, cs =>
    match nextItem first cs with
    | .error fault => .error (.placed fault)
    | .ok (false, cs) =>
      if field.required then .error (.unplaced (.wrongLength index shape.expectedLength) cs)
      else shape.ofItems depth fields (index + 1) first value cs
    | .ok (true, cs) =>
      match field.read value depth cs with
      | .error fault => .error (.placed fault)
      | .ok (value, cs) => shape.ofItems depth fields (index + 1) false value cs

/-! ### The closing bracket -/

/-- Closes an object: the fault if it does not close here, and the text from there on. -/
def closeObject (cs : List Char) : Option Fault × List Char :=
  match skipSpace cs with
  | [] => (some (.peek .endInObject []), [])
  | '\x7d' :: cs => (none, cs)
  | ',' :: cs => (some (.peek .trailingComma (',' :: cs)), ',' :: cs)
  | cs => (some (.peek .trailingCharacters cs), cs)

def closeList (cs : List Char) : Option Fault × List Char :=
  match skipSpace cs with
  | [] => (some (.peek .endInList []), [])
  | ']' :: cs => (none, cs)
  | ',' :: cs =>
    match skipSpace cs with
    | ']' :: cs => (some (.peek .trailingComma (']' :: cs)), ']' :: cs)
    | cs => (some (.peek .trailingCharacters cs), cs)
  | cs => (some (.peek .trailingCharacters cs), cs)

/-- Closes a structure that is read. A cause without a place gets the place behind the close. -/
def finish {σ : Type} (close : List Char → Option Fault × List Char) :
    Except Snag (σ × List Char) → Except Fault (σ × List Char)
  | .error (.placed fault) => .error fault
  | .error (.unplaced cause cs) => .error (.here cause (close cs).2)
  | .ok (value, cs) =>
    match close cs with
    | (some fault, _) => .error fault
    | (none, cs) => .ok (value, cs)

/-- Reads a structure of the shape. -/
def reader {σ : Type} (shape : Shape σ) : Reader σ := fun depth cs =>
  match skipSpace cs with
  | '[' :: cs =>
    match depth with
    | 0 => .error (.peek .tooDeep ('[' :: cs))
    | depth + 1 => finish closeList (shape.ofItems depth shape.fields 0 true shape.start cs)
  | '\x7b' :: cs =>
    match depth with
    | 0 => .error (.peek .tooDeep ('\x7b' :: cs))
    | depth + 1 => finish closeObject (shape.ofObject depth cs)
  | cs => .error (refuse shape.expected cs)

end Shape

/-- Reads a whole document. -/
def Reader.decode {α : Type} (read : Reader α) (text : String) : Except ReadError α :=
  whole (read greatestDepth) text.toList

end ResultGateway.Json
