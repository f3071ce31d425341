-- Reading JSON values. A reading takes one value off the front of a text.
-- Lists and objects may nest to a given depth. Values that are skipped are
-- checked for their form alone, at any depth.
import ResultGateway.Json.Scan
import ResultGateway.Json.Value

namespace ResultGateway.Json

/-! ## Between the items of a list and the members of an object -/

/-- Looks for the next item of a list: whether there is one, and the text from it on. -/
def nextItem (first : Bool) (cs : List Char) : Except Fault (Bool × List Char) :=
  match skipSpace cs with
  | [] => .error (.peek .endInList [])
  | ']' :: cs => .ok (false, ']' :: cs)
  | c :: cs =>
    if first then .ok (true, c :: cs)
    else if c = ',' then
      match skipSpace cs with
      | [] => .error (.peek .endInValue [])
      | ']' :: cs => .error (.peek .trailingComma (']' :: cs))
      | cs => .ok (true, cs)
    else .error (.peek .expectedListEnd (c :: cs))

/-- Looks for the next member of an object: whether there is one, and the text behind the quote
that opens its name, or from the closing brace on. -/
def nextName (first : Bool) (cs : List Char) : Except Fault (Bool × List Char) :=
  match skipSpace cs with
  | [] => .error (.peek .endInObject [])
  | '\x7d' :: cs => .ok (false, '\x7d' :: cs)
  | c :: cs =>
    if first then
      if c = '"' then .ok (true, cs) else .error (.peek .nameNotText (c :: cs))
    else if c = ',' then
      match skipSpace cs with
      | [] => .error (.peek .endInValue [])
      | '"' :: cs => .ok (true, cs)
      | '\x7d' :: cs => .error (.peek .trailingComma ('\x7d' :: cs))
      | cs => .error (.peek .nameNotText cs)
    else .error (.peek .expectedObjectEnd (c :: cs))

/-- Takes the colon between a name and its value. -/
def colon (cs : List Char) : Except Fault (List Char) :=
  match skipSpace cs with
  | [] => .error (.peek .endInObject [])
  | ':' :: cs => .ok cs
  | cs => .error (.peek .expectedColon cs)

/-! ## Lists and objects -/

/-- Reads the items of a list up to its closing bracket, which stays. The first argument bounds
the rounds: it starts as the text itself, of which each round takes a character or more. -/
def readItems {α : Type} (read : Step α) :
    List Char → Bool → List α → List Char → Except Fault (List α × List Char)
  | [], _, _, cs => .error (.peek .endInList cs)
  | _ :: fuel, first, found, cs =>
    match nextItem first cs with
    | .error fault => .error fault
    | .ok (false, cs) => .ok (found.reverse, cs)
    | .ok (true, cs) =>
      match read cs with
      | .error fault => .error fault
      | .ok (item, cs) => readItems read fuel false (item :: found) cs

/-- Reads the members of an object up to its closing brace, which stays. Each name, with the text
behind it, goes to `read`, which also takes the value and carries on the state. -/
def readMembers {ε σ : Type} (fault : Fault → ε)
    (read : σ → String → List Char → Except ε (σ × List Char)) :
    List Char → Bool → σ → List Char → Except ε (σ × List Char)
  | [], _, _, cs => .error (fault (.peek .endInObject cs))
  | _ :: fuel, first, state, cs =>
    match nextName first cs with
    | .error f => .error (fault f)
    | .ok (false, cs) => .ok (state, cs)
    | .ok (true, cs) =>
      match Step.text cs with
      | .error f => .error (fault f)
      | .ok (name, cs) =>
        match read state name cs with
        | .error e => .error e
        | .ok (state, cs) => readMembers fault read fuel false state cs

/-! ## Values -/

/-- Reads a value that is neither a list nor an object, and refuses what begins no value. -/
def scalar : Step Json
  | [] => .error (.peek .endInValue [])
  | 'n' :: cs => do return (.null, ← word ['u', 'l', 'l'] cs)
  | 't' :: cs => do return (.bool true, ← word ['r', 'u', 'e'] cs)
  | 'f' :: cs => do return (.bool false, ← word ['a', 'l', 's', 'e'] cs)
  | '"' :: cs => do
    let (s, cs) ← Step.text cs
    return (.str s, cs)
  | c :: cs =>
    if c = '-' || Text.isDigit c then do
      let (n, cs) ← Step.number (c :: cs)
      return (.num n, cs)
    else .error (.peek .expectedValue (c :: cs))

/-- Reads one member of an object into its sorted members. -/
def readMember (read : Step Json) (members : List (String × Json)) (name : String) :
    Step (List (String × Json)) := fun cs => do
  let cs ← colon cs
  let (value, cs) ← read cs
  return (insertMember name value members, cs)

/-- Reads a value whose lists and objects nest at most `depth` deep. -/
def readValue : Nat → Step Json
  | 0, cs =>
    match skipSpace cs with
    | '[' :: cs => .error (.peek .tooDeep ('[' :: cs))
    | '\x7b' :: cs => .error (.peek .tooDeep ('\x7b' :: cs))
    | cs => scalar cs
  | depth + 1, cs =>
    match skipSpace cs with
    | '[' :: cs =>
      match readItems (readValue depth) cs true [] cs with
      | .error fault => .error fault
      | .ok (items, cs) => .ok (.arr items, cs.drop 1)
    | '\x7b' :: cs =>
      match readMembers id (readMember (readValue depth)) cs true [] cs with
      | .error fault => .error fault
      | .ok (members, cs) => .ok (.obj members, cs.drop 1)
    | cs => scalar cs

/-! ## Values that are skipped -/

/-- Passes the colon and what is before it, from behind the quote that opens a name. -/
def skipName (cs : List Char) : Except Fault (List Char) := do
  colon (← skipText cs)

/-- Passes a value that is neither a list nor an object. -/
def skipScalar : List Char → Except Fault (List Char)
  | [] => .error (.peek .endInValue [])
  | 'n' :: cs => word ['u', 'l', 'l'] cs
  | 't' :: cs => word ['r', 'u', 'e'] cs
  | 'f' :: cs => word ['a', 'l', 's', 'e'] cs
  | '"' :: cs => skipText cs
  | c :: cs =>
    if c = '-' || Text.isDigit c then skipNumber (c :: cs)
    else .error (.peek .expectedValue (c :: cs))

/-- Passes the items of a list and its closing bracket. -/
def skipItems (skip : List Char → Except Fault (List Char)) :
    List Char → Bool → List Char → Except Fault (List Char)
  | [], _, cs => .error (.peek .endInList cs)
  | _ :: fuel, first, cs =>
    match skipSpace cs with
    | [] => .error (.peek .endInList [])
    | ']' :: cs => .ok cs
    | c :: cs =>
      if first || c = ',' then
        match skip (if first then c :: cs else cs) with
        | .error fault => .error fault
        | .ok cs => skipItems skip fuel false cs
      else .error (.peek .expectedListEnd (c :: cs))

/-- Passes one member of an object, from its name on. -/
def skipMember (skip : List Char → Except Fault (List Char)) (cs : List Char) :
    Except Fault (List Char) :=
  match skipSpace cs with
  | [] => .error (.peek .endInObject [])
  | '"' :: cs => do skip (← skipName cs)
  | cs => .error (.peek .nameNotText cs)

/-- Passes the members of an object and its closing brace. -/
def skipMembers (skip : List Char → Except Fault (List Char)) :
    List Char → Bool → List Char → Except Fault (List Char)
  | [], _, cs => .error (.peek .endInObject cs)
  | _ :: fuel, first, cs =>
    match skipSpace cs with
    | [] => .error (.peek .endInObject [])
    | '\x7d' :: cs => .ok cs
    | c :: cs =>
      if first || c = ',' then
        match skipMember skip (if first then c :: cs else cs) with
        | .error fault => .error fault
        | .ok cs => skipMembers skip fuel false cs
      else .error (.peek .expectedObjectEnd (c :: cs))

/-- Passes a value of any depth. The first argument bounds the depth: it starts as the text
itself, of which each list or object inside takes a character. -/
def skipNested : List Char → List Char → Except Fault (List Char)
  | [], cs => skipScalar (skipSpace cs)
  | _ :: fuel, cs =>
    match skipSpace cs with
    | '[' :: cs => skipItems (skipNested fuel) cs true cs
    | '\x7b' :: cs => skipMembers (skipNested fuel) cs true cs
    | cs => skipScalar cs

/-- Passes a value. -/
def skipValue (cs : List Char) : Except Fault (List Char) := skipNested cs cs

/-! ## Whole texts -/

/-- A text that holds what `read` reads and nothing else but blanks. -/
def whole {α : Type} (read : Step α) (text : List Char) : Except ReadError α :=
  match read text with
  | .error fault => .error (fault.error text)
  | .ok (a, rest) =>
    match skipSpace rest with
    | [] => .ok a
    | rest => .error ((Fault.peek .trailingCharacters rest).error text)

/-- The greatest depth of the lists and objects of a document. -/
def greatestDepth : Nat := 127

/-- The value of a document. -/
def parse (text : String) : Except ReadError Json :=
  whole (readValue greatestDepth) text.toList

end ResultGateway.Json
