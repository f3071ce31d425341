-- Parameters of the command line: places for values, each with a form that
-- the text of a value has to have.
import ResultGateway.CommandLine.Usage
import ResultGateway.Settings

namespace ResultGateway.CommandLine

/-! ## Numbers -/

inductive NumberFault where
  | empty
  | notDigit
  | tooLarge
  | tooSmall
  | outOfRange (value : Int)
deriving DecidableEq, Repr

def NumberFault.message : NumberFault → String
  | empty => "cannot parse integer from empty string"
  | notDigit => "invalid digit found in string"
  | tooLarge => "number too large to fit in target type"
  | tooSmall => "number too small to fit in target type"
  | outOfRange value =>
    String.ofList (Text.decimalInt value) ++ " is not in 0..="
      ++ String.ofList (Text.decimal Settings.greatestPort)

/-- Reads digits behind those of `n`, up to the first that is none or leads beyond `greatest`. -/
def readDigits (greatest : Nat) (beyond : NumberFault) (n : Nat) :
    List Char → Except NumberFault Nat
  | [] => .ok n
  | c :: cs =>
    if !Text.isDigit c then .error .notDigit
    else if greatest < 10 * n + Text.digitValue c then .error beyond
    else readDigits greatest beyond (10 * n + Text.digitValue c) cs

/-- The greatest number that is read before its range is looked at. -/
def greatestInteger : Nat := 0x7fffffffffffffff

def readMagnitude (greatest : Nat) (beyond : NumberFault) :
    List Char → Except NumberFault Nat
  | [] => .error .notDigit
  | cs => readDigits greatest beyond 0 cs

/-- An integer with at most one sign. -/
def readInteger : List Char → Except NumberFault Int
  | [] => .error .empty
  | '-' :: cs => (readMagnitude (greatestInteger + 1) .tooSmall cs).map fun n => -(n : Int)
  | '+' :: cs => (readMagnitude greatestInteger .tooLarge cs).map Int.ofNat
  | cs => (readMagnitude greatestInteger .tooLarge cs).map Int.ofNat

def readPort (s : String) : Except NumberFault Nat :=
  match readInteger s.toList with
  | .error fault => .error fault
  | .ok i =>
    if 0 ≤ i && i ≤ (Settings.greatestPort : Int) then .ok i.toNat else .error (.outOfRange i)

/-! ## Forms of values -/

inductive Form where
  /-- Any text. -/
  | text
  /-- The name of a file, which is not empty. -/
  | path
  | port
  | word (allowed : List String)
deriving DecidableEq, Repr

/-- Why a text is no value of a form. -/
inductive ValueFault where
  | missing
  | invalid (reason : Option String)
deriving DecidableEq, Repr

def Form.fault? (form : Form) (s : String) : Option ValueFault :=
  match form with
  | .text => none
  | .path => if s = "" then some .missing else none
  | .port =>
    match readPort s with
    | .ok _ => none
    | .error fault => some (.invalid (some fault.message))
  | .word allowed =>
    if s = "" then some .missing
    else if allowed.contains s then none
    else some (.invalid none)

/-! ## Parameters -/

structure Parameter where
  name : String
  /-- What stands for the value where the parameter is shown. -/
  label : String
  about : String
  form : Form := .text
  /-- A parameter without a name takes the value that belongs to no other. -/
  isNamed : Bool := true
deriving DecidableEq, Repr

/-- How a message shows a parameter. -/
def Parameter.shown (p : Parameter) : String :=
  if p.isNamed then "--" ++ p.name ++ " <" ++ p.label ++ ">" else "<" ++ p.label ++ ">"

def ValueFault.error (fault : ValueFault) (p : Parameter) (value : String) : UsageError :=
  match fault with
  | .missing => .valueMissing p.shown
  | .invalid reason => .invalidValue value p.shown reason

end ResultGateway.CommandLine
