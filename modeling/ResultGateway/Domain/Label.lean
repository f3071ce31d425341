-- The rules for the labels of a domain: no mark at the front, joiners only
-- where they join, and one writing direction in a label.
import ResultGateway.Domain.LabelTable
import ResultGateway.Domain.Mapping
import ResultGateway.Domain.Normal

namespace ResultGateway.Domain

/-! ## Writing direction -/

inductive Direction where
  | left
  | right
  | arabic
  | arabicNumber
  | number
  | separator
  | terminator
  | common
  | neutral
  | boundary
  | mark
  | other
deriving DecidableEq, Repr

def Direction.ofName (name : List Char) : Direction :=
  match String.ofList name with
  | "R" => right
  | "AL" => arabic
  | "AN" => arabicNumber
  | "EN" => number
  | "ES" => separator
  | "ET" => terminator
  | "CS" => common
  | "ON" => neutral
  | "BN" => boundary
  | "NSM" => mark
  | _ => other

def directionOf (c : Char) : Direction :=
  match directionClasses.classOf? c with
  | some name => .ofName name
  | none => .left

/-- A character that is written from right to left, or a number among such. -/
def isRightward (d : Direction) : Bool := d == .right || d == .arabic || d == .arabicNumber

def isEither (d : Direction) : Bool :=
  d == .number || d == .separator || d == .terminator || d == .common || d == .neutral
    || d == .boundary || d == .mark

/-- The rule for a label of a domain in which some label is written from right to left. -/
def keepsDirection (label : List Char) : Bool :=
  let directions := label.map directionOf
  let last := (directions.reverse.dropWhile (· == .mark)).head?
  match directions.head? with
  | none => true
  | some .left =>
    directions.all (fun d => d == .left || isEither d)
      && (last == some .left || last == some .number)
  | some first =>
    (first == .right || first == .arabic)
      && directions.all (fun d => isRightward d || isEither d)
      && (last == some .right || last == some .arabic || last == some .number
        || last == some .arabicNumber)
      && !(directions.contains .number && directions.contains .arabicNumber)

/-! ## Joiners -/

def nonJoiner : Char := '\u200c'

def joiner : Char := '\u200d'

def joiningOf (c : Char) : List Char := (joiningClasses.classOf? c).getD ['U']

/-- The combining class of the sign that silences a vowel. -/
def silencerClass : Nat := 9

/-- The nearest joining class that is not a passed-over one. -/
def nextJoining (cs : List Char) : List Char :=
  ((cs.map joiningOf).dropWhile (· == ['T'])).headD ['U']

/-- A joiner is allowed after a sign that silences a vowel, and a non-joiner also between two
letters that would join. The first argument holds what stands before, nearest first. -/
def joinersFit : List Char → List Char → Bool
  | _, [] => true
  | before, c :: after =>
    let silenced := match before with
      | p :: _ => Normal.combiningClass p.toNat == silencerClass
      | [] => false
    let fits :=
      if c = joiner then silenced
      else if c = nonJoiner then
        silenced ||
          ([['L'], ['D']].contains (nextJoining before)
            && [['R'], ['D']].contains (nextJoining after))
      else true
    fits && joinersFit (c :: before) after

/-! ## Labels -/

/-- A label that is as its mapped and composed form should be. -/
def isSound (label : List Char) : Bool :=
  (match label with
    | c :: _ => !markRanges.contains c
    | [] => true)
    && label.all isPlain && joinersFit [] label && Normal.compose label == label

end ResultGateway.Domain
