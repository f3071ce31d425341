-- The composed normal form of a text. Each character is taken apart, the
-- marks after a letter are put in order of their classes, and what belongs
-- together is put together again.
import ResultGateway.Domain.NormalTable

namespace ResultGateway.Domain.Normal

/-! ## Syllables -/

/-- Korean syllables are composed of two or three letters by arithmetic. -/
def syllableBase : Nat := 0xac00

def leadBase : Nat := 0x1100

def vowelBase : Nat := 0x1161

def tailBase : Nat := 0x11a7

def isSyllable (point : Nat) : Bool := syllableBase ≤ point && point < syllableBase + 11172

def syllableParts (point : Nat) : List Nat :=
  let index := point - syllableBase
  let letters := [leadBase + index / 588, vowelBase + index % 588 / 28]
  if index % 28 = 0 then letters else letters ++ [tailBase + index % 28]

def joinSyllable? (a b : Nat) : Option Nat :=
  if leadBase ≤ a && a < leadBase + 19 && vowelBase ≤ b && b < vowelBase + 21 then
    some (syllableBase + ((a - leadBase) * 21 + (b - vowelBase)) * 28)
  else if isSyllable a && (a - syllableBase) % 28 == 0 && tailBase < b && b < tailBase + 28 then
    some (a + (b - tailBase))
  else none

/-! ## Taking apart -/

/-- The parts of a code point. The first argument bounds how often a part has parts itself. -/
def partsOf : Nat → Nat → List Nat
  | 0, point => [point]
  | fuel + 1, point =>
    if point < 0xc0 then [point]
    else if isSyllable point then syllableParts point
    else
      match compositeRows.targets? point with
      | some (first :: rest) => partsOf fuel first ++ rest
      | _ =>
        match expandedRows.targets? point with
        | some parts => parts
        | none => [point]

/-! ## The order of marks -/

def combiningClass (point : Nat) : Nat :=
  if point < 0x300 then 0
  else
    match combiningClasses.classOf? (Char.ofNat point) with
    | some name => Text.ofHex name
    | none => 0

/-- Puts a mark behind the marks of its class or a lower one, before a character of none. -/
def insertMark (mark : Nat × Nat) : List (Nat × Nat) → List (Nat × Nat)
  | [] => [mark]
  | other :: rest =>
    if other.2 != 0 && other.2 < mark.2 then other :: insertMark mark rest
    else mark :: other :: rest

/-- Orders each run of marks by class, and keeps the order of marks of one class. -/
def orderMarks (points : List Nat) : List (Nat × Nat) :=
  points.foldr (fun point rest =>
    let k := combiningClass point
    if k = 0 then (point, 0) :: rest else insertMark (point, k) rest) []

/-! ## Putting together -/

def compose? (a b : Nat) : Option Nat :=
  match joinSyllable? a b with
  | some point => some point
  | none => (compositeRows.find? fun row => row.2 == [a, b]).map Prod.fst

/-- A letter that marks may join, the marks that did not, last first, and the last of their
classes. -/
structure Pending where
  starter : Nat
  marks : List Nat
  lastClass : Option Nat

def Pending.points (p : Pending) : List Nat := p.starter :: p.marks.reverse

/-- Joins marks and letters to the letter before them, where nothing in between blocks it. -/
def joinMarks : Option Pending → List (Nat × Nat) → List Nat
  | none, [] => []
  | some p, [] => p.points
  | none, (point, k) :: rest =>
    if k = 0 then joinMarks (some ⟨point, [], none⟩) rest else point :: joinMarks none rest
  | some p, (point, k) :: rest =>
    let blocked := match p.lastClass with
      | none => false
      | some last => last == 0 || k ≤ last
    match if blocked then none else compose? p.starter point with
    | some joined => joinMarks (some { p with starter := joined }) rest
    | none =>
      if k = 0 then p.points ++ joinMarks (some ⟨point, [], none⟩) rest
      else joinMarks (some ⟨p.starter, point :: p.marks, some k⟩) rest

/-- The composed normal form. -/
def compose (cs : List Char) : List Char :=
  (joinMarks none (orderMarks (cs.flatMap fun c => partsOf 8 c.toNat))).map Char.ofNat

end ResultGateway.Domain.Normal
