-- JSON values. The members of an object are sorted by name, with no name
-- twice: a member that is added under a present name replaces the old one.
import ResultGateway.Json.Number

namespace ResultGateway

inductive Json where
  | null
  | bool (b : Bool)
  | num (n : Json.Number)
  | str (s : String)
  | arr (items : List Json)
  | obj (members : List (String × Json))
deriving Repr, Inhabited

namespace Json

/-! ## Building -/

def int (i : Int) : Json := .num (.integer i)

def nat (n : Nat) : Json := int (n : Int)

/-- A text, or null when there is none. -/
def strOrNull : Option String → Json
  | some s => .str s
  | none => .null

def orNull : Option Json → Json
  | some j => j
  | none => .null

/-- Puts a member into its place among sorted members. -/
def insertMember (name : String) (value : Json) : List (String × Json) → List (String × Json)
  | [] => [(name, value)]
  | (other, old) :: rest =>
    if name = other then (name, value) :: rest
    else if name < other then (name, value) :: (other, old) :: rest
    else (other, old) :: insertMember name value rest

/-- The sorted members of a list, in which the last of two members of one name counts. -/
def sortMembers (members : List (String × Json)) : List (String × Json) :=
  members.foldl (fun sorted member => insertMember member.1 member.2 sorted) []

/-- An object of the listed members. -/
def ofMembers (members : List (String × Json)) : Json := .obj (sortMembers members)

/-! ## Looking inside -/

def lookup (name : String) : List (String × Json) → Option Json
  | [] => none
  | (other, value) :: rest => if name = other then some value else lookup name rest

/-- The member of an object; other values have none. -/
def get? : Json → String → Option Json
  | .obj members, name => lookup name members
  | _, _ => none

def text? : Json → Option String
  | .str s => some s
  | _ => none

def isNull : Json → Bool
  | .null => true
  | _ => false

/-! ## Sorted values -/

/-- Names in strictly ascending order. -/
def NamesAscend : List String → Prop
  | [] => True
  | [_] => True
  | a :: b :: rest => a < b ∧ NamesAscend (b :: rest)

mutual

/-- The values that a document denotes: members ascend by name, and integers fit. -/
def Canonical : Json → Prop
  | .null => True
  | .bool _ => True
  | .num (.integer i) => Number.Fits i
  | .num (.real _) => True
  | .str _ => True
  | .arr items => CanonicalItems items
  | .obj members => NamesAscend (members.map Prod.fst) ∧ CanonicalMembers members

def CanonicalItems : List Json → Prop
  | [] => True
  | item :: rest => Canonical item ∧ CanonicalItems rest

def CanonicalMembers : List (String × Json) → Prop
  | [] => True
  | (_, value) :: rest => Canonical value ∧ CanonicalMembers rest

end

mutual

/-- The value with the members of every object sorted. -/
def sorted : Json → Json
  | .arr items => .arr (sortedItems items)
  | .obj members => ofMembers (sortedValues members)
  | .null => .null
  | .bool b => .bool b
  | .num n => .num n
  | .str s => .str s

def sortedItems : List Json → List Json
  | [] => []
  | item :: rest => item.sorted :: sortedItems rest

def sortedValues : List (String × Json) → List (String × Json)
  | [] => []
  | (name, value) :: rest => (name, value.sorted) :: sortedValues rest

end

end Json

end ResultGateway
