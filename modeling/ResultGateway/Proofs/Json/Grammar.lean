-- The grammar of JSON texts, and the values that texts spell. It is told
-- apart from any reader or writer. Which numbers a literal may stand for is
-- left open, so that the same grammar says that a text is well formed, and
-- that it keeps a value exactly.
import ResultGateway.Json.Scan
import ResultGateway.Json.Value

namespace ResultGateway.Json

/-! ## Numbers -/

/-- The digits before a point: one zero, or digits with no zero at the front. -/
inductive IsWhole : List Char → Prop where
  | zero : IsWhole ['0']
  | digits {c : Char} {cs : List Char} (front : c ≠ '0')
      (all_digits : ∀ d ∈ c :: cs, Text.isDigit d = true) : IsWhole (c :: cs)

/-- The digits of a fraction, and its text: a point and at least one digit, or nothing. -/
inductive IsFraction : List Char → List Char → Prop where
  | none : IsFraction [] []
  | digits {ds : List Char} (some_digit : ds ≠ []) (all_digits : ∀ d ∈ ds, Text.isDigit d = true) :
      IsFraction ds ('.' :: ds)

/-- Whether an exponent is negative, and the sign that says so. -/
inductive IsSign : Bool → List Char → Prop where
  | none : IsSign false []
  | plus : IsSign false ['+']
  | minus : IsSign true ['-']

/-- The sign and the digits of an exponent, and its text. -/
inductive IsExponent : Option (Bool × List Char) → List Char → Prop where
  | none : IsExponent none []
  | digits {mark : Char} {negative : Bool} {sign ds : List Char}
      (marked : isExponentMark mark = true) (signed : IsSign negative sign) (some_digit : ds ≠ [])
      (all_digits : ∀ d ∈ ds, Text.isDigit d = true) :
      IsExponent (some (negative, ds)) (mark :: (sign ++ ds))

def digitValues (ds : List Char) : List Nat := ds.map Text.digitValue

def minusText (negative : Bool) : List Char := if negative then ['-'] else []

/-- The texts of a literal. -/
inductive Literal.IsText : Literal → List Char → Prop where
  | parts {negative : Bool} {whole fraction f e : List Char} {exponent : Option (Bool × List Char)}
      (hwhole : IsWhole whole) (hfraction : IsFraction fraction f)
      (hexponent : IsExponent exponent e) :
      IsText ⟨negative, digitValues whole, digitValues fraction,
        exponent.map fun e => (e.1, digitValues e.2)⟩ (minusText negative ++ (whole ++ (f ++ e)))

/-- The integer that a literal without a point and an exponent shows. -/
def Literal.integer? (l : Literal) : Option Int :=
  if l.fraction = [] ∧ l.exponent = none then
    let n : Nat := l.whole.foldl (fun n d => 10 * n + d) 0
    some (if l.negative then -(n : Int) else (n : Int))
  else none

/-- A literal shows an integer exactly; any literal may show another number. -/
def Literal.Shows (l : Literal) (n : Number) : Prop := ∀ i, n = .integer i → l.integer? = some i

/-- A literal gives the number that a document with it has. -/
def Literal.Gives (l : Literal) (n : Number) : Prop := l.value = .ok n

/-! ## Texts in quotes -/

/-- Characters, and the text between quotes that spells them. -/
inductive SpellsChars : List Char → List Char → Prop where
  | nil : SpellsChars [] []
  | plain {c : Char} {s cs : List Char} (no_control : 0x20 ≤ c.toNat) (no_quote : c ≠ '"')
      (no_backslash : c ≠ '\\') (rest : SpellsChars s cs) : SpellsChars (c :: s) (c :: cs)
  | short {c e : Char} {s cs : List Char} (escape : shortEscape? c = some e)
      (rest : SpellsChars s cs) : SpellsChars (e :: s) ('\\' :: c :: cs)
  | word {a b c d : Char} {n : Nat} {s cs : List Char} (escape : hexWord? a b c d = some n)
      (not_low : isLowSurrogate n = false) (not_high : isHighSurrogate n = false)
      (rest : SpellsChars s cs) :
      SpellsChars (Char.ofNat n :: s) ('\\' :: 'u' :: a :: b :: c :: d :: cs)
  | pair {a b c d e f g h : Char} {high low : Nat} {s cs : List Char}
      (first : hexWord? a b c d = some high) (is_high : isHighSurrogate high = true)
      (second : hexWord? e f g h = some low) (is_low : isLowSurrogate low = true)
      (rest : SpellsChars s cs) :
      SpellsChars (joinSurrogates high low :: s)
        ('\\' :: 'u' :: a :: b :: c :: d :: '\\' :: 'u' :: e :: f :: g :: h :: cs)

/-- A text, and how it is spelled between its quotes. -/
inductive SpellsText : String → List Char → Prop where
  | quoted {s : String} {cs : List Char} (h : SpellsChars s.toList cs) :
      SpellsText s ('"' :: (cs ++ ['"']))

/-! ## Values -/

def IsBlank (cs : List Char) : Prop := ∀ c ∈ cs, isSpace c = true

theorem isBlank_nil : IsBlank [] := fun _ h => nomatch h

section

variable (stands : Literal → Number → Prop)

mutual

/-- A value and a text that spells it, where literals stand for numbers as said. The members of
an object are spelled in their order, and no name is left out. -/
inductive Spells : Json → List Char → Prop where
  | null : Spells .null ['n', 'u', 'l', 'l']
  | true : Spells (.bool true) ['t', 'r', 'u', 'e']
  | false : Spells (.bool false) ['f', 'a', 'l', 's', 'e']
  | num {l : Literal} {n : Number} {cs : List Char} (text : l.IsText cs) (number : stands l n) :
      Spells (.num n) cs
  | str {s : String} {cs : List Char} (h : SpellsText s cs) : Spells (.str s) cs
  | arr {items : List Json} {cs : List Char} (h : SpellsItems items cs) :
      Spells (.arr items) ('[' :: (cs ++ [']']))
  | obj {members : List (String × Json)} {cs : List Char} (h : SpellsMembers members cs) :
      Spells (.obj members) ('\x7b' :: (cs ++ ['\x7d']))

/-- What stands between the brackets of a list. -/
inductive SpellsItems : List Json → List Char → Prop where
  | nil {blank : List Char} (h : IsBlank blank) : SpellsItems [] blank
  | cons {item : Json} {rest : List Json} {blank v cs : List Char} (h : IsBlank blank)
      (value : Spells item v) (more : SpellsMoreItems rest cs) :
      SpellsItems (item :: rest) (blank ++ (v ++ cs))

/-- What follows an item of a list. -/
inductive SpellsMoreItems : List Json → List Char → Prop where
  | nil {blank : List Char} (h : IsBlank blank) : SpellsMoreItems [] blank
  | cons {item : Json} {rest : List Json} {blank cs : List Char} (h : IsBlank blank)
      (items : SpellsItems (item :: rest) cs) : SpellsMoreItems (item :: rest) (blank ++ ',' :: cs)

/-- What stands between the braces of an object. -/
inductive SpellsMembers : List (String × Json) → List Char → Prop where
  | nil {blank : List Char} (h : IsBlank blank) : SpellsMembers [] blank
  | cons {name : String} {item : Json} {rest : List (String × Json)}
      {blank n before after v cs : List Char} (h : IsBlank blank) (named : SpellsText name n)
      (hbefore : IsBlank before) (hafter : IsBlank after) (value : Spells item v)
      (more : SpellsMoreMembers rest cs) :
      SpellsMembers ((name, item) :: rest)
        (blank ++ (n ++ (before ++ ':' :: (after ++ (v ++ cs)))))

/-- What follows a member of an object. -/
inductive SpellsMoreMembers : List (String × Json) → List Char → Prop where
  | nil {blank : List Char} (h : IsBlank blank) : SpellsMoreMembers [] blank
  | cons {member : String × Json} {rest : List (String × Json)} {blank cs : List Char}
      (h : IsBlank blank) (members : SpellsMembers (member :: rest) cs) :
      SpellsMoreMembers (member :: rest) (blank ++ ',' :: cs)

end

end

/-! ## Depths -/

/-- Values whose lists and objects nest at most so deep, and whose numbers are as said. -/
inductive Within (allowed : Number → Prop) : Nat → Json → Prop where
  | null {depth : Nat} : Within allowed depth .null
  | bool {depth : Nat} (b : Bool) : Within allowed depth (.bool b)
  | num {depth : Nat} {n : Number} (h : allowed n) : Within allowed depth (.num n)
  | str {depth : Nat} (s : String) : Within allowed depth (.str s)
  | arr {depth : Nat} {items : List Json} (h : ∀ item ∈ items, Within allowed depth item) :
      Within allowed (depth + 1) (.arr items)
  | obj {depth : Nat} {members : List (String × Json)}
      (h : ∀ member ∈ members, Within allowed depth member.2) :
      Within allowed (depth + 1) (.obj members)

/-- A number that a document keeps exactly. -/
def Number.IsExact (n : Number) : Prop := ∃ i, n = .integer i ∧ Number.Fits i

theorem Within.mono {allowed : Number → Prop} {depth greater : Nat} {j : Json}
    (h : Within allowed depth j) (hle : depth ≤ greater) : Within allowed greater j := by
  induction h generalizing greater with
  | null => exact .null
  | bool b => exact .bool b
  | num h => exact .num h
  | str s => exact .str s
  | arr h ih =>
    obtain ⟨greater, rfl⟩ := Nat.exists_eq_succ_of_ne_zero (Nat.ne_of_gt (Nat.zero_lt_of_lt hle))
    exact .arr fun item hitem => ih item hitem (Nat.le_of_succ_le_succ hle)
  | obj h ih =>
    obtain ⟨greater, rfl⟩ := Nat.exists_eq_succ_of_ne_zero (Nat.ne_of_gt (Nat.zero_lt_of_lt hle))
    exact .obj fun member hmember => ih member hmember (Nat.le_of_succ_le_succ hle)

/-- Things that each have some depth have one in common. -/
theorem exists_depth_all {α : Type} {P : Nat → α → Prop} {things : List α}
    (mono : ∀ {depth greater a}, P depth a → depth ≤ greater → P greater a)
    (h : ∀ a ∈ things, ∃ depth, P depth a) : ∃ depth, ∀ a ∈ things, P depth a := by
  induction things with
  | nil => exact ⟨0, fun _ h => nomatch h⟩
  | cons a rest ih =>
    obtain ⟨first, hfirst⟩ := h a List.mem_cons_self
    obtain ⟨depth, hrest⟩ := ih fun b hb => h b (List.mem_cons_of_mem _ hb)
    refine ⟨max first depth, ?_⟩
    intro b hb
    rcases List.mem_cons.mp hb with rfl | hb
    · exact mono hfirst (Nat.le_max_left first depth)
    · exact mono (hrest b hb) (Nat.le_max_right first depth)

/-- Every value nests to some depth. -/
theorem exists_within (j : Json) : ∃ depth, Within (fun _ => True) depth j := by
  match j with
  | .null => exact ⟨0, .null⟩
  | .bool b => exact ⟨0, .bool b⟩
  | .num _ => exact ⟨0, .num trivial⟩
  | .str s => exact ⟨0, .str s⟩
  | .arr items =>
    have hitems : ∀ item ∈ items, ∃ depth, Within (fun _ => True) depth item :=
      fun item _ => exists_within item
    obtain ⟨depth, h⟩ := exists_depth_all (P := Within fun _ => True) Within.mono hitems
    exact ⟨depth + 1, .arr h⟩
  | .obj members =>
    have hmembers : ∀ member ∈ members, ∃ depth, Within (fun _ => True) depth member.2 :=
      fun member _ => exists_within member.2
    obtain ⟨depth, h⟩ := exists_depth_all
      (P := fun depth (member : String × Json) => Within (fun _ => True) depth member.2)
      Within.mono hmembers
    exact ⟨depth + 1, .obj h⟩
termination_by sizeOf j
decreasing_by
  · have := List.sizeOf_lt_of_mem ‹item ∈ items›
    simp only [arr.sizeOf_spec]
    omega
  · have := List.sizeOf_lt_of_mem ‹member ∈ members›
    obtain ⟨name, value⟩ := member
    simp only [obj.sizeOf_spec, Prod.mk.sizeOf_spec] at *
    omega

end ResultGateway.Json
