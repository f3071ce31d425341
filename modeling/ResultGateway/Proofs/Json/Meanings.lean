-- What readers make of values. A reader looks at nothing of a text but the
-- value that it spells, so it has a meaning: the thing that it makes of each
-- value at each depth, or nothing where it refuses the value. Here are the
-- meanings of the readers of single values, of lists and of whole values.
import ResultGateway.Proofs.Json.Lists
import ResultGateway.Proofs.Json.Shapes

namespace ResultGateway.Json

open Text (isDigit)

/-! ## Numbers -/

/-- A number that no literal gives. It stands for the literals that give none. -/
def Number.outOfRange : Number := .integer (-0x8000000000000001)

def Literal.number (l : Literal) : Number :=
  match l.value with
  | .ok n => n
  | .error _ => .outOfRange

/-- Every literal denotes one number. -/
def Literal.Denotes (l : Literal) (n : Number) : Prop := l.number = n

/-- The number, if a literal can give it. -/
def Number.given? (n : Number) : Option Number := if n = .outOfRange then none else some n

theorem given?_of_fits {n : Number} (h : ∀ i, n = .integer i → Number.Fits i) :
    n.given? = some n := by
  refine if_neg ?_
  rintro rfl
  have hfits := (h _ rfl).1
  omega

theorem eq_of_given? {n m : Number} (h : n.given? = some m) : n = m := by
  unfold Number.given? at h
  split at h
  · cases h
  · exact Option.some.inj h

theorem eq_outOfRange {n : Number} (h : n.given? = none) : n = .outOfRange := by
  unfold Number.given? at h
  split at h
  · assumption
  · cases h

theorem given?_number (l : Literal) : l.number.given? = l.value.toOption := by
  unfold Literal.number
  cases hvalue : l.value with
  | error e => rfl
  | ok n =>
    refine given?_of_fits ?_
    rintro i rfl
    exact fits_of_gives hvalue

theorem gives_of_denotes {l : Literal} {n : Number} (h : l.Denotes n) (hn : n ≠ .outOfRange) :
    l.Gives n := by
  have hgiven := given?_number l
  rw [show l.number = n from h, Number.given?, if_neg hn] at hgiven
  exact toOption_eq_some.mp hgiven.symm

/-! ## Values of texts -/

/-- Values that differ in their numbers only, and these as said. -/
inductive Alike (differ : Number → Number → Prop) : Json → Json → Prop where
  | null : Alike differ .null .null
  | bool (b : Bool) : Alike differ (.bool b) (.bool b)
  | num {n m : Number} (h : differ n m) : Alike differ (.num n) (.num m)
  | str (s : String) : Alike differ (.str s) (.str s)
  | arr {items others : List Json} (length : items.length = others.length)
      (h : ∀ pair ∈ items.zip others, Alike differ pair.1 pair.2) :
      Alike differ (.arr items) (.arr others)
  | obj {members others : List (String × Json)}
      (names : members.map Prod.fst = others.map Prod.fst)
      (h : ∀ pair ∈ members.zip others, Alike differ pair.1.2 pair.2.2) :
      Alike differ (.obj members) (.obj others)

/-- A number that a literal stands for, and the one that the literal denotes. -/
def Denoted (stands : Literal → Number → Prop) (n m : Number) : Prop :=
  ∃ l : Literal, stands l n ∧ l.number = m

section

variable {stands : Literal → Number → Prop}

mutual

/-- Each text that spells a value denotes one that is alike, whatever numbers its literals stand
for there. -/
theorem exists_denoted {j : Json} {cs : List Char} :
    Spells stands j cs → ∃ i, Alike (Denoted stands) j i ∧ Spells Literal.Denotes i cs
  | .null => ⟨_, .null, .null⟩
  | .true => ⟨_, .bool true, .true⟩
  | .false => ⟨_, .bool false, .false⟩
  | .num text number => ⟨_, .num ⟨_, number, rfl⟩, .num text rfl⟩
  | .str h => ⟨_, .str _, .str h⟩
  | .arr h =>
    have ⟨_, hlength, halike, h⟩ := exists_denoted_items h
    ⟨_, .arr hlength halike, .arr h⟩
  | .obj h =>
    have ⟨_, hnames, halike, h⟩ := exists_denoted_members h
    ⟨_, .obj hnames halike, .obj h⟩

theorem exists_denoted_items {items : List Json} {cs : List Char} :
    SpellsItems stands items cs → ∃ found : List Json, items.length = found.length ∧
      (∀ pair ∈ items.zip found, Alike (Denoted stands) pair.1 pair.2) ∧
      SpellsItems Literal.Denotes found cs
  | .nil h => ⟨[], rfl, List.forall_mem_nil _, .nil h⟩
  | .cons h value more =>
    have ⟨item, hitem, value⟩ := exists_denoted value
    have ⟨rest, hlength, hrest, more⟩ := exists_denoted_moreItems more
    ⟨item :: rest, congrArg (· + 1) hlength, List.forall_mem_cons.mpr ⟨hitem, hrest⟩,
      .cons h value more⟩

theorem exists_denoted_moreItems {items : List Json} {cs : List Char} :
    SpellsMoreItems stands items cs → ∃ found : List Json, items.length = found.length ∧
      (∀ pair ∈ items.zip found, Alike (Denoted stands) pair.1 pair.2) ∧
      SpellsMoreItems Literal.Denotes found cs
  | .nil h => ⟨[], rfl, List.forall_mem_nil _, .nil h⟩
  | .cons h items =>
    match exists_denoted_items items with
    | ⟨item :: rest, hlength, halike, items⟩ => ⟨item :: rest, hlength, halike, .cons h items⟩

theorem exists_denoted_members {members : List (String × Json)} {cs : List Char} :
    SpellsMembers stands members cs → ∃ found : List (String × Json),
      members.map Prod.fst = found.map Prod.fst ∧
      (∀ pair ∈ members.zip found, Alike (Denoted stands) pair.1.2 pair.2.2) ∧
      SpellsMembers Literal.Denotes found cs
  | .nil h => ⟨[], rfl, List.forall_mem_nil _, .nil h⟩
  | .cons h named hbefore hafter value more =>
    have ⟨item, hitem, value⟩ := exists_denoted value
    have ⟨rest, hnames, hrest, more⟩ := exists_denoted_moreMembers more
    ⟨(_, item) :: rest, congrArg (_ :: ·) hnames, List.forall_mem_cons.mpr ⟨hitem, hrest⟩,
      .cons h named hbefore hafter value more⟩

theorem exists_denoted_moreMembers {members : List (String × Json)} {cs : List Char} :
    SpellsMoreMembers stands members cs → ∃ found : List (String × Json),
      members.map Prod.fst = found.map Prod.fst ∧
      (∀ pair ∈ members.zip found, Alike (Denoted stands) pair.1.2 pair.2.2) ∧
      SpellsMoreMembers Literal.Denotes found cs
  | .nil h => ⟨[], rfl, List.forall_mem_nil _, .nil h⟩
  | .cons h members =>
    match exists_denoted_members members with
    | ⟨member :: rest, hnames, halike, members⟩ =>
      ⟨member :: rest, hnames, halike, .cons h members⟩

end

end

/-! ## Meanings -/

section

variable {α β : Type}

/-- What a step makes of a value, from each text that spells it: a thing, or nothing when each
text is refused. -/
def Makes (read : Step α) (j : Json) (made : Option α) : Prop :=
  ∀ blank cs rest, IsBlank blank → Spells Literal.Denotes j cs → EndsNumber rest →
    (read (blank ++ (cs ++ rest))).toOption = made.map (·, rest)

theorem ReadsFrom.makes {read : Step α} {j : Json} {a : α}
    (h : ReadsFrom Literal.Denotes read j a) : Makes read j (some a) := by
  intro blank cs rest hblank hspelled hends
  rw [h blank cs rest hblank hspelled hends]
  rfl

/-- A reader with what it makes of each value. -/
structure Meaning (read : Reader α) where
  made : Nat → Json → Option α
  makes : ∀ depth j, Makes (read depth) j (made depth j)

@[simp]
theorem toOption_ok {ε : Type} (a : α) : (Except.ok a : Except ε α).toOption = some a := rfl

@[simp]
theorem toOption_error {ε : Type} (e : ε) : (Except.error e : Except ε α).toOption = none := rfl

theorem toOption_bind {ε : Type} (x : Except ε α) (f : α → Except ε β) :
    (x >>= f).toOption = x.toOption.bind fun a => (f a).toOption := by
  cases x <;> rfl

/-- A step is refused where nothing is made, and gives what is made otherwise. -/
theorem refused_or_made {ε : Type} {x : Except ε α} {made : Option β} {f : β → α}
    (h : x.toOption = made.map f) :
    (made = none ∧ ∃ e, x = .error e) ∨ ∃ b, made = some b ∧ x = .ok (f b) := by
  cases made with
  | none =>
    cases x with
    | error e => exact .inl ⟨rfl, e, rfl⟩
    | ok a => cases h
  | some b => exact .inr ⟨b, rfl, toOption_eq_some.mp h⟩

theorem toOption_map {ε : Type} (x : Except ε α) (f : α → β) :
    (x.map f).toOption = x.toOption.map f := by
  cases x <;> rfl

/-! ## First characters -/

inductive Kind where
  | null
  | bool
  | number
  | text
  | list
  | object
deriving DecidableEq

def kind : Json → Kind
  | .null => .null
  | .bool _ => .bool
  | .num _ => .number
  | .str _ => .text
  | .arr _ => .list
  | .obj _ => .object

/-- Whether a text of a value of this kind may start with a character. -/
def Kind.opens : Kind → Char → Bool
  | .null, c => c == 'n'
  | .bool, c => c == 't' || c == 'f'
  | .number, c => c == '-' || isDigit c
  | .text, c => c == '"'
  | .list, c => c == '['
  | .object, c => c == '\x7b'

theorem opens_of_spells {stands : Literal → Number → Prop} {j : Json} {cs : List Char}
    (h : Spells stands j cs) : ∃ c rest, cs = c :: rest ∧ j.kind.opens c = true := by
  cases h with
  | num htext =>
    obtain ⟨c, rest, rfl, hc⟩ := htext.head
    exact ⟨c, rest, rfl, by simpa [kind, Kind.opens] using hc⟩
  | str htext =>
    obtain ⟨-⟩ := htext
    exact ⟨_, _, rfl, rfl⟩
  | _ => exact ⟨_, _, rfl, rfl⟩

section

variable {k : Kind} {c d : Char} (h : k.opens c = true)
include h

theorem Kind.ne_of_opens (hd : k.opens d = false) : c ≠ d := by
  rintro rfl
  exact absurd h (by simp [hd])

theorem Kind.no_space_of_opens : isSpace c = false := by
  cases k with
  | number => exact isSpace_of_startsNumber (by simpa [Kind.opens] using h)
  | bool =>
    simp only [Kind.opens, Bool.or_eq_true, beq_iff_eq] at h
    rcases h with rfl | rfl <;> rfl
  | _ =>
    simp only [Kind.opens, beq_iff_eq] at h
    rw [h]
    rfl

/-- Only numbers start as numbers do. -/
theorem Kind.not_number_of_opens (hk : k ≠ .number) : (c = '-' || isDigit c) = false := by
  cases k with
  | number => exact absurd rfl hk
  | bool =>
    simp only [Kind.opens, Bool.or_eq_true, beq_iff_eq] at h
    rcases h with rfl | rfl <;> decide
  | _ =>
    simp only [Kind.opens, beq_iff_eq] at h
    rw [h]
    decide

end

/-- A step that refuses a first character makes nothing of the values that it opens. -/
theorem makes_none {read : Step α} {j : Json}
    (h : ∀ c blank cs, IsBlank blank → j.kind.opens c = true →
      ∃ fault, read (blank ++ c :: cs) = .error fault) :
    Makes read j none := by
  intro blank cs rest hblank hspelled _
  obtain ⟨c, cs, rfl, hc⟩ := opens_of_spells hspelled
  obtain ⟨fault, hfault⟩ := h c blank (cs ++ rest) hblank hc
  rw [List.cons_append, hfault]
  rfl

/-! ## Single values -/

theorem text_refuses {c : Char} {blank : List Char} (hblank : IsBlank blank)
    (hspace : isSpace c = false) (hquote : c ≠ '"') (depth : Nat) (cs : List Char) :
    ∃ fault, Reader.text depth (blank ++ c :: cs) = .error fault := by
  simp [Reader.text, skipSpace_blank hblank, skipSpace_cons hspace, hquote]

def Meaning.text : Meaning Reader.text where
  made _ j := j.text?
  makes := by
    intro depth j
    cases j with
    | str s =>
      exact (readsFrom_text Literal.Denotes s depth).makes
    | _ =>
      exact makes_none fun c blank cs hblank hc =>
        text_refuses hblank (Kind.no_space_of_opens hc) (Kind.ne_of_opens hc rfl) depth cs

theorem word_refuses {c : Char} {blank : List Char} (hblank : IsBlank blank)
    (hspace : isSpace c = false) (hnumber : (c = '-' || isDigit c) = false) (depth : Nat)
    (cs : List Char) : ∃ fault, Reader.word depth (blank ++ c :: cs) = .error fault := by
  simp [Reader.word, skipSpace_blank hblank, skipSpace_cons hspace, hnumber]

/-- The number of a value that is an integer and not below zero. -/
def word? : Json → Option Nat
  | .num (.integer (.ofNat n)) => some n
  | _ => none

def Meaning.word : Meaning Reader.word where
  made _ j := j.word?
  makes := by
    intro depth j
    cases j with
    | num n =>
      intro blank cs rest hblank hspelled hends
      cases hspelled with
      | @num l _ _ htext hdenotes =>
        have hread := toOption_number_append htext hends
        obtain ⟨c, cs, rfl, hc⟩ := htext.head
        have hstart : (c = '-' || isDigit c) = true := by simpa using hc
        rw [← given?_number, show l.number = n from hdenotes, List.cons_append] at hread
        simp only [Reader.word, List.cons_append, skipSpace_blank hblank,
          skipSpace_cons (isSpace_of_startsNumber hc), hstart, if_true]
        rcases refused_or_made hread with ⟨hnone, fault, hfault⟩ | ⟨m, hsome, hok⟩
        · rw [hfault, eq_outOfRange hnone]
          rfl
        · rw [hok, eq_of_given? hsome]
          match m with
          | .integer (.ofNat _) => rfl
          | .integer (.negSucc _) => rfl
          | .real _ => rfl
    | _ =>
      exact makes_none fun c blank cs hblank hc => word_refuses hblank
        (Kind.no_space_of_opens hc) (Kind.not_number_of_opens hc nofun) depth cs

/-! ## Parts that may be missing -/

variable {read : Reader α}

theorem Reader.optional_cons {c : Char} {blank : List Char} (hblank : IsBlank blank)
    (hspace : isSpace c = false) (hnull : c ≠ 'n') (depth : Nat) (cs : List Char) :
    (read.optional depth (blank ++ c :: cs)).toOption =
      (read depth (c :: cs)).toOption.map fun part => (some part.1, part.2) := by
  unfold Reader.optional
  rw [skipSpace_blank hblank, skipSpace_cons hspace]
  split
  · rename_i heq
    cases heq
    exact absurd rfl hnull
  · cases read depth (c :: cs) <;> rfl

/-- A null makes nothing, and any other value what it makes by itself. -/
def Meaning.optional (m : Meaning read) : Meaning read.optional where
  made depth j := if j.kind = .null then some none else (m.made depth j).map some
  makes := by
    intro depth j
    by_cases hnull : j.kind = .null
    · obtain rfl : j = .null := by cases j <;> first | rfl | cases hnull
      exact (readsFrom_null Literal.Denotes read depth).makes
    · rw [if_neg hnull]
      intro blank cs rest hblank hspelled hends
      have hread := m.makes depth j [] cs rest isBlank_nil hspelled hends
      obtain ⟨c, cs, rfl, hc⟩ := opens_of_spells hspelled
      have hne : c ≠ 'n' := by
        refine Kind.ne_of_opens hc ?_
        generalize j.kind = k at hnull
        cases k <;> first | rfl | exact absurd rfl hnull
      rw [List.nil_append, List.cons_append] at hread
      rw [List.cons_append, Reader.optional_cons hblank (Kind.no_space_of_opens hc) hne, hread]
      cases m.made depth j <;> rfl

def Meaning.map (f : α → β) (m : Meaning read) : Meaning (read.map f) where
  made depth j := (m.made depth j).map f
  makes := by
    intro depth j blank cs rest hblank hspelled hends
    have hread := m.makes depth j blank cs rest hblank hspelled hends
    rw [Reader.map_eq, toOption_map, hread, Option.map_map, Option.map_map]
    rfl

/-! ## Lists -/

/-- The items of a list make something one by one, or the list is refused. -/
theorem readItems_makes {step : Step α} {made : Json → Option α}
    (hmakes : ∀ item, Makes step item (made item)) {items : List Json} {first : Bool}
    {cs : List Char} (h : SpellsFrom Literal.Denotes first items cs) {fuel : List Char}
    (hfuel : cs.length < fuel.length) (found : List α) (rest : List Char) :
    (readItems step fuel first found (cs ++ ']' :: rest)).toOption =
      (items.mapM made).map fun things => (found.reverse ++ things, ']' :: rest) := by
  induction items generalizing first cs fuel found with
  | nil =>
    obtain ⟨f, fuel, rfl⟩ := List.exists_cons_of_length_pos (Nat.zero_lt_of_lt hfuel)
    rw [readItems, nextItem_end (spellsFrom_nil h)]
    simp
  | cons item items ih =>
    obtain ⟨f, fuel, rfl⟩ := List.exists_cons_of_length_pos (Nat.zero_lt_of_lt hfuel)
    obtain ⟨v, more, hvalue, hmore, hnext, -, hshorter⟩ := spellsFrom_cons h
    have hitem := hmakes item [] v (more ++ ']' :: rest) isBlank_nil hvalue
      (endsNumber_moreItems hmore)
    have hshort : more.length < fuel.length := by
      rw [List.length_cons] at hfuel
      omega
    rw [List.nil_append] at hitem
    rw [readItems, hnext, List.mapM_cons]
    rcases refused_or_made hitem with ⟨hnone, fault, hfault⟩ | ⟨thing, hmade, hok⟩
    · simp only [hnone, hfault, Option.bind_eq_bind, Option.bind_none, Option.map_none,
        toOption_error]
    · simp only [hmade, hok, ih hmore hshort, List.reverse_cons, List.append_assoc,
        Option.bind_eq_bind, Option.bind_some, Option.pure_def, List.cons_append, List.nil_append]
      cases items.mapM made <;> rfl

theorem list_refuses {c : Char} {blank : List Char} (hblank : IsBlank blank)
    (hspace : isSpace c = false) (hbracket : c ≠ '[') (depth : Nat) (cs : List Char) :
    ∃ fault, read.list depth (blank ++ c :: cs) = .error fault := by
  simp [Reader.list, skipSpace_blank hblank, skipSpace_cons hspace, hbracket]

/-- The things that the items of a list make one level down. -/
def madeItems (made : Nat → Json → Option α) : Nat → Json → Option (List α)
  | depth + 1, .arr items => items.mapM (made depth)
  | _, _ => none

def Meaning.list (m : Meaning read) : Meaning read.list where
  made := madeItems m.made
  makes := by
    intro depth j
    cases j with
    | arr items =>
      intro blank cs rest hblank hspelled _
      cases hspelled with
      | @arr _ cs hitems =>
        have hbracket : isSpace '[' = false := by decide
        rw [List.cons_append, List.append_assoc, List.cons_append, List.nil_append]
        cases depth with
        | zero =>
          simp only [Reader.list, skipSpace_blank hblank, skipSpace_cons hbracket]
          rfl
        | succ depth =>
          have hread := readItems_makes (m.makes depth)
            (show SpellsFrom Literal.Denotes true items cs from hitems)
            (show cs.length < (cs ++ ']' :: rest).length by simp) [] rest
          simp only [Reader.list, skipSpace_blank hblank, skipSpace_cons hbracket, toOption_bind,
            hread, madeItems, Option.bind_map]
          cases items.mapM (m.made depth) <;> rfl
    | _ =>
      cases depth <;> exact makes_none fun c blank cs hblank hc =>
        list_refuses hblank (Kind.no_space_of_opens hc) (Kind.ne_of_opens hc rfl) _ cs

/-! ## Objects -/

/-- What the reading of a member makes of its value, from behind each text of its name. -/
def MakesMember {ε σ : Type} (step : σ → String → List Char → Except ε (σ × List Char)) (s : σ)
    (member : String × Json) (made : Option σ) : Prop :=
  ∀ before after v rest, IsBlank before → IsBlank after → Spells Literal.Denotes member.2 v →
    EndsNumber rest →
    (step s member.1 (before ++ ':' :: (after ++ (v ++ rest)))).toOption = made.map (·, rest)

/-- The members of an object make something one after the other, or the object is refused. -/
theorem readMembers_makes {ε σ : Type}
    {step : σ → String → List Char → Except ε (σ × List Char)} {made : σ → String × Json → Option σ}
    (hmakes : ∀ s member, MakesMember step s member (made s member)) (fault : Fault → ε)
    {members : List (String × Json)} {first : Bool} {cs : List Char}
    (h : SpellsNamesFrom Literal.Denotes first members cs) {fuel : List Char}
    (hfuel : cs.length < fuel.length) (s : σ) (rest : List Char) :
    (readMembers fault step fuel first s (cs ++ '\x7d' :: rest)).toOption =
      (members.foldlM made s).map (·, '\x7d' :: rest) := by
  induction members generalizing first cs fuel s with
  | nil =>
    obtain ⟨f, fuel, rfl⟩ := List.exists_cons_of_length_pos (Nat.zero_lt_of_lt hfuel)
    rw [readMembers, nextName_end (spellsNamesFrom_nil h)]
    rfl
  | cons member members ih =>
    obtain ⟨f, fuel, rfl⟩ := List.exists_cons_of_length_pos (Nat.zero_lt_of_lt hfuel)
    obtain ⟨n, before, after, v, more, hname, hbefore, hafter, hvalue, hmore, hnext, -, hshorter⟩ :=
      spellsNamesFrom_cons h
    have hmember := hmakes s member before after v (more ++ '\x7d' :: rest) hbefore hafter hvalue
      (endsNumber_moreMembers hmore)
    rw [readMembers, hnext, List.foldlM_cons]
    simp only [text_append hname]
    rcases refused_or_made hmember with ⟨hnone, e, he⟩ | ⟨t, hmade, hok⟩
    · simp only [hnone, he, Option.bind_eq_bind, Option.bind_none, Option.map_none, toOption_error]
    · simp only [hmade, hok]
      exact ih hmore (by rw [List.length_cons] at hfuel; omega) t

/-! ## Values -/

/-- The sorted members with the value that one more of them makes. -/
def madeMember (made : Json → Option Json) (members : List (String × Json))
    (member : String × Json) : Option (List (String × Json)) :=
  (made member.2).map fun value => insertMember member.1 value members

/-- What a value is read as where lists and objects may nest so deep. -/
def madeValue : Nat → Json → Option Json
  | _, .null => some .null
  | _, .bool b => some (.bool b)
  | _, .num n => n.given?.map .num
  | _, .str s => some (.str s)
  | 0, .arr _ => none
  | 0, .obj _ => none
  | depth + 1, .arr items => (items.mapM (madeValue depth)).map .arr
  | depth + 1, .obj members => (members.foldlM (madeMember (madeValue depth)) []).map .obj

theorem makesMember_readMember {step : Step Json} {made : Json → Option Json}
    (hmakes : ∀ j, Makes step j (made j)) (members : List (String × Json))
    (member : String × Json) :
    MakesMember (readMember step) members member (madeMember made members member) := by
  intro before after v rest hbefore hafter hvalue hends
  have hread := hmakes member.2 after v rest hafter hvalue hends
  unfold readMember madeMember
  simp only [colon_append hbefore, toOption_bind, toOption_ok, Option.bind_some, hread,
    Option.bind_map]
  cases made member.2 <;> rfl

/-- A value whose numbers are in range is made into itself, with sorted members, where it nests no
deeper than said. -/
theorem readValue_makes_sorted {depth : Nat} {j : Json} (h : Within (· ≠ .outOfRange) depth j) :
    Makes (readValue depth) j (some j.sorted) :=
  (readsBack_readValue (fun _ _ hn hdenotes => gives_of_denotes hdenotes hn) h).makes

theorem readValue_makes_number (n : Number) (depth : Nat) :
    Makes (readValue depth) (.num n) (n.given?.map .num) := by
  intro blank cs rest hblank hspelled hends
  cases hspelled with
  | @num l _ _ htext hdenotes =>
    have hread := toOption_number_append htext hends
    obtain ⟨c, cs, rfl, hc⟩ := htext.head
    have hspace := isSpace_of_startsNumber hc
    rw [← given?_number, show l.number = n from hdenotes, List.cons_append] at hread
    rw [List.cons_append, readValue_scalar hblank hspace (ne_of_startsNumber hc (by decide))
      (ne_of_startsNumber hc (by decide)), scalar_of_number hc, toOption_map, hread,
      Option.map_map, Option.map_map]
    rfl

theorem readValue_list_makes {depth : Nat} {made : Json → Option Json}
    (hmakes : ∀ j, Makes (readValue depth) j (made j)) (items : List Json) :
    Makes (readValue (depth + 1)) (.arr items) ((items.mapM made).map .arr) := by
  intro blank cs rest hblank hspelled _
  cases hspelled with
  | @arr _ cs hitems =>
    have hbracket : isSpace '[' = false := by decide
    have hread := readItems_makes hmakes (show SpellsFrom Literal.Denotes true items cs from hitems)
      (show cs.length < (cs ++ ']' :: rest).length by simp) [] rest
    rw [List.cons_append, List.append_assoc, List.cons_append, List.nil_append]
    simp only [readValue, skipSpace_blank hblank, skipSpace_cons hbracket]
    rcases refused_or_made hread with ⟨hnone, fault, hfault⟩ | ⟨things, hmade, hok⟩
    · rw [hnone, hfault]
      rfl
    · rw [hmade, hok]
      rfl

theorem readValue_object_makes {depth : Nat} {made : Json → Option Json}
    (hmakes : ∀ j, Makes (readValue depth) j (made j)) (members : List (String × Json)) :
    Makes (readValue (depth + 1)) (.obj members)
      ((members.foldlM (madeMember made) []).map .obj) := by
  intro blank cs rest hblank hspelled _
  cases hspelled with
  | @obj _ cs hmembers =>
    have hbrace : isSpace '\x7b' = false := by decide
    have hread := readMembers_makes (makesMember_readMember hmakes) id
      (show SpellsNamesFrom Literal.Denotes true members cs from hmembers)
      (show cs.length < (cs ++ '\x7d' :: rest).length by simp) [] rest
    rw [List.cons_append, List.append_assoc, List.cons_append, List.nil_append]
    simp only [readValue, skipSpace_blank hblank, skipSpace_cons hbrace]
    rcases refused_or_made hread with ⟨hnone, fault, hfault⟩ | ⟨found, hmade, hok⟩
    · rw [hnone, hfault]
      rfl
    · rw [hmade, hok]
      rfl

theorem readValue_refuses_zero {c : Char} (hc : c = '[' ∨ c = '\x7b') {blank : List Char}
    (hblank : IsBlank blank) (cs : List Char) :
    ∃ fault, readValue 0 (blank ++ c :: cs) = .error fault := by
  have hspace : isSpace c = false := by rcases hc with rfl | rfl <;> decide
  rcases hc with rfl | rfl <;> simp [readValue, skipSpace_blank hblank, skipSpace_cons hspace]

theorem makes_value (depth : Nat) (j : Json) : Makes (readValue depth) j (madeValue depth j) := by
  induction depth generalizing j with
  | zero =>
    cases j with
    | null => exact readValue_makes_sorted .null
    | bool b => exact readValue_makes_sorted (.bool b)
    | num n => exact readValue_makes_number n 0
    | str s => exact readValue_makes_sorted (.str s)
    | arr items =>
      exact makes_none fun c blank cs hblank hc =>
        readValue_refuses_zero (.inl (by simpa [kind, Kind.opens] using hc)) hblank cs
    | obj members =>
      exact makes_none fun c blank cs hblank hc =>
        readValue_refuses_zero (.inr (by simpa [kind, Kind.opens] using hc)) hblank cs
  | succ depth ih =>
    cases j with
    | null => exact readValue_makes_sorted .null
    | bool b => exact readValue_makes_sorted (.bool b)
    | num n => exact readValue_makes_number n (depth + 1)
    | str s => exact readValue_makes_sorted (.str s)
    | arr items => exact readValue_list_makes ih items
    | obj members => exact readValue_object_makes ih members

def Meaning.value : Meaning Reader.value where
  made := madeValue
  makes := makes_value

end

end ResultGateway.Json
