-- Texts in which all numbers are integers, of any size. Such a text is read
-- as a value that is alike. An integer that fits is kept, and a larger one
-- becomes a real, as a zero with a minus sign does. So the value is read as
-- it is written if and only if all integers fit and no zero has a sign.
import Mathlib
import ResultGateway.Proofs.Json.Documents
import ResultGateway.Proofs.Json.ShapeMeanings
import ResultGateway.Proofs.Text.Pieces

namespace ResultGateway.Json

/-! ## Literals of integers -/

/-- A literal of an integer, of any size. -/
def Literal.IsInteger (l : Literal) (n : Number) : Prop :=
  ∃ i, l.integer? = some i ∧ n = .integer i

/-- A literal of an integer that fits; a zero must not have a sign. -/
def Literal.IsKept (l : Literal) (n : Number) : Prop :=
  ∃ i, l.integer? = some i ∧ n = .integer i ∧ Number.Fits i ∧ (i = 0 → l.negative = false)

/-- What an integer of a text is read as. -/
inductive Number.IsReadAs : Number → Number → Prop where
  | kept {i : Int} (fits : Fits i) : IsReadAs (.integer i) (.integer i)
  /-- A zero may have a minus sign. -/
  | minusZero : IsReadAs (.integer 0) (.real (.zero true))
  | rounded {i : Int} {x : Binary64} (beyond : ¬ Fits i) : IsReadAs (.integer i) (.real x)

theorem gather_eq {limit n m : Nat} {ds : List Nat} (h : gather limit n ds = (m, [])) :
    m = ds.foldl (fun n d => 10 * n + d) n := by
  induction ds generalizing n with
  | nil =>
    cases h
    rfl
  | cons d ds ih =>
    rw [gather] at h
    split at h
    · cases h
    · exact ih h

/-- Only a literal that shows an integer gives one. -/
theorem Literal.integer?_of_gives {l : Literal} {i : Int} (h : l.Gives (.integer i)) :
    l.integer? = some i ∧ (i = 0 → l.negative = false) := by
  obtain ⟨negative, whole, fraction, exponent⟩ := l
  unfold Literal.Gives Literal.value at h
  cases exponent with
  | some exponent =>
    dsimp only at h
    split at h
    · exact absurd h realOrFault_ne
    · split at h <;> cases h
  | none =>
    dsimp only at h
    split at h
    · rename_i hplain
      simp only [Bool.and_eq_true, List.isEmpty_iff, beq_iff_eq] at hplain
      obtain ⟨rfl, hplaces⟩ := hplain
      simp only [Literal.significand, gather, List.length_nil] at hplaces h
      have hgather : gather greatestWord 0 whole = ((gather greatestWord 0 whole).1, []) := by
        refine Prod.ext rfl (List.eq_nil_of_length_eq_zero ?_)
        omega
      have hn := gather_eq hgather
      generalize (gather greatestWord 0 whole).1 = n at h hn
      unfold integerValue at h
      unfold Literal.integer?
      simp only [and_self, if_true, ← hn]
      cases negative with
      | false =>
        cases h
        exact ⟨rfl, fun _ => rfl⟩
      | true =>
        simp only [Bool.not_true, Bool.false_eq_true, if_false] at h
        split at h
        · exact absurd h realOrFault_ne
        · rename_i hsmall
          cases h
          refine ⟨rfl, ?_⟩
          intro hzero
          simp at hsmall
          omega
    · exact absurd h realOrFault_ne

theorem Literal.isKept_iff {l : Literal} {n : Number} :
    l.IsKept n ↔ l.Denotes n ∧ n ≠ .outOfRange ∧ ∃ i, n = .integer i := by
  constructor
  · rintro ⟨i, hi, rfl, hfits, hzero⟩
    have hgives := Literal.gives_integer hi hfits hzero
    refine ⟨?_, ?_, i, rfl⟩
    · rw [Literal.Denotes, Literal.number, hgives]
    · rintro ⟨⟩
      exact absurd hfits.1 (by decide)
  · rintro ⟨hdenotes, hrange, i, rfl⟩
    have hgives := gives_of_denotes hdenotes hrange
    obtain ⟨hi, hzero⟩ := Literal.integer?_of_gives hgives
    exact ⟨i, hi, rfl, fits_of_gives hgives, hzero⟩

/-- A zero with a minus sign is a real. -/
theorem Literal.gives_minusZero {l : Literal} (h : l.integer? = some 0)
    (hnegative : l.negative = true) : l.Gives (.real (.zero true)) := by
  obtain ⟨negative, whole, fraction, exponent⟩ := l
  unfold Literal.integer? at h
  split at h
  · rename_i hplain
    obtain ⟨rfl, rfl⟩ := hplain
    subst hnegative
    have hzero : whole.foldl (fun n d => 10 * n + d) 0 = 0 := by
      simpa using h
    have hgather : gather greatestWord 0 whole = (0, []) := by
      rw [gather_all (by rw [hzero]; exact Nat.zero_le _), hzero]
    unfold Literal.Gives Literal.value Literal.significand
    rw [hgather]
    rfl
  · cases h

/-- What a literal of an integer denotes, if it denotes a number at all. -/
theorem isReadAs_of_denoted {n m : Number} (h : Denoted Literal.IsInteger n m)
    (hm : m ≠ .outOfRange) : n.IsReadAs m := by
  obtain ⟨l, ⟨i, hi, rfl⟩, hdenotes⟩ := h
  have hgives := gives_of_denotes hdenotes hm
  cases m with
  | integer j =>
    obtain ⟨hj, -⟩ := Literal.integer?_of_gives hgives
    rw [hi] at hj
    cases hj
    exact .kept (fits_of_gives hgives)
  | real x =>
    by_cases hfits : Number.Fits i
    · by_cases hsign : i = 0 ∧ l.negative = true
      · obtain ⟨rfl, hnegative⟩ := hsign
        have hzero := Literal.gives_minusZero hi hnegative
        rw [Literal.Gives, hgives] at hzero
        cases hzero
        exact .minusZero
      · have hkept := Literal.gives_integer hi hfits (by simpa using hsign)
        rw [Literal.Gives, hgives] at hkept
        cases hkept
    · exact .rounded hfits

/-- A literal of an integer that fits denotes a number. -/
theorem ne_outOfRange_of_denoted {n m : Number} (h : Denoted Literal.IsInteger n m)
    (hn : n.IsExact) : m ≠ .outOfRange := by
  obtain ⟨l, ⟨i, hi, rfl⟩, rfl⟩ := h
  obtain ⟨_, ⟨⟩, hfits⟩ := hn
  have hgiven : l.number.given? ≠ none := by
    rw [given?_number]
    by_cases hsign : i = 0 ∧ l.negative = true
    · obtain ⟨rfl, hnegative⟩ := hsign
      rw [Literal.gives_minusZero hi hnegative]
      exact nofun
    · rw [Literal.gives_integer hi hfits (by simpa using hsign)]
      exact nofun
  intro heq
  rw [heq] at hgiven
  exact hgiven rfl

/-! ## Values that are alike -/

section

variable {differ differ' : Number → Number → Prop} {P Q : Number → Prop} {depth : Nat} {a b : Json}

theorem exists_zip_left {α β : Type} {as : List α} {bs : List β} (h : as.length = bs.length)
    {x : α} (hx : x ∈ as) : ∃ y, (x, y) ∈ as.zip bs := by
  rw [← List.map_fst_zip (Nat.le_of_eq h)] at hx
  obtain ⟨⟨_, y⟩, hpair, rfl⟩ := List.mem_map.mp hx
  exact ⟨y, hpair⟩

theorem exists_zip_right {α β : Type} {as : List α} {bs : List β} (h : as.length = bs.length)
    {y : β} (hy : y ∈ bs) : ∃ x, (x, y) ∈ as.zip bs := by
  rw [← List.map_snd_zip (Nat.le_of_eq h.symm)] at hy
  obtain ⟨⟨x, _⟩, hpair, rfl⟩ := List.mem_map.mp hy
  exact ⟨x, hpair⟩

theorem length_of_names {members others : List (String × Json)}
    (h : members.map Prod.fst = others.map Prod.fst) : members.length = others.length := by
  simpa using congrArg List.length h

/-- Values that are alike nest as deep, and their numbers are as they differ. -/
theorem Alike.within (h : Alike differ a b) {R : Number → Prop}
    (hdiffer : ∀ n m, differ n m → P n → R n ∧ Q m) (ha : Within P depth a) :
    Within R depth a ∧ Within Q depth b := by
  induction h generalizing depth with
  | null => exact ⟨.null, .null⟩
  | bool b => exact ⟨.bool b, .bool b⟩
  | num hnumbers =>
    cases ha with
    | num hn =>
      obtain ⟨hleft, hright⟩ := hdiffer _ _ hnumbers hn
      exact ⟨.num hleft, .num hright⟩
  | str s => exact ⟨.str s, .str s⟩
  | arr hlength _ ih =>
    cases ha with
    | arr hitems =>
      refine ⟨.arr ?_, .arr ?_⟩
      · intro item hitem
        obtain ⟨other, hpair⟩ := exists_zip_left hlength hitem
        exact (ih _ hpair (hitems item hitem)).1
      · intro other hother
        obtain ⟨item, hpair⟩ := exists_zip_right hlength hother
        exact (ih _ hpair (hitems item (List.of_mem_zip hpair).1)).2
  | obj hnames _ ih =>
    cases ha with
    | obj hmembers =>
      have hlength := length_of_names hnames
      refine ⟨.obj ?_, .obj ?_⟩
      · intro member hmember
        obtain ⟨other, hpair⟩ := exists_zip_left hlength hmember
        exact (ih _ hpair (hmembers member hmember)).1
      · intro other hother
        obtain ⟨member, hpair⟩ := exists_zip_right hlength hother
        exact (ih _ hpair (hmembers member (List.of_mem_zip hpair).1)).2

theorem Alike.imp (h : Alike differ a b) (hdiffer : ∀ n m, differ n m → Q m → differ' n m)
    (hb : Within Q depth b) : Alike differ' a b := by
  induction h generalizing depth with
  | null => exact .null
  | bool b => exact .bool b
  | num hnumbers =>
    cases hb with
    | num hm => exact .num (hdiffer _ _ hnumbers hm)
  | str s => exact .str s
  | arr hlength _ ih =>
    cases hb with
    | arr hitems =>
      exact .arr hlength fun pair hpair => ih pair hpair (hitems _ (List.of_mem_zip hpair).2)
  | obj hnames _ ih =>
    cases hb with
    | obj hmembers =>
      exact .obj hnames fun pair hpair => ih pair hpair (hmembers _ (List.of_mem_zip hpair).2)

end

/-! ## Names that stand once -/

/-- Values in which no object names a member twice. -/
inductive NamesOnce : Json → Prop where
  | null : NamesOnce .null
  | bool (b : Bool) : NamesOnce (.bool b)
  | num (n : Number) : NamesOnce (.num n)
  | str (s : String) : NamesOnce (.str s)
  | arr {items : List Json} (h : ∀ item ∈ items, NamesOnce item) : NamesOnce (.arr items)
  | obj {members : List (String × Json)} (names : (members.map Prod.fst).Nodup)
      (h : ∀ member ∈ members, NamesOnce member.2) : NamesOnce (.obj members)

theorem lookup_of_nodup {members : List (String × Json)} (h : (members.map Prod.fst).Nodup)
    {name : String} {value : Json} (hmem : (name, value) ∈ members) :
    lookup name members = some value := by
  induction members with
  | nil => cases hmem
  | cons member rest ih =>
    obtain ⟨other, found⟩ := member
    rw [List.map_cons, List.nodup_cons] at h
    rw [lookup]
    rcases List.mem_cons.mp hmem with heq | hrest
    · cases heq
      exact if_pos rfl
    · have hne : name ≠ other := by
        rintro rfl
        exact h.1 (List.mem_map.mpr ⟨(name, value), hrest, rfl⟩)
      rw [if_neg hne]
      exact ih h.2 hrest

/-- Sorting keeps each member whose name stands once. -/
theorem lookup_sorted_of_nodup {members : List (String × Json)}
    (h : (members.map Prod.fst).Nodup) {name : String} {value : Json}
    (hmem : (name, value) ∈ members) :
    lookup name (sortMembers (sortedValues members)) = some value.sorted := by
  rw [lookup_sortMembers, sortedValues_eq, ← List.map_reverse]
  apply lookup_of_nodup
  · rw [List.map_map, List.map_reverse, List.nodup_reverse]
    exact h
  · exact List.mem_map.mpr ⟨(name, value), List.mem_reverse.mpr hmem, rfl⟩

theorem eq_of_mem_zip {α β γ : Type} {f : α → γ} {g : β → γ} {as : List α} {bs : List β}
    (h : as.map f = bs.map g) {pair : α × β} (hpair : pair ∈ as.zip bs) :
    f pair.1 = g pair.2 := by
  induction as generalizing bs with
  | nil => cases hpair
  | cons a as ih =>
    cases bs with
    | nil => cases hpair
    | cons b bs =>
      rw [List.map_cons, List.map_cons, List.cons.injEq] at h
      rcases List.mem_cons.mp hpair with rfl | hpair
      · exact h.1
      · exact ih h.2 hpair

theorem eq_of_zip {α : Type} {as bs : List α} (hlength : as.length = bs.length)
    (h : ∀ pair ∈ as.zip bs, pair.1 = pair.2) : as = bs := by
  rw [← List.forall₂_eq_eq_eq, List.forall₂_iff_zip]
  exact ⟨hlength, fun hpair => h _ hpair⟩

/-- Values that are alike are equal if they are equal when sorted, as nothing of them is lost. -/
theorem Alike.eq_of_sorted {differ : Number → Number → Prop} {a b : Json} (h : Alike differ a b)
    (hnames : NamesOnce a) (heq : a.sorted = b.sorted) : a = b := by
  induction h with
  | null => rfl
  | bool b => rfl
  | num _ => exact heq
  | str s => rfl
  | @arr items others hlength _ ih =>
    cases hnames with
    | arr hitems =>
      simp only [sorted, arr.injEq, sortedItems_eq] at heq
      refine congrArg Json.arr (eq_of_zip hlength ?_)
      intro pair hpair
      exact ih pair hpair (hitems _ (List.of_mem_zip hpair).1) (eq_of_mem_zip heq hpair)
  | @obj members others hsame _ ih =>
    cases hnames with
    | obj hnodup hmembers =>
      simp only [sorted, ofMembers, obj.injEq] at heq
      refine congrArg Json.obj (eq_of_zip (length_of_names hsame) ?_)
      intro pair hpair
      obtain ⟨⟨name, value⟩, ⟨other, found⟩⟩ := pair
      obtain ⟨hleft, hright⟩ := List.of_mem_zip hpair
      obtain rfl : name = other := eq_of_mem_zip hsame hpair
      have hfound := lookup_sorted_of_nodup hnodup hleft
      rw [heq, lookup_sorted_of_nodup (hsame ▸ hnodup) hright] at hfound
      have hvalue := ih _ hpair (hmembers _ hleft) (Option.some.inj hfound).symm
      dsimp only at hvalue
      rw [hvalue]

/-! ## Numbers of a text -/

section

variable {stands : Literal → Number → Prop} {P : Number → Prop}

mutual

/-- The numbers that the literals of a text stand for are those of the value. -/
theorem Spells.within {j : Json} {cs : List Char} {depth : Nat} :
    Spells stands j cs → Within P depth j → Spells (fun l n => stands l n ∧ P n) j cs
  | .null, _ => .null
  | .true, _ => .true
  | .false, _ => .false
  | .num text number, .num h => .num text ⟨number, h⟩
  | .str h, _ => .str h
  | .arr h, .arr hitems => .arr (SpellsItems.within h hitems)
  | .obj h, .obj hmembers => .obj (SpellsMembers.within h hmembers)

theorem SpellsItems.within {items : List Json} {cs : List Char} {depth : Nat} :
    SpellsItems stands items cs → (∀ item ∈ items, Within P depth item) →
      SpellsItems (fun l n => stands l n ∧ P n) items cs
  | .nil h, _ => .nil h
  | .cons h value more, hitems =>
    have ⟨hitem, hrest⟩ := List.forall_mem_cons.mp hitems
    .cons h (Spells.within value hitem) (SpellsMoreItems.within more hrest)

theorem SpellsMoreItems.within {items : List Json} {cs : List Char} {depth : Nat} :
    SpellsMoreItems stands items cs → (∀ item ∈ items, Within P depth item) →
      SpellsMoreItems (fun l n => stands l n ∧ P n) items cs
  | .nil h, _ => .nil h
  | .cons h items, hitems => .cons h (SpellsItems.within items hitems)

theorem SpellsMembers.within {members : List (String × Json)} {cs : List Char} {depth : Nat} :
    SpellsMembers stands members cs → (∀ member ∈ members, Within P depth member.2) →
      SpellsMembers (fun l n => stands l n ∧ P n) members cs
  | .nil h, _ => .nil h
  | .cons h named hbefore hafter value more, hmembers =>
    have ⟨hmember, hrest⟩ := List.forall_mem_cons.mp hmembers
    .cons h named hbefore hafter (Spells.within value hmember)
      (SpellsMoreMembers.within more hrest)

theorem SpellsMoreMembers.within {members : List (String × Json)} {cs : List Char} {depth : Nat} :
    SpellsMoreMembers stands members cs → (∀ member ∈ members, Within P depth member.2) →
      SpellsMoreMembers (fun l n => stands l n ∧ P n) members cs
  | .nil h, _ => .nil h
  | .cons h members, hmembers => .cons h (SpellsMembers.within members hmembers)

end

end

/-! ## What is read -/

theorem madeMember_within {depth : Nat} {members : List (String × Json)}
    {found all : List (String × Json)}
    (h : members.foldlM (madeMember (madeValue depth)) found = some all) :
    ∀ member ∈ members, ∃ value, madeValue depth member.2 = some value := by
  induction members generalizing found with
  | nil => exact List.forall_mem_nil _
  | cons member rest ih =>
    rw [List.foldlM_cons, Option.bind_eq_bind, Option.bind_eq_some_iff] at h
    obtain ⟨next, hnext, hrest⟩ := h
    obtain ⟨value, hvalue, -⟩ := Option.map_eq_some_iff.mp hnext
    exact List.forall_mem_cons.mpr ⟨⟨value, hvalue⟩, ih hrest⟩

theorem ne_outOfRange_of_given? {n m : Number} (h : n.given? = some m) : n ≠ .outOfRange := by
  rintro rfl
  cases h

/-- What is read has no number out of range. -/
theorem within_of_madeValue {depth : Nat} {j value : Json} (h : madeValue depth j = some value) :
    Within (· ≠ .outOfRange) depth j := by
  induction depth generalizing j value with
  | zero =>
    cases j with
    | null => exact .null
    | bool b => exact .bool b
    | num n =>
      obtain ⟨m, hm, -⟩ := Option.map_eq_some_iff.mp h
      exact .num (ne_outOfRange_of_given? hm)
    | str s => exact .str s
    | arr items => cases h
    | obj members => cases h
  | succ depth ih =>
    cases j with
    | null => exact .null
    | bool b => exact .bool b
    | num n =>
      obtain ⟨m, hm, -⟩ := Option.map_eq_some_iff.mp h
      exact .num (ne_outOfRange_of_given? hm)
    | str s => exact .str s
    | arr items =>
      obtain ⟨found, hfound, -⟩ := Option.map_eq_some_iff.mp h
      refine .arr ?_
      intro item hitem
      obtain ⟨_, -, hmade⟩ := Text.exists_of_mapM hfound hitem
      exact ih hmade
    | obj members =>
      obtain ⟨found, hfound, -⟩ := Option.map_eq_some_iff.mp h
      refine .obj ?_
      intro member hmember
      obtain ⟨_, hmade⟩ := madeMember_within hfound member hmember
      exact ih hmade

/-! ## Texts of integers -/

/-- A text in which all numbers are integers: it spells a value, with blanks around it. The value
nests no deeper than the reader goes, and its objects name no member twice. -/
structure IsIntegral (text : String) (written : Json) (inside : List Char) : Prop where
  within : Within (fun _ => True) greatestDepth written
  names : NamesOnce written
  around : ∃ lead trail, text.toList = lead ++ (inside ++ trail) ∧ IsBlank lead ∧ IsBlank trail
  spelled : Spells Literal.IsInteger written inside

/-- A text is read as the value that it denotes, or refused where a number has no value. -/
theorem parse_of_denotes {text : String} {read : Json} (h : Denotes text read) :
    (Within (· ≠ .outOfRange) greatestDepth read ∧ parse text = .ok read.sorted) ∨
    (¬ Within (· ≠ .outOfRange) greatestDepth read ∧ ∃ e, parse text = .error e) := by
  by_cases hrange : Within (· ≠ .outOfRange) greatestDepth read
  · obtain ⟨lead, inside, trail, htext, hlead, htrail, hspelled⟩ := h
    refine .inl ⟨hrange, ?_⟩
    unfold parse
    rw [htext]
    exact (readsBack_readValue (fun _ _ hn hdenotes => gives_of_denotes hdenotes hn)
      hrange).whole_eq hspelled hlead htrail
  · refine .inr ⟨hrange, ?_⟩
    have hmade : (parse text).toOption = madeValue greatestDepth read :=
      Meaning.value.toOption_decode h
    cases hparse : parse text with
    | error e => exact ⟨e, rfl⟩
    | ok value =>
      rw [hparse] at hmade
      exact absurd (within_of_madeValue hmade.symm) hrange

/-- What becomes of a value of integers: it is shown as it is, if all of them are kept; else it is
shown with other numbers, or fails for an integer that does not fit. -/
structure ShowsIntegers (written : Json) (inside : List Char) (shows : Json → Prop)
    (fails : Prop) : Prop where
  kept : Spells Literal.IsKept written inside → shows written.sorted
  changed : ¬ Spells Literal.IsKept written inside →
    (∃ read, Alike Number.IsReadAs written read ∧ read.sorted ≠ written.sorted ∧
      shows read.sorted) ∨
    (fails ∧ ¬ Within Number.IsExact greatestDepth written)

theorem ShowsIntegers.imp {written : Json} {inside : List Char} {shows shows' : Json → Prop}
    {fails fails' : Prop} (h : ShowsIntegers written inside shows fails)
    (hshows : ∀ value, shows value → shows' value) (hfails : fails → fails') :
    ShowsIntegers written inside shows' fails' := by
  refine ⟨fun hkept => hshows _ (h.kept hkept), fun hchanged => ?_⟩
  rcases h.changed hchanged with ⟨read, halike, hne, hread⟩ | ⟨hfailed, hbeyond⟩
  · exact .inl ⟨read, halike, hne, hshows _ hread⟩
  · exact .inr ⟨hfails hfailed, hbeyond⟩

section

variable {text : String} {written : Json} {inside : List Char} (h : IsIntegral text written inside)

include h

theorem IsIntegral.parse_kept (hkept : Spells Literal.IsKept written inside) :
    parse text = .ok written.sorted := by
  obtain ⟨lead, trail, htext, hlead, htrail⟩ := h.around
  have hgives : ∀ (l : Literal) n, True → l.IsKept n → l.Gives n := by
    rintro l _ - ⟨i, hi, rfl, hfits, hzero⟩
    exact Literal.gives_integer hi hfits hzero
  unfold parse
  rw [htext]
  exact (readsBack_readValue hgives h.within).whole_eq hkept hlead htrail

/-- A text whose value is read as it is written has its integers kept. -/
theorem IsIntegral.kept_of_sorted {read : Json}
    (halike : Alike (Denoted Literal.IsInteger) written read)
    (hspelled : Spells Literal.Denotes read inside)
    (hrange : Within (· ≠ .outOfRange) greatestDepth read)
    (hsorted : read.sorted = written.sorted) : Spells Literal.IsKept written inside := by
  obtain rfl := halike.eq_of_sorted h.names hsorted.symm
  have hintegers : Within (fun n => n ≠ .outOfRange ∧ ∃ i, n = .integer i) greatestDepth written := by
    refine (halike.within (Q := fun _ => True) ?_ hrange).1
    rintro n m ⟨l, ⟨i, -, hi⟩, -⟩ hn
    exact ⟨⟨hn, i, hi⟩, trivial⟩
  have hkept : (fun l n => Literal.Denotes l n ∧ n ≠ .outOfRange ∧ ∃ i, n = .integer i) =
      Literal.IsKept := by
    funext l n
    exact propext Literal.isKept_iff.symm
  rw [← hkept]
  exact hspelled.within hintegers

theorem IsIntegral.showsIntegers :
    ShowsIntegers written inside (fun value => parse text = .ok value)
      (∃ e, parse text = .error e) := by
  refine ⟨h.parse_kept, ?_⟩
  intro hchanged
  obtain ⟨lead, trail, htext, hlead, htrail⟩ := h.around
  obtain ⟨read, halike, hspelled⟩ := exists_denoted h.spelled
  rcases parse_of_denotes ⟨lead, inside, trail, htext, hlead, htrail, hspelled⟩ with
    ⟨hrange, hparse⟩ | ⟨hrange, hparse⟩
  · refine .inl ⟨read, ?_, ?_, hparse⟩
    · exact halike.imp (fun _ _ => isReadAs_of_denoted) hrange
    · exact fun hsorted => hchanged (h.kept_of_sorted halike hspelled hrange hsorted)
  · refine .inr ⟨hparse, ?_⟩
    intro hfits
    refine hrange (halike.within (R := fun _ => True) ?_ hfits).2
    exact fun n m hdenoted hn => ⟨trivial, ne_outOfRange_of_denoted hdenoted hn⟩

end

/-- The compact text of a value of integers that fit is such a text, and keeps them. -/
theorem isIntegral_compact {j : Json} (h : Within Number.IsExact greatestDepth j)
    (hnames : NamesOnce j) :
    IsIntegral j.compact j j.write ∧ Spells Literal.IsKept j j.write := by
  have hkept : ∀ n, Number.IsExact n → ∃ l : Literal, l.IsText n.text ∧ l.IsKept n := by
    rintro _ ⟨i, rfl, hfits⟩
    refine ⟨.ofInt i, Literal.isText_decimalInt i, i, Literal.integer?_ofInt i, rfl, hfits, ?_⟩
    rintro rfl
    rfl
  have hinteger : ∀ n, Number.IsExact n → ∃ l : Literal, l.IsText n.text ∧ l.IsInteger n := by
    intro n hn
    obtain ⟨l, htext, i, hi, hvalue, -⟩ := hkept n hn
    exact ⟨l, htext, i, hi, hvalue⟩
  refine ⟨⟨h.any, hnames, ⟨[], [], ?_, isBlank_nil, isBlank_nil⟩, spells_write hinteger h⟩,
    spells_write hkept h⟩
  rw [compact, String.toList_ofList, List.nil_append, List.append_nil]

end ResultGateway.Json
