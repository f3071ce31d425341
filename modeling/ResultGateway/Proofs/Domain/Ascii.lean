-- What happens to a character of ASCII in a domain. It stands for itself
-- unless it is a capital letter, and it is composed with another character
-- only when it is a letter or a sign of comparison. So the signs that a
-- host may not hold are found wherever they are, and are refused.
import ResultGateway.Domain.Ascii
import ResultGateway.Proofs.Text.Pieces
import ResultGateway.Proofs.Text.Table

namespace ResultGateway.Domain

open Text (Spelled)

/-! ## The tables -/

section

set_option maxRecDepth 100000

theorem ignoredRanges_beyond : ignoredRanges.all (fun range => 0x80 ≤ range.1) = true := by
  unfold ignoredRanges
  rw [Spelled.ranges_eq (by repeat' constructor)]
  decide +kernel

theorem disallowedRanges_beyond : disallowedRanges.all (fun range => 0x80 ≤ range.1) = true := by
  unfold disallowedRanges
  rw [Spelled.ranges_eq (by repeat' constructor)]
  decide +kernel

/-- Only the capital letters are shifted. -/
theorem shiftedRows_beyond :
    shiftedRows.all (fun row => 0x80 ≤ row.1 || row == (0x41, [26, 1, 0x61])) = true := by
  unfold shiftedRows
  rw [Spelled.entries_eq (by repeat' constructor)]
  decide +kernel

theorem replacedRows_beyond : replacedRows.all (fun row => 0x80 ≤ row.1) = true := by
  unfold replacedRows
  rw [Spelled.entries_eq (by repeat' constructor)]
  decide +kernel

/-- Characters of ASCII that a character may be composed of. -/
def isComposed (point : Nat) : Bool :=
  (Char.ofNat point).isAlpha || point == '<'.toNat || point == '='.toNat || point == '>'.toNat

theorem compositeRows_parts :
    compositeRows.all (fun row => row.2.all fun part => 0x80 ≤ part || isComposed part) = true := by
  unfold compositeRows
  rw [Spelled.entries_eq (by repeat' constructor)]
  decide +kernel

end

/-! ## Mapping -/

variable {c : Char}

theorem shiftedTo?_ascii {point : Nat} (hascii : point < 0x80) (hlow : point < 0x41 ∨ 0x5a < point) :
    shiftedTo? point = none := by
  unfold shiftedTo?
  rw [List.findSome?_eq_none_iff]
  intro row hrow
  have hbeyond := List.all_eq_true.mp shiftedRows_beyond row hrow
  simp only [Bool.or_eq_true, decide_eq_true_eq, beq_iff_eq] at hbeyond
  obtain ⟨first, targets⟩ := row
  rcases hbeyond with hbeyond | hbeyond
  · dsimp only at hbeyond ⊢
    split
    · rw [if_neg (by simp; omega)]
    · rfl
  · cases hbeyond
    dsimp only
    rw [if_neg (by simp; omega)]

/-- A character of ASCII that is no capital letter stands for itself. -/
theorem mapChar_ascii (hascii : c.toNat < 0x80) (hlow : c.toNat < 0x41 ∨ 0x5a < c.toNat) :
    mapChar c = some [c] := by
  have hignored : ignoredRanges.contains c = false := by
    apply Text.contains_eq_false
    intro range hrange
    have hbeyond := List.all_eq_true.mp ignoredRanges_beyond range hrange
    simp only [decide_eq_true_eq] at hbeyond
    omega
  have hdisallowed : disallowedRanges.contains c = false := by
    apply Text.contains_eq_false
    intro range hrange
    have hbeyond := List.all_eq_true.mp disallowedRanges_beyond range hrange
    simp only [decide_eq_true_eq] at hbeyond
    omega
  have hreplaced : replacedRows.targets? c.toNat = none := by
    apply Text.targets?_eq_none
    intro row hrow
    have hbeyond := List.all_eq_true.mp replacedRows_beyond row hrow
    simp only [decide_eq_true_eq] at hbeyond
    omega
  unfold mapChar
  rw [hignored, hdisallowed, shiftedTo?_ascii hascii hlow, hreplaced]
  rfl

theorem mem_mapChars {cs mapped : List Char} (hself : mapChar c = some [c]) (h : c ∈ cs)
    (hmapped : mapChars cs = some mapped) : c ∈ mapped := by
  unfold mapChars at hmapped
  rw [Option.bind_eq_bind, Option.bind_eq_some_iff] at hmapped
  obtain ⟨parts, hparts, hflat⟩ := hmapped
  cases hflat
  obtain ⟨part, hpart, heq⟩ := Text.exists_of_mapM hparts h
  rw [hself] at heq
  cases heq
  exact List.mem_flatten.mpr ⟨_, hpart, List.mem_cons_self⟩

/-! ## Composing -/

theorem partsOf_ascii : ∀ point < 0x80, Normal.partsOf 8 point = [point] := by
  decide +kernel

/-- A character of ASCII that no other is composed of. -/
def IsSingle (point : Nat) : Prop := point < 0x80 ∧ isComposed point = false

namespace IsSingle

open ResultGateway.Domain.Normal

variable {point : Nat} (hsingle : IsSingle point)

include hsingle

theorem not_mem_row {row : Nat × List Nat} (hrow : row ∈ compositeRows) : point ∉ row.2 := by
  intro hmem
  have hparts := List.all_eq_true.mp (List.all_eq_true.mp compositeRows_parts row hrow) point hmem
  rw [hsingle.2] at hparts
  simp only [Bool.or_false, decide_eq_true_eq] at hparts
  exact absurd hsingle.1 (Nat.not_lt.mpr hparts)

theorem compose?_left (other : Nat) : compose? point other = none := by
  have hascii := hsingle.1
  have hjoin : joinSyllable? point other = none := by
    unfold joinSyllable? isSyllable leadBase syllableBase
    rw [if_neg (by simp; omega), if_neg (by simp; omega)]
  unfold compose?
  rw [hjoin]
  dsimp only
  rw [Option.map_eq_none_iff, List.find?_eq_none]
  intro row hrow heq
  apply hsingle.not_mem_row hrow
  rw [eq_of_beq heq]
  exact List.mem_cons_self

theorem compose?_right (other : Nat) : compose? other point = none := by
  have hascii := hsingle.1
  have hjoin : joinSyllable? other point = none := by
    unfold joinSyllable? vowelBase tailBase
    rw [if_neg (by simp; omega), if_neg (by simp; omega)]
  unfold compose?
  rw [hjoin]
  dsimp only
  rw [Option.map_eq_none_iff, List.find?_eq_none]
  intro row hrow heq
  apply hsingle.not_mem_row hrow
  rw [eq_of_beq heq]
  exact List.mem_cons_of_mem _ List.mem_cons_self

theorem combiningClass_eq : combiningClass point = 0 := by
  have hascii := hsingle.1
  unfold combiningClass
  rw [if_pos (by omega)]

omit hsingle in
theorem mem_insertMark {mark other : Nat × Nat} {rest : List (Nat × Nat)} :
    other ∈ insertMark mark rest ↔ other = mark ∨ other ∈ rest := by
  induction rest with
  | nil => simp [insertMark]
  | cons first rest ih =>
    unfold insertMark
    split
    · rw [List.mem_cons, ih, List.mem_cons, or_left_comm]
    · rw [List.mem_cons]

theorem mem_orderMarks {points : List Nat} (h : point ∈ points) :
    (point, 0) ∈ orderMarks points := by
  induction points with
  | nil => cases h
  | cons first points ih =>
    have hstep : orderMarks (first :: points) =
        if combiningClass first = 0 then (first, 0) :: orderMarks points
        else insertMark (first, combiningClass first) (orderMarks points) := rfl
    rw [hstep]
    rcases List.mem_cons.mp h with rfl | h
    · rw [if_pos hsingle.combiningClass_eq]
      exact List.mem_cons_self
    · split
      · exact List.mem_cons_of_mem _ (ih h)
      · exact mem_insertMark.mpr (.inr (ih h))

/-- It stays where it is, whether it is still to come or is the letter that marks may join. -/
theorem mem_joinMarks (pending : Option Pending) (marks : List (Nat × Nat))
    (h : (point, 0) ∈ marks ∨ ∃ p, pending = some p ∧ p.starter = point) :
    point ∈ joinMarks pending marks := by
  fun_induction joinMarks pending marks with
  | case1 => simp at h
  | case2 p =>
    obtain h | ⟨_, ⟨⟩, rfl⟩ := h
    · cases h
    · exact List.mem_cons_self
  | case3 first rest ih =>
    apply ih
    obtain h | ⟨_, ⟨⟩, _⟩ := h
    rcases List.mem_cons.mp h with heq | h
    · exact .inr ⟨_, rfl, (Prod.mk.inj heq).1.symm⟩
    · exact .inl h
  | case4 first k rest hk ih =>
    obtain h | ⟨_, ⟨⟩, _⟩ := h
    rcases List.mem_cons.mp h with heq | h
    · exact absurd (Prod.mk.inj heq).2.symm hk
    · exact List.mem_cons_of_mem _ (ih (.inl h))
  | case5 p first k rest blocked joined hjoined ih =>
    have hcompose : compose? p.starter first = some joined := by
      split at hjoined
      · cases hjoined
      · exact hjoined
    apply ih
    rcases h with h | ⟨_, ⟨⟩, hstarter⟩
    · rcases List.mem_cons.mp h with heq | h
      · rw [← (Prod.mk.inj heq).1, hsingle.compose?_right] at hcompose
        cases hcompose
      · exact .inl h
    · rw [hstarter, hsingle.compose?_left] at hcompose
      cases hcompose
  | case6 p first rest blocked hjoined ih =>
    rw [List.mem_append]
    rcases h with h | ⟨_, ⟨⟩, hstarter⟩
    · right
      apply ih
      rcases List.mem_cons.mp h with heq | h
      · exact .inr ⟨_, rfl, (Prod.mk.inj heq).1.symm⟩
      · exact .inl h
    · left
      rw [← hstarter]
      exact List.mem_cons_self
  | case7 p first k rest blocked hjoined hk ih =>
    apply ih
    rcases h with h | ⟨_, ⟨⟩, hstarter⟩
    · rcases List.mem_cons.mp h with heq | h
      · exact absurd (Prod.mk.inj heq).2.symm hk
      · exact .inl h
    · exact .inr ⟨_, rfl, hstarter⟩

end IsSingle

theorem mem_compose {cs : List Char} (hsingle : IsSingle c.toNat) (h : c ∈ cs) :
    c ∈ Normal.compose cs := by
  unfold Normal.compose
  rw [List.mem_map]
  refine ⟨c.toNat, ?_, Char.ofNat_toNat c⟩
  apply hsingle.mem_joinMarks
  left
  apply hsingle.mem_orderMarks
  rw [List.mem_flatMap]
  exact ⟨c, h, partsOf_ascii c.toNat hsingle.1 ▸ List.mem_cons_self⟩

/-! ## Reading labels -/

namespace Punycode

theorem readDistance_suffix {bias place weight index sum : Nat} {cs rest : List Char}
    (h : readDistance bias cs place weight index = some (sum, rest)) :
    ∃ digits, cs = digits ++ rest ∧ ∀ d ∈ digits, (digitValue? d).isSome = true := by
  fun_induction readDistance bias cs place weight index with
  | case1 => cases h
  | case2 d cs place weight index ih =>
    rw [Option.bind_eq_bind, Option.bind_eq_some_iff] at h
    obtain ⟨value, hvalue, h⟩ := h
    have hd : (digitValue? d).isSome = true := by rw [hvalue]; rfl
    dsimp only at h
    split at h
    · cases h
      exact ⟨[d], rfl, by simpa using hd⟩
    · obtain ⟨digits, rfl, hall⟩ := ih value h
      refine ⟨d :: digits, rfl, ?_⟩
      intro e he
      rcases List.mem_cons.mp he with rfl | he
      · exact hd
      · exact hall e he

/-- Every character that is read is a digit, and those that were there stay there. -/
theorem placeRead_eq_some {fuel : List Char} {bias point index : Nat} {label cs decoded : List Char}
    (h : placeRead fuel bias point index label cs = some decoded) :
    (∀ d ∈ cs, (digitValue? d).isSome = true) ∧ ∀ d ∈ label, d ∈ decoded := by
  fun_induction placeRead fuel bias point index label cs with
  | case1 =>
    cases h
    exact ⟨fun _ hd => (nomatch hd), fun _ hd => hd⟩
  | case2 => cases h
  | case3 _ fuel bias point index label cs _ ih =>
    rw [Option.bind_eq_bind, Option.bind_eq_some_iff] at h
    obtain ⟨⟨sum, rest⟩, hread, h⟩ := h
    dsimp only at h
    split at h
    · obtain ⟨hdigits, hkept⟩ := ih sum rest h
      obtain ⟨digits, rfl, hall⟩ := readDistance_suffix hread
      refine ⟨?_, ?_⟩
      · intro d hd
        rcases List.mem_append.mp hd with hd | hd
        · exact hall d hd
        · exact hdigits d hd
      · intro d hd
        have hplace : sum % (label.length + 1) ≤ label.length :=
          Nat.le_of_lt_succ (Nat.mod_lt sum (Nat.succ_pos _))
        exact hkept d ((List.mem_insertIdx hplace).mpr (.inr hd))
    · cases h

/-- What is neither a digit nor the sign between plain characters and digits stays in the label. -/
theorem mem_decode {cs decoded : List Char} (hdigit : digitValue? c = none) (hsign : c ≠ '-')
    (h : c ∈ cs) (hdecoded : decode cs = some decoded) : c ∈ decoded := by
  have hunread : ∀ {fuel : List Char} {bias point index : Nat} {label rest : List Char},
      placeRead fuel bias point index label rest = some decoded → c ∉ rest := by
    intro fuel bias point index label rest hread hmem
    have hc := (placeRead_eq_some hread).1 c hmem
    rw [hdigit] at hc
    cases hc
  unfold decode at hdecoded
  split at hdecoded
  · cases hdecoded
  · change (if (Text.behindLast '-' cs).length = cs.length then _ else _) = _ at hdecoded
    split at hdecoded
    · exact absurd h (hunread hdecoded)
    · rename_i hlength
      have hmark : '-' ∈ cs := Decidable.byContradiction fun hnone =>
        hlength (by rw [Text.behindLast_eq_self hnone])
      obtain ⟨front, hcs, -, hfront⟩ := Text.exists_behindLast hmark
      change placeRead (Text.behindLast '-' cs) 72 0x80 0
        (cs.take (cs.length - (Text.behindLast '-' cs).length - 1)) (Text.behindLast '-' cs) = _
        at hdecoded
      rw [hfront] at hdecoded
      rw [hcs, List.mem_append, List.mem_cons] at h
      rcases h with h | h | h
      · exact (placeRead_eq_some hdecoded).2 c h
      · exact absurd h hsign
      · exact absurd h (hunread hdecoded)

end Punycode

theorem mem_readLabel {label read : List Char} (hdigit : Punycode.digitValue? c = none)
    (hsign : c ≠ '-') (h : c ∈ label) (hread : readLabel label = some read) : c ∈ read := by
  unfold readLabel at hread
  split at hread
  · rename_i hmark
    rw [Option.bind_eq_bind, Option.bind_eq_some_iff] at hread
    obtain ⟨decoded, hdecoded, hread⟩ := hread
    split at hread
    · cases hread
    · cases hread
      refine Punycode.mem_decode hdigit hsign ?_ hdecoded
      obtain ⟨rest, rfl⟩ := List.isPrefixOf_iff_prefix.mp hmark
      rw [List.drop_left]
      rcases List.mem_append.mp h with h | h
      · exfalso
        simp only [labelMark, List.mem_cons, List.not_mem_nil, or_false] at h
        rcases h with rfl | rfl | rfl | rfl
        · cases hdigit
        · cases hdigit
        · exact hsign rfl
        · exact hsign rfl
      · exact h
  · cases hread
    exact h

/-! ## Domains -/

/-- A sign of ASCII that a domain may not hold, and that no step on the way to its labels changes:
it is no letter, no digit and no sign with a meaning of its own. -/
structure IsRefusedSign (c : Char) : Prop where
  forbidden : isForbidden c = true
  low : c.toNat < 0x41 ∨ 0x5a < c.toNat
  single : IsSingle c.toNat
  digit : Punycode.digitValue? c = none
  hyphen : c ≠ '-'
  dot : (c == '.') = false

theorem toAscii_refuses {bytes : List UInt8} {cs : List Char} (hc : IsRefusedSign c)
    (hcs : Text.Utf8.decode? bytes = some cs) (h : c ∈ cs) : toAscii bytes = none := by
  rw [Option.eq_none_iff_forall_ne_some]
  intro ascii hascii
  unfold toAscii at hascii
  simp only [Option.bind_eq_bind, Option.bind_eq_some_iff] at hascii
  obtain ⟨cs', hcs', mapped, hmapped, labels, hlabels, hascii⟩ := hascii
  rw [hcs] at hcs'
  cases hcs'
  have hcomposed : c ∈ Normal.compose mapped :=
    mem_compose hc.single (mem_mapChars (mapChar_ascii hc.single.1 hc.low) h hmapped)
  obtain ⟨piece, hpiece, hmem⟩ := Text.mem_piece (p := (· == '.')) hc.dot hcomposed
  obtain ⟨label, hlabel, hread⟩ := Text.exists_of_mapM hlabels hpiece
  have hany : labels.any (fun label => label.any isForbidden || !isSound label) = true := by
    rw [List.any_eq_true]
    refine ⟨label, hlabel, ?_⟩
    rw [Bool.or_eq_true, List.any_eq_true]
    exact .inl ⟨c, mem_readLabel hc.digit hc.hyphen hmem hread, hc.forbidden⟩
  rw [if_pos hany] at hascii
  cases hascii

end ResultGateway.Domain
