-- Bytes and characters in UTF-8. The bytes that a text is written as are
-- read as that text, and no other bytes are a text. A byte of ASCII is a
-- character wherever it stands, for it belongs to no other one.
import Mathlib.Tactic.SplitIfs
import ResultGateway.Text.Utf8

namespace ResultGateway.Text.Utf8

/-! ## Writing -/

theorem toNat_ofNat {point : Nat} (h : point.isValidChar) : (Char.ofNat point).toNat = point := by
  unfold Char.ofNat
  rw [dif_pos h]
  rfl

/-- The bytes of a code point. -/
def bytesOf (point : Nat) : List Nat :=
  if point < 0x80 then [point]
  else if point < 0x800 then [point / 0x40 + 0xc0, point % 0x40 + 0x80]
  else if point < 0x10000 then
    [point / 0x1000 + 0xe0, point / 0x40 % 0x40 + 0x80, point % 0x40 + 0x80]
  else
    [point / 0x40000 + 0xf0, point / 0x1000 % 0x40 + 0x80, point / 0x40 % 0x40 + 0x80,
      point % 0x40 + 0x80]

theorem utf8EncodeChar_eq (c : Char) :
    String.utf8EncodeChar c = (bytesOf c.toNat).map UInt8.ofNat := by
  have hvalid : c.toNat.isValidChar := c.valid
  unfold String.utf8EncodeChar bytesOf
  rw [show c.val.toNat = c.toNat from rfl]
  generalize c.toNat = point at hvalid
  unfold Nat.isValidChar at hvalid
  dsimp only
  split_ifs
  all_goals first | omega | simp only [List.map_cons, List.map_nil]
  · rw [show point / 64 % 32 = point / 0x40 by omega]
  · rw [show point / 4096 % 16 = point / 0x1000 by omega]
  · rw [show point / 262144 % 8 = point / 0x40000 by omega]

theorem utf8EncodeChar_of_bytesOf {c : Char} {bytes : List UInt8}
    (h : bytesOf c.toNat = bytes.map UInt8.toNat) : String.utf8EncodeChar c = bytes := by
  rw [utf8EncodeChar_eq, h, List.map_map]
  simp [Function.comp_def]

theorem utf8EncodeChar_ascii {c : Char} (h : c.toNat < 0x80) :
    String.utf8EncodeChar c = [UInt8.ofNat c.toNat] := by
  rw [utf8EncodeChar_eq, bytesOf, if_pos h]
  rfl

/-! ## Reading one character -/

/-- How many bytes follow a first byte, and between which bounds the second byte lies. -/
inductive Leads (first : Nat) : Nat → Nat → Nat → Prop where
  | one (high : first < 0x80) : Leads first 0 0 0
  | two (low : 0xc2 ≤ first) (high : first < 0xe0) : Leads first 1 0x80 0xbf
  | three (low : 0xe0 ≤ first) (high : first < 0xf0) :
      Leads first 2 (if first = 0xe0 then 0xa0 else 0x80) (if first = 0xed then 0x9f else 0xbf)
  | four (low : 0xf0 ≤ first) (high : first < 0xf5) :
      Leads first 3 (if first = 0xf0 then 0x90 else 0x80) (if first = 0xf4 then 0x8f else 0xbf)

theorem following_eq_some {first count low high : Nat} :
    following first = some (count, low, high) ↔ Leads first count low high := by
  constructor
  · intro h
    have hthree := @Leads.three first
    have hfour := @Leads.four first
    unfold following at h
    split_ifs at h <;> cases h
    · exact .one (by omega)
    · exact .two (by omega) (by omega)
    all_goals grind
  · intro h
    unfold following
    cases h <;> grind

theorem readFollowing_zero {point low high : Nat} {bytes rest : List UInt8} {c : Char} :
    readFollowing point 0 low high bytes = (some c, rest) ↔
      Char.ofNat point = c ∧ bytes = rest := by
  simp [readFollowing]

theorem readFollowing_succ {point count low high : Nat} {bytes rest : List UInt8} {c : Char} :
    readFollowing point (count + 1) low high bytes = (some c, rest) ↔
      ∃ b more, bytes = b :: more ∧ low ≤ b.toNat ∧ b.toNat ≤ high ∧
        readFollowing (0x40 * point + b.toNat % 0x40) count 0x80 0xbf more = (some c, rest) := by
  cases bytes with
  | nil => simp [readFollowing]
  | cons b more =>
    rw [readFollowing]
    simp only [List.cons.injEq]
    grind

theorem readOne_eq_some {first : UInt8} {bytes rest : List UInt8} {c : Char} :
    readOne first bytes = (some c, rest) ↔ ∃ count low high, Leads first.toNat count low high ∧
      readFollowing (leadBits first.toNat count) count low high bytes = (some c, rest) := by
  unfold readOne
  simp only [← following_eq_some]
  constructor
  · intro h
    split at h
    · cases h
    · exact ⟨_, _, _, by assumption, h⟩
  · rintro ⟨count, low, high, hfollowing, hread⟩
    rw [hfollowing]
    exact hread

/-- A character is read from its own bytes. -/
theorem eq_encode_of_readOne {first : UInt8} {bytes rest : List UInt8} {c : Char}
    (h : readOne first bytes = (some c, rest)) :
    first :: bytes = String.utf8EncodeChar c ++ rest := by
  suffices hbytes : ∃ taken, first :: bytes = taken ++ rest ∧
      bytesOf c.toNat = taken.map UInt8.toNat by
    obtain ⟨taken, heq, hbytes⟩ := hbytes
    rw [utf8EncodeChar_of_bytesOf hbytes, heq]
  obtain ⟨_, _, _, hleads, hread⟩ := readOne_eq_some.mp h
  cases hleads with
  | one hhigh =>
    simp only [readFollowing_zero, leadBits] at hread
    obtain ⟨rfl, rfl⟩ := hread
    refine ⟨[first], rfl, ?_⟩
    rw [toNat_ofNat (by unfold Nat.isValidChar; omega), bytesOf, if_pos hhigh]
    rfl
  | two hlow hhigh =>
    simp only [readFollowing_succ, readFollowing_zero, leadBits] at hread
    obtain ⟨b, _, rfl, hb, hb', rfl, rfl⟩ := hread
    refine ⟨[first, b], rfl, ?_⟩
    rw [toNat_ofNat (by unfold Nat.isValidChar; omega)]
    unfold bytesOf
    rw [if_neg (by omega), if_pos (by omega)]
    simp only [List.map_cons, List.map_nil, List.cons.injEq, and_true]
    omega
  | three hlow hhigh =>
    simp only [readFollowing_succ, readFollowing_zero, leadBits] at hread
    obtain ⟨b, _, rfl, hb, hb', d, _, rfl, hd, hd', rfl, rfl⟩ := hread
    refine ⟨[first, b, d], rfl, ?_⟩
    split_ifs at hb hb'
    all_goals
      rw [toNat_ofNat (by unfold Nat.isValidChar; omega)]
      unfold bytesOf
      rw [if_neg (by omega), if_neg (by omega), if_pos (by omega)]
      simp only [List.map_cons, List.map_nil, List.cons.injEq, and_true]
      omega
  | four hlow hhigh =>
    simp only [readFollowing_succ, readFollowing_zero, leadBits] at hread
    obtain ⟨b, _, rfl, hb, hb', d, _, rfl, hd, hd', e, _, rfl, he, he', rfl, rfl⟩ := hread
    refine ⟨[first, b, d, e], rfl, ?_⟩
    split_ifs at hb hb'
    all_goals
      rw [toNat_ofNat (by unfold Nat.isValidChar; omega)]
      unfold bytesOf
      rw [if_neg (by omega), if_neg (by omega), if_neg (by omega)]
      simp only [List.map_cons, List.map_nil, List.cons.injEq, and_true]
      omega

theorem toNat_byte {n : Nat} (h : n < 0x100) : (UInt8.ofNat n).toNat = n :=
  UInt8.toNat_ofNat_of_lt' h

theorem toNat_later (n : Nat) : (UInt8.ofNat (n % 0x40 + 0x80)).toNat = n % 0x40 + 0x80 :=
  toNat_byte (by omega)

/-- The bytes of a character are read as it, whatever stands behind them. -/
theorem readOne_of_encode {first : UInt8} {bytes rest : List UInt8} {c : Char}
    (h : first :: bytes = String.utf8EncodeChar c ++ rest) :
    readOne first bytes = (some c, rest) := by
  have hvalid : c.toNat.isValidChar := c.valid
  have hc := Char.ofNat_toNat c
  rw [utf8EncodeChar_eq] at h
  generalize c.toNat = point at hvalid hc h
  subst hc
  unfold Nat.isValidChar at hvalid
  unfold bytesOf at h
  split_ifs at h
  all_goals
    simp only [List.map_cons, List.map_nil, List.cons_append, List.nil_append, List.cons.injEq] at h
    obtain ⟨rfl, rfl⟩ := h
    rw [readOne_eq_some, toNat_byte (by omega)]
  · refine ⟨_, _, _, .one (by omega), ?_⟩
    exact readFollowing_zero.mpr ⟨rfl, rfl⟩
  · refine ⟨_, _, _, .two (by omega) (by omega), ?_⟩
    simp only [readFollowing_succ, readFollowing_zero, leadBits]
    refine ⟨_, _, rfl, ?_, ?_, ?_, rfl⟩
    all_goals rw [toNat_later]
    · omega
    · omega
    · congr 1
      omega
  · refine ⟨_, _, _, .three (by omega) (by omega), ?_⟩
    simp only [readFollowing_succ, readFollowing_zero, leadBits]
    refine ⟨_, _, rfl, ?_, ?_, _, _, rfl, ?_, ?_, ?_, rfl⟩
    all_goals simp only [toNat_later]
    · split_ifs <;> omega
    · split_ifs <;> omega
    · omega
    · omega
    · congr 1
      omega
  · refine ⟨_, _, _, .four (by omega) (by omega), ?_⟩
    simp only [readFollowing_succ, readFollowing_zero, leadBits]
    refine ⟨_, _, rfl, ?_, ?_, _, _, rfl, ?_, ?_, _, _, rfl, ?_, ?_, ?_, rfl⟩
    all_goals simp only [toNat_later]
    · split_ifs <;> omega
    · split_ifs <;> omega
    · omega
    · omega
    · omega
    · omega
    · congr 1
      omega

/-! ## Reading a text -/

theorem readAll_eq (found : List (Option Char)) (bytes : List UInt8) :
    readAll found bytes = found.reverse ++ readAll [] bytes := by
  induction hlength : bytes.length using Nat.strongRecOn generalizing found bytes with
  | ind length ih =>
    cases bytes with
    | nil => simp [readAll]
    | cons first bytes =>
      have hshorter : (readOne first bytes).2.length < length := by
        have hle := readOne_length first bytes
        rw [List.length_cons] at hlength
        omega
      rw [readAll, ih _ hshorter _ _ rfl, readAll, ih _ hshorter [_] _ rfl]
      simp

theorem decode?_nil : decode? [] = some [] := by
  simp [decode?, readAll]

theorem decode?_cons {first : UInt8} {bytes : List UInt8} {cs : List Char} :
    decode? (first :: bytes) = some cs ↔ ∃ c more rest, readOne first bytes = (some c, rest) ∧
      decode? rest = some more ∧ cs = c :: more := by
  unfold decode?
  rw [readAll, readAll_eq]
  obtain ⟨found, rest⟩ := readOne first bytes
  simp only [List.reverse_singleton, List.singleton_append, List.mapM_cons, id, Prod.mk.injEq]
  cases found with
  | none => simp
  | some c =>
    change (((readAll [] rest).mapM id).bind fun more => some (c :: more)) = some cs ↔ _
    rw [Option.bind_eq_some_iff]
    constructor
    · rintro ⟨more, hmore, heq⟩
      exact ⟨c, more, rest, ⟨rfl, rfl⟩, hmore, (Option.some.inj heq).symm⟩
    · rintro ⟨_, more, _, ⟨⟨⟩, rfl⟩, hmore, rfl⟩
      exact ⟨more, hmore, rfl⟩

/-- Bytes are the text that they are written as, and no other bytes are a text. -/
theorem decode?_eq_some {bytes : List UInt8} {cs : List Char} :
    decode? bytes = some cs ↔ bytes = encode cs := by
  induction cs generalizing bytes with
  | nil =>
    cases bytes with
    | nil => simp [decode?_nil, encode]
    | cons first bytes => simp [decode?_cons, encode]
  | cons c cs ih =>
    have hencode : encode (c :: cs) = String.utf8EncodeChar c ++ encode cs := rfl
    cases bytes with
    | nil => simp [decode?_nil, hencode]
    | cons first bytes =>
      rw [hencode, decode?_cons]
      constructor
      · rintro ⟨_, _, rest, hread, hmore, heq⟩
        cases heq
        rw [← ih.mp hmore]
        exact eq_encode_of_readOne hread
      · intro h
        exact ⟨c, cs, encode cs, readOne_of_encode h, ih.mpr rfl, rfl⟩

/-! ## Bytes of ASCII -/

/-- A byte of ASCII belongs to no other character than its own. -/
theorem toNat_of_mem_utf8EncodeChar {b : UInt8} (hascii : b.toNat < 0x80) {c : Char}
    (h : b ∈ String.utf8EncodeChar c) : b.toNat = c.toNat := by
  have hvalid : c.toNat.isValidChar := c.valid
  unfold Nat.isValidChar at hvalid
  rw [utf8EncodeChar_eq, List.mem_map] at h
  obtain ⟨n, hn, rfl⟩ := h
  unfold bytesOf at hn
  rw [UInt8.toNat_ofNat'] at hascii ⊢
  split_ifs at hn
  all_goals
    simp only [List.mem_cons, List.not_mem_nil, or_false] at hn
    omega

/-- A byte of ASCII stands for its character in every text that holds it. -/
theorem mem_decode? {b : UInt8} (hascii : b.toNat < 0x80) {bytes : List UInt8} {cs : List Char}
    (h : b ∈ bytes) (hcs : decode? bytes = some cs) : Char.ofNat b.toNat ∈ cs := by
  rw [decode?_eq_some.mp hcs, encode, List.mem_flatMap] at h
  obtain ⟨c, hc, hb⟩ := h
  rw [toNat_of_mem_utf8EncodeChar hascii hb, Char.ofNat_toNat]
  exact hc

end ResultGateway.Text.Utf8
