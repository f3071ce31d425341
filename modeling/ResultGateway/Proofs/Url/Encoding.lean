-- Percent-encoding, done once and done again. What is encoded needs no more
-- encoding, and it stands for the bytes that it stood for before. The
-- segments with dots are told by those bytes, so no other segment becomes
-- one of them when it is encoded.
import Mathlib
import ResultGateway.Proofs.Text.Decimal
import ResultGateway.Proofs.Text.Utf8
import ResultGateway.Proofs.Url.Host
import ResultGateway.Url.Parse

namespace ResultGateway.Url

open Text (hexValue? isDigit upperHexDigit)

namespace Percent

/-! ## Encoded texts -/

/-- A text that holds nothing that is refused. -/
def IsEncoded (refused : Char → Bool) (cs : List Char) : Prop :=
  ∀ c ∈ cs, c.toNat < 0x80 ∧ refused c = false

/-- The characters that bytes are written with are not refused. -/
structure AllowsBytes (refused : Char → Bool) : Prop where
  percent : refused '%' = false
  hex : ∀ c, (hexValue? c).isSome → c.toNat < 0x80 ∧ refused c = false

section

variable {refused : Char → Bool} {cs : List Char} {c : Char}

theorem encode_cons (c : Char) (cs : List Char) :
    encode refused (c :: cs) = encodeChar refused c ++ encode refused cs := rfl

theorem encodeChar_allowed (h : c.toNat < 0x80 ∧ refused c = false) :
    encodeChar refused c = [c] := by
  unfold encodeChar
  rw [if_neg]
  simp [h]

/-- A text that is encoded stays as it is. -/
theorem encode_eq_self (h : IsEncoded refused cs) : encode refused cs = cs := by
  induction cs with
  | nil => rfl
  | cons c cs ih =>
    obtain ⟨hc, hcs⟩ := List.forall_mem_cons.mp h
    rw [encode_cons, encodeChar_allowed hc, ih hcs]
    rfl

theorem isSome_upperHexDigit (d : Nat) : (hexValue? (upperHexDigit d)).isSome := by
  rw [Text.hexValue?_upperHexDigit]
  rfl

/-- What is written for a text is a part of it or of a byte. -/
theorem mem_encode (h : c ∈ encode refused cs) :
    (c ∈ cs ∧ c.toNat < 0x80 ∧ refused c = false) ∨ c = '%' ∨ (hexValue? c).isSome := by
  obtain ⟨d, hd, hmem⟩ := List.mem_flatMap.mp h
  unfold encodeChar at hmem
  split at hmem
  · obtain ⟨b, -, hb⟩ := List.mem_flatMap.mp hmem
    simp only [encodeByte, List.mem_cons, List.not_mem_nil, or_false] at hb
    rcases hb with rfl | rfl | rfl
    · exact .inr (.inl rfl)
    · exact .inr (.inr (isSome_upperHexDigit _))
    · exact .inr (.inr (isSome_upperHexDigit _))
  · rename_i hallowed
    rw [List.mem_singleton.mp hmem]
    simp only [Bool.or_eq_true, decide_eq_true_eq, not_or, Nat.not_le, Bool.not_eq_true] at hallowed
    exact .inl ⟨hd, hallowed⟩

theorem isEncoded_encode (hbytes : AllowsBytes refused) (cs : List Char) :
    IsEncoded refused (encode refused cs) := by
  intro c hc
  rcases mem_encode hc with ⟨-, hallowed⟩ | rfl | hhex
  · exact hallowed
  · exact ⟨by decide, hbytes.percent⟩
  · exact hbytes.hex c hhex

end

/-! ## Bytes -/

/-- Two digits at the front, which make a byte of a percent sign. -/
def StartsHex (cs : List Char) : Prop :=
  ∃ a b rest, cs = a :: b :: rest ∧ (hexValue? a).isSome ∧ (hexValue? b).isSome

section

variable {c : Char} {cs : List Char}

theorem decode_byte {a b : Char} {high low : Nat} (ha : hexValue? a = some high)
    (hb : hexValue? b = some low) (cs : List Char) :
    decode ('%' :: a :: b :: cs) = UInt8.ofNat (16 * high + low) :: decode cs := by
  rw [decode, ha, hb]

/-- A character that does not start a byte stands for itself. -/
theorem decode_char (h : c = '%' → ¬ StartsHex cs) :
    decode (c :: cs) = String.utf8EncodeChar c ++ decode cs := by
  by_cases hc : c = '%'
  · subst hc
    have hstarts := h rfl
    rcases cs with _ | ⟨a, _ | ⟨b, rest⟩⟩
    · rfl
    · rfl
    · rw [decode]
      cases ha : hexValue? a with
      | none => rfl
      | some high =>
        cases hb : hexValue? b with
        | none => rfl
        | some low => exact absurd ⟨a, b, rest, rfl, by rw [ha]; rfl, by rw [hb]; rfl⟩ hstarts
  · rw [decode]
    exact fun _ _ _ hpercent => absurd hpercent hc

/-- A text is made of bytes and of characters that stand for themselves. -/
theorem decode_induction {P : List Char → Prop} (nil : P [])
    (byte : ∀ a b rest high low, hexValue? a = some high → hexValue? b = some low → P rest →
      P ('%' :: a :: b :: rest))
    (char : ∀ c rest, (c = '%' → ¬ StartsHex rest) → P rest → P (c :: rest)) (cs : List Char) :
    P cs := by
  fun_induction decode cs with
  | case1 => exact nil
  | case2 a b rest high low hb ha ih => exact byte a b rest high low ha hb ih
  | case3 a b rest hnone ih =>
    refine char '%' _ ?_ ih
    rintro - ⟨_, _, _, ⟨⟩, ha, hb⟩
    obtain ⟨high, ha⟩ := Option.isSome_iff_exists.mp ha
    obtain ⟨low, hb⟩ := Option.isSome_iff_exists.mp hb
    exact hnone high low ha hb
  | case4 c rest hshort ih =>
    refine char c rest ?_ ih
    rintro rfl ⟨a, b, behind, rfl, -⟩
    exact hshort a b behind rfl rfl

/-- The bytes of a character that is encoded are read back. -/
theorem decode_encodeByte (b : UInt8) (cs : List Char) :
    decode (encodeByte b ++ cs) = b :: decode cs := by
  have hlt : b.toNat < 256 := b.toNat_lt
  have hvalue : 16 * (b.toNat / 16 % 16) + b.toNat % 16 = b.toNat := by omega
  have hbyte := decode_byte (Text.hexValue?_upperHexDigit (b.toNat / 16))
    (Text.hexValue?_upperHexDigit b.toNat) cs
  rw [hvalue, UInt8.ofNat_toNat] at hbyte
  exact hbyte

theorem decode_encodeBytes (bytes : List UInt8) (cs : List Char) :
    decode (bytes.flatMap encodeByte ++ cs) = bytes ++ decode cs := by
  induction bytes with
  | nil => rfl
  | cons b bytes ih =>
    rw [List.flatMap_cons, List.append_assoc, decode_encodeByte, ih]
    rfl

end

section

variable {refused : Char → Bool} {cs : List Char}

/-- A character is written as it is, or as something that starts with a percent sign. -/
theorem encodeChar_cases (refused : Char → Bool) (c : Char) :
    encodeChar refused c = [c] ∨
      (encodeChar refused c = (String.utf8EncodeChar c).flatMap encodeByte ∧
        ∃ rest, encodeChar refused c = '%' :: rest) := by
  unfold encodeChar
  split
  · obtain ⟨b, bytes, hbytes⟩ := List.exists_cons_of_ne_nil (String.utf8EncodeChar_ne_nil (c := c))
    refine .inr ⟨rfl, ?_⟩
    rw [hbytes]
    exact ⟨_, rfl⟩
  · exact .inl rfl

/-- A digit at the front of what is written is the character that is written. -/
theorem head_of_encode {x : Char} {rest : List Char} (hx : (hexValue? x).isSome)
    (h : encode refused cs = x :: rest) : ∃ cs', cs = x :: cs' ∧ rest = encode refused cs' := by
  cases cs with
  | nil => cases h
  | cons c cs =>
    rw [encode_cons] at h
    rcases encodeChar_cases refused c with hplain | ⟨-, written, hpercent⟩
    · rw [hplain] at h
      cases h
      exact ⟨cs, rfl, rfl⟩
    · rw [hpercent] at h
      cases h
      exact absurd hx (by decide)

theorem startsHex_of_encode (h : StartsHex (encode refused cs)) : StartsHex cs := by
  obtain ⟨a, b, rest, heq, ha, hb⟩ := h
  obtain ⟨cs', rfl, hrest⟩ := head_of_encode ha heq
  obtain ⟨cs'', rfl, -⟩ := head_of_encode hb hrest.symm
  exact ⟨a, b, cs'', rfl, ha, hb⟩

/-- A text stands for the same bytes when it is encoded. -/
theorem decode_encode (hbytes : AllowsBytes refused) (cs : List Char) :
    decode (encode refused cs) = decode cs := by
  have hpercent : ∀ cs, encode refused ('%' :: cs) = '%' :: encode refused cs := by
    intro cs
    rw [encode_cons, encodeChar_allowed ⟨by decide, hbytes.percent⟩]
    rfl
  have hhex : ∀ c cs, (hexValue? c).isSome →
      encode refused (c :: cs) = c :: encode refused cs := by
    intro c cs hc
    rw [encode_cons, encodeChar_allowed (hbytes.hex c hc)]
    rfl
  induction cs using decode_induction with
  | nil => rfl
  | byte a b rest high low ha hb ih =>
    rw [hpercent, hhex a _ (by rw [ha]; rfl), hhex b _ (by rw [hb]; rfl), decode_byte ha hb,
      decode_byte ha hb, ih]
  | char c rest hplain ih =>
    rw [encode_cons, decode_char hplain]
    rcases encodeChar_cases refused c with hsame | ⟨hwritten, -⟩
    · rw [hsame, List.singleton_append,
        decode_char fun hc => mt startsHex_of_encode (hplain hc), ih]
    · rw [hwritten, decode_encodeBytes, ih]

theorem decode_eq_nil : decode cs = [] ↔ cs = [] := by
  cases cs using decode_induction with
  | nil => simp [decode]
  | byte a b rest high low ha hb => simp [decode_byte ha hb]
  | char c rest hplain => simp [decode_char hplain]

end

end Percent

/-! ## Dots -/

theorem toNat_of_toLower {c : Char} (h : c.toLower.toNat < 0x80) : c.toNat < 0x80 := by
  unfold Char.toLower at h
  split at h
  · rename_i hupper
    have hlast : c.toNat ≤ 'Z'.toNat := hupper.2
    exact Nat.lt_of_le_of_lt hlast (by decide)
  · exact h

/-- Facts about the characters of ASCII are checked one by one. -/
theorem ascii_induction {P : Char → Prop} (h : ∀ n < 0x80, P (Char.ofNat n)) {c : Char}
    (hc : c.toNat < 0x80) : P c := by
  have hP := h c.toNat hc
  rwa [Char.ofNat_toNat] at hP

theorem toLower_eq_sign {c d : Char} (hd : d ∈ ['.', '%', '2']) (h : c.toLower = d) : c = d := by
  have hall : ∀ n < 0x80, (Char.ofNat n).toLower ∈ ['.', '%', '2'] →
      Char.ofNat n = (Char.ofNat n).toLower := by decide +kernel
  have hsmall : d.toNat < 0x80 := by
    simp only [List.mem_cons, List.not_mem_nil, or_false] at hd
    rcases hd with rfl | rfl | rfl <;> decide
  subst h
  exact ascii_induction (P := fun c => c.toLower ∈ ['.', '%', '2'] → c = c.toLower) hall
    (toNat_of_toLower hsmall) hd

theorem hexValue?_of_toLower {c : Char} (h : c.toLower = 'e') : hexValue? c = some 14 := by
  have hall : ∀ n < 0x80, (Char.ofNat n).toLower = 'e' → hexValue? (Char.ofNat n) = some 14 := by
    decide +kernel
  have hc : c.toNat < 0x80 := toNat_of_toLower (by rw [h]; decide)
  exact ascii_induction (P := fun c => c.toLower = 'e' → hexValue? c = some 14) hall hc h

theorem toNat_of_hexValue? {c : Char} {d : Nat} (h : hexValue? c = some d) : c.toNat < 0x80 := by
  have hval : c.val.toNat = c.toNat := rfl
  unfold hexValue? isDigit at h
  simp only [Char.le_def, UInt32.le_iff_toNat_le, Bool.and_eq_true, decide_eq_true_eq, hval] at h
  split at h
  · rename_i hdigit
    exact Nat.lt_of_le_of_lt hdigit.2 (by decide)
  · split at h
    · rename_i hlower
      exact Nat.lt_of_le_of_lt hlower.2 (by decide)
    · split at h
      · rename_i hupper
        exact Nat.lt_of_le_of_lt hupper.2 (by decide)
      · cases h

/-- A hexadecimal digit is the one of its value in lower case. -/
theorem toLower_of_hexValue? {c : Char} {d : Nat} (h : hexValue? c = some d) :
    d < 16 ∧ c.toLower = Text.lowerHexDigit d := by
  have hall : ∀ n < 0x80, ∀ d ∈ hexValue? (Char.ofNat n),
      d < 16 ∧ (Char.ofNat n).toLower = Text.lowerHexDigit d := by decide +kernel
  exact ascii_induction (P := fun c => ∀ d ∈ hexValue? c, d < 16 ∧ c.toLower = Text.lowerHexDigit d)
    hall (toNat_of_hexValue? h) d h

theorem isDot_iff_lower {cs : List Char} : isDot cs = true ↔
    cs.map Char.toLower = ['.'] ∨ cs.map Char.toLower = ['%', '2', 'e'] := by
  unfold isDot
  rw [Bool.or_eq_true, beq_iff_eq, beq_iff_eq]
  refine or_congr_left ?_
  constructor
  · rintro rfl
    rfl
  · intro h
    obtain ⟨c, rfl, hc⟩ := List.map_eq_singleton_iff.mp h
    rw [toLower_eq_sign (by decide) hc]

/-- A dot at the front, in one of its spellings, stands for the byte of the dot. -/
theorem decode_eq_dot {cs : List Char} {bytes : List UInt8} :
    Percent.decode cs = 0x2e :: bytes ↔
      ∃ dot rest, cs = dot ++ rest ∧ isDot dot = true ∧ Percent.decode rest = bytes := by
  constructor
  · intro h
    cases cs using Percent.decode_induction with
    | nil => cases h
    | byte a b rest high low ha hb =>
      rw [Percent.decode_byte ha hb, List.cons.injEq] at h
      obtain ⟨hbyte, rfl⟩ := h
      obtain ⟨hhigh, ha⟩ := toLower_of_hexValue? ha
      obtain ⟨hlow, hb⟩ := toLower_of_hexValue? hb
      have hvalue : 16 * high + low = 0x2e := by
        have hnat := congrArg UInt8.toNat hbyte
        rw [UInt8.toNat_ofNat'] at hnat
        simp at hnat
        omega
      obtain ⟨rfl, rfl⟩ : high = 2 ∧ low = 14 := by omega
      refine ⟨['%', a, b], rest, rfl, isDot_iff_lower.mpr (.inr ?_), rfl⟩
      rw [List.map_cons, List.map_cons, List.map_singleton, ha, hb]
      rfl
    | char c rest hplain =>
      rw [Percent.decode_char hplain] at h
      obtain ⟨b, more, hbytes⟩ := List.exists_cons_of_ne_nil (String.utf8EncodeChar_ne_nil (c := c))
      rw [hbytes] at h
      rw [List.cons_append, List.cons.injEq] at h
      obtain ⟨rfl, rfl⟩ := h
      have hmem : 0x2e ∈ String.utf8EncodeChar c := hbytes ▸ List.mem_cons_self
      have hnat := Text.Utf8.toNat_of_mem_utf8EncodeChar (by decide) hmem
      have hc : c = '.' := by
        rw [← Char.ofNat_toNat c, ← hnat]
        rfl
      subst hc
      rw [Text.Utf8.utf8EncodeChar_ascii (by decide)] at hbytes
      cases hbytes
      exact ⟨['.'], rest, rfl, by decide, rfl⟩
  · rintro ⟨dot, rest, rfl, hdot, rfl⟩
    rcases isDot_iff_lower.mp hdot with hlower | hlower
    · obtain ⟨c, rfl, hc⟩ := List.map_eq_singleton_iff.mp hlower
      rw [toLower_eq_sign (by decide) hc, List.singleton_append,
        Percent.decode_char fun h => absurd h (by decide)]
      rfl
    · obtain ⟨p, _, rfl, hp, hrest⟩ := List.map_eq_cons_iff.mp hlower
      obtain ⟨a, _, rfl, ha, hlast⟩ := List.map_eq_cons_iff.mp hrest
      obtain ⟨b, rfl, hb⟩ := List.map_eq_singleton_iff.mp hlast
      rw [toLower_eq_sign (by decide) hp, toLower_eq_sign (by decide) ha]
      have htwo : hexValue? '2' = some 2 := by decide
      exact Percent.decode_byte htwo (hexValue?_of_toLower hb) rest

theorem isDot_iff {cs : List Char} : isDot cs = true ↔ Percent.decode cs = [0x2e] := by
  rw [decode_eq_dot]
  simp only [Percent.decode_eq_nil]
  constructor
  · exact fun h => ⟨cs, [], (List.append_nil cs).symm, h, rfl⟩
  · rintro ⟨dot, _, rfl, hdot, rfl⟩
    rwa [List.append_nil]

theorem isDoubleDot_iff {cs : List Char} :
    isDoubleDot cs = true ↔ Percent.decode cs = [0x2e, 0x2e] := by
  rw [decode_eq_dot]
  simp only [← isDot_iff]
  constructor
  · intro h
    unfold isDoubleDot at h
    obtain ⟨lead, trail, hlower, hlead, htrail⟩ : ∃ lead trail,
        cs.map Char.toLower = lead ++ trail ∧ (lead = ['.'] ∨ lead = ['%', '2', 'e']) ∧
          (trail = ['.'] ∨ trail = ['%', '2', 'e']) := by
      simp only [List.contains_cons, List.contains_nil, Bool.or_false, Bool.or_eq_true,
        beq_iff_eq, ← String.toList_inj, String.toList_ofList] at h
      rcases h with h | h | h | h
      · exact ⟨['.'], ['.'], h, .inl rfl, .inl rfl⟩
      · exact ⟨['%', '2', 'e'], ['.'], h, .inr rfl, .inl rfl⟩
      · exact ⟨['.'], ['%', '2', 'e'], h, .inl rfl, .inr rfl⟩
      · exact ⟨['%', '2', 'e'], ['%', '2', 'e'], h, .inr rfl, .inr rfl⟩
    obtain ⟨dot, rest, rfl, rfl, rfl⟩ := List.map_eq_append_iff.mp hlower
    exact ⟨dot, rest, rfl, isDot_iff_lower.mpr hlead, isDot_iff_lower.mpr htrail⟩
  · rintro ⟨dot, rest, rfl, hdot, hrest⟩
    rw [isDot_iff_lower] at hdot hrest
    unfold isDoubleDot
    rw [List.map_append]
    rcases hdot with hdot | hdot <;> rcases hrest with hrest | hrest <;> rw [hdot, hrest] <;> decide

theorem isDot_encode {refused : Char → Bool} (hbytes : Percent.AllowsBytes refused)
    (cs : List Char) : isDot (Percent.encode refused cs) = isDot cs := by
  rw [Bool.eq_iff_iff, isDot_iff, isDot_iff, Percent.decode_encode hbytes]

theorem isDoubleDot_encode {refused : Char → Bool} (hbytes : Percent.AllowsBytes refused)
    (cs : List Char) : isDoubleDot (Percent.encode refused cs) = isDoubleDot cs := by
  rw [Bool.eq_iff_iff, isDoubleDot_iff, isDoubleDot_iff, Percent.decode_encode hbytes]

/-! ## Parts of a URL -/

namespace Percent

theorem inPath_eq (c : Char) :
    inPath c = (isControl c || decide (c ∈ " \"<>`#?\x7b\x7d".toList)) := by
  simp [inPath, inFragment, Bool.or_assoc]

theorem inUserInfo_eq (c : Char) : inUserInfo c =
    (isControl c || decide (c ∈ " \"<>`#?\x7b\x7d/:;=@[\\]^|".toList)) := by
  simp [inUserInfo, inPath_eq, Bool.or_assoc]

theorem inPath_of_inUserInfo {c : Char} (h : inUserInfo c = false) : inPath c = false :=
  (Bool.or_eq_false_iff.mp h).1

theorem allowsBytes_inUserInfo : AllowsBytes inUserInfo := by
  have hall : ∀ n < 0x80, (hexValue? (Char.ofNat n)).isSome → (isControl (Char.ofNat n) ||
      decide (Char.ofNat n ∈ " \"<>`#?\x7b\x7d/:;=@[\\]^|".toList)) = false := by decide +kernel
  refine ⟨?_, ?_⟩
  · rw [inUserInfo_eq]
    decide
  · intro c hc
    obtain ⟨d, hd⟩ := Option.isSome_iff_exists.mp hc
    have hascii := toNat_of_hexValue? hd
    refine ⟨hascii, ?_⟩
    rw [inUserInfo_eq]
    exact ascii_induction (P := fun c => (hexValue? c).isSome → (isControl c ||
      decide (c ∈ " \"<>`#?\x7b\x7d/:;=@[\\]^|".toList)) = false) hall hascii hc

theorem allowsBytes_inPath : AllowsBytes inPath :=
  ⟨inPath_of_inUserInfo allowsBytes_inUserInfo.percent, fun c hc =>
    ⟨(allowsBytes_inUserInfo.hex c hc).1, inPath_of_inUserInfo (allowsBytes_inUserInfo.hex c hc).2⟩⟩

end Percent

end ResultGateway.Url
