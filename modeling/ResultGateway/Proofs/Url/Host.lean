-- Which texts may be hosts. A host in brackets closes them at its end and
-- nowhere before; any other host has neither a bracket nor a colon. So a
-- text with a bracket left open is no host, whatever stands behind it.
import Mathlib
import ResultGateway.Proofs.Domain.Ascii
import ResultGateway.Proofs.Text.Utf8
import ResultGateway.Url.Host

namespace ResultGateway.Url

open Text (isDigit)

/-! ## Decoded bytes -/

namespace Percent

theorem mem_decode {c : Char} (hascii : c.toNat < 0x80) (hhex : Text.hexValue? c = none)
    (hsign : c ≠ '%') {cs : List Char} (h : c ∈ cs) : UInt8.ofNat c.toNat ∈ decode cs := by
  have hchar : UInt8.ofNat c.toNat ∈ String.utf8EncodeChar c := by
    rw [Text.Utf8.utf8EncodeChar_ascii hascii]
    exact List.mem_cons_self
  fun_induction decode cs with
  | case1 => cases h
  | case2 a b cs low high ha hb ih =>
    simp only [List.mem_cons] at h
    rcases h with rfl | rfl | rfl | h
    · exact absurd rfl hsign
    · rw [hhex] at hb
      cases hb
    · rw [hhex] at ha
      cases ha
    · exact List.mem_cons_of_mem _ (ih h)
  | case3 a b cs _ ih =>
    rw [List.mem_append]
    rcases List.mem_cons.mp h with rfl | h
    · exact absurd rfl hsign
    · exact .inr (ih h)
  | case4 d cs _ ih =>
    rw [List.mem_append]
    rcases List.mem_cons.mp h with rfl | h
    · exact .inl hchar
    · exact .inr (ih h)

end Percent

/-! ## Addresses in brackets -/

namespace Ipv6

/-- The characters of an address. -/
def isAddressChar (c : Char) : Bool := c == ':' || c == '.' || (Text.hexValue? c).isSome

theorem isAddressChar_digit {c : Char} (h : isDigit c = true) : isAddressChar c = true := by
  unfold isAddressChar Text.hexValue?
  rw [if_pos h]
  simp

theorem byte?_eq_some {cs rest : List Char} {n : Nat} (h : byte? cs = some (n, rest)) :
    ∃ digits, cs = digits ++ rest ∧ ∀ d ∈ digits, isDigit d = true := by
  unfold byte? at h
  dsimp only at h
  split at h
  · cases h
  · cases h
    exact ⟨_, (List.takeWhile_append_dropWhile).symm, List.all_eq_true.mp List.all_takeWhile⟩

theorem isAddressChar_bytes {count : Nat} {cs : List Char} {bytes : List Nat}
    (h : bytes? count cs = some bytes) : ∀ c ∈ cs, isAddressChar c = true := by
  fun_induction bytes? count cs generalizing bytes with
  | case1 cs hempty =>
    rw [List.isEmpty_iff.mp hempty]
    exact fun _ hc => (nomatch hc)
  | case2 => cases h
  | case3 cs n hbyte =>
    obtain ⟨digits, rfl, hall⟩ := byte?_eq_some hbyte
    rw [List.append_nil]
    exact fun c hc => isAddressChar_digit (hall c hc)
  | case4 => cases h
  | case5 count cs n rest hbyte ih =>
    obtain ⟨later, hlater, -⟩ := Option.map_eq_some_iff.mp h
    obtain ⟨digits, rfl, hall⟩ := byte?_eq_some hbyte
    intro c hc
    rcases List.mem_append.mp hc with hc | hc
    · exact isAddressChar_digit (hall c hc)
    · rcases List.mem_cons.mp hc with rfl | hc
      · rfl
      · exact ih hlater c hc
  | case6 => cases h

theorem isAddressChar_tail {cs : List Char} {pieces : Nat × Nat} (h : tail? cs = some pieces) :
    ∀ c ∈ cs, isAddressChar c = true := by
  unfold tail? at h
  split at h
  · rename_i hbytes
    exact isAddressChar_bytes hbytes
  · cases h

/-- The hexadecimal digits at the front of a text, of which a piece has four at most. -/
theorem exists_pieceDigits (cs : List Char) :
    ∃ digits rest, cs = digits ++ rest ∧ (∀ d ∈ digits, isAddressChar d = true) ∧
      (cs.take 4).takeWhile (fun c => (Text.hexValue? c).isSome) = digits ∧
      cs.drop digits.length = rest := by
  have hprefix : (cs.take 4).takeWhile (fun c => (Text.hexValue? c).isSome) <+: cs :=
    (List.takeWhile_prefix _).trans (List.take_prefix 4 cs)
  have hall : ∀ d ∈ (cs.take 4).takeWhile (fun c => (Text.hexValue? c).isSome),
      isAddressChar d = true := by
    intro d hd
    have hhex := List.all_eq_true.mp List.all_takeWhile d hd
    unfold isAddressChar
    rw [hhex, Bool.or_true]
  generalize (cs.take 4).takeWhile _ = digits at hprefix hall
  obtain ⟨rest, hrest⟩ := hprefix
  exact ⟨digits, rest, hrest.symm, hall, rfl, hrest ▸ List.drop_left⟩

theorem isAddressChar_pieces {fuel : List Char} {p q : Progress} {cs : List Char}
    (h : readPieces fuel p cs = some q) : ∀ c ∈ cs, isAddressChar c = true := by
  fun_induction readPieces fuel p cs with
  | case1 => exact fun _ hc => (nomatch hc)
  | case2 => cases h
  | case3 => cases h
  | case4 => cases h
  | case5 _ _ _ _ cs _ _ ih =>
    intro c hc
    rcases List.mem_cons.mp hc with rfl | hc
    · rfl
    · exact ih h c hc
  | case6 _ _ _ _ cs _ digits _ hrest =>
    obtain ⟨front, rest, heq, hall, hfront, hdrop⟩ := exists_pieceDigits cs
    subst hfront
    rw [heq, ← hdrop, hrest, List.append_nil]
    exact hall
  | case7 => cases h
  | case8 _ _ _ _ cs =>
    rw [Option.bind_eq_bind, Option.bind_eq_some_iff] at h
    obtain ⟨pieces, hpieces, -⟩ := h
    exact isAddressChar_tail hpieces
  | case9 => cases h
  | case10 _ _ _ _ cs _ digits _ rest hrest _ _ ih =>
    obtain ⟨front, rest', heq, hall, hfront, hdrop⟩ := exists_pieceDigits cs
    subst hfront
    rw [heq, ← hdrop, hrest]
    intro c hc
    rcases List.mem_append.mp hc with hc | hc
    · exact hall c hc
    · rcases List.mem_cons.mp hc with rfl | hc
      · rfl
      · exact ih h c hc
  | case11 => cases h

theorem isAddressChar_parse {cs : List Char} {pieces : List Nat} (h : parse cs = some pieces) :
    ∀ c ∈ cs, isAddressChar c = true := by
  unfold parse at h
  split at h
  · obtain ⟨p, hp, -⟩ := Option.bind_eq_some_iff.mp h
    intro c hc
    simp only [List.mem_cons] at hc
    rcases hc with rfl | rfl | hc
    · rfl
    · rfl
    · exact isAddressChar_pieces hp c hc
  · cases h
  · cases h
  · cases h
  · obtain ⟨p, hp, -⟩ := Option.bind_eq_some_iff.mp h
    exact isAddressChar_pieces hp

end Ipv6

/-! ## Hosts -/

namespace Host

variable {cs : List Char}

/-- A sign that makes every text that holds it no name. -/
structure IsNoName (c : Char) : Prop where
  refused : Domain.IsRefusedSign c
  hex : Text.hexValue? c = none
  percent : c ≠ '%'

theorem isNoName_bracket : IsNoName '[' := by
  refine ⟨⟨?_, ?_, ⟨?_, ?_⟩, ?_, ?_, ?_⟩, ?_, ?_⟩
  · cbv
  all_goals decide

theorem isNoName_colon : IsNoName ':' := by
  refine ⟨⟨?_, ?_, ⟨?_, ?_⟩, ?_, ?_, ?_⟩, ?_, ?_⟩
  · cbv
  all_goals decide

theorem bracketed?_eq_none (h : cs.head? ≠ some '[') : bracketed? cs = none := by
  unfold bracketed?
  split
  · exact absurd rfl h
  · rfl

theorem toAscii_eq_none {c : Char} (hc : IsNoName c) (h : c ∈ cs) :
    Domain.toAscii (Percent.decode cs) = none := by
  have hascii := hc.refused.single.1
  have hbyte := Percent.mem_decode hascii hc.hex hc.percent h
  cases hdecode : Text.Utf8.decode? (Percent.decode cs) with
  | none =>
    unfold Domain.toAscii
    rw [hdecode]
    rfl
  | some decoded =>
    apply Domain.toAscii_refuses hc.refused hdecode
    have hnat : (UInt8.ofNat c.toNat).toNat = c.toNat := by
      simp
      omega
    have hmem := Text.Utf8.mem_decode? (by rw [hnat]; exact hascii) hbyte hdecode
    rw [hnat, Char.ofNat_toNat] at hmem
    exact hmem

theorem parse_noName {c : Char} (hc : IsNoName c) (h : c ∈ cs) (hbracket : cs.head? ≠ some '[') :
    parse cs = .error .badDomain := by
  unfold parse
  rw [bracketed?_eq_none hbracket, toAscii_eq_none hc h]

theorem parse_nil : parse [] = .error .emptyHost := by
  have hempty : Domain.toAscii (Percent.decode []) = some [] := by decide +kernel
  unfold parse
  rw [bracketed?_eq_none (by simp), hempty]

/-- A host that starts with a bracket closes it at its end, and has an address in between. -/
theorem bracketed_of_parse {host : Host} (h : parse cs = .ok host)
    (hbracket : cs.head? = some '[') :
    ∃ inner, cs = '[' :: (inner ++ [']']) ∧ ∀ c ∈ inner, Ipv6.isAddressChar c = true := by
  obtain ⟨inner, rfl⟩ : ∃ inner, cs = '[' :: inner := by
    cases cs with
    | nil => cases hbracket
    | cons c cs =>
      cases hbracket
      exact ⟨cs, rfl⟩
  change (if inner.getLast? != some ']' then _ else _) = _ at h
  split at h
  · cases h
  · rename_i hlast
    simp only [bne_iff_ne, ne_eq, Decidable.not_not] at hlast
    obtain ⟨inner, rfl⟩ := List.getLast?_eq_some_iff.mp hlast
    rw [List.dropLast_concat] at h
    split at h
    · rename_i pieces hpieces
      exact ⟨inner, rfl, Ipv6.isAddressChar_parse hpieces⟩
    · cases h

/-- What a host looks like: an address in brackets, or a name without brackets and colons. -/
theorem shape_of_parse {host : Host} (h : parse cs = .ok host) :
    (∃ inner, cs = '[' :: (inner ++ [']']) ∧ ']' ∉ inner) ∨
    (cs ≠ [] ∧ '[' ∉ cs ∧ ':' ∉ cs) := by
  by_cases hbracket : cs.head? = some '['
  · obtain ⟨inner, heq, haddress⟩ := bracketed_of_parse h hbracket
    exact .inl ⟨inner, heq, fun hmem => absurd (haddress _ hmem) (by decide)⟩
  · right
    refine ⟨?_, ?_, ?_⟩
    · rintro rfl
      rw [parse_nil] at h
      cases h
    · intro hmem
      rw [parse_noName isNoName_bracket hmem hbracket] at h
      cases h
    · intro hmem
      rw [parse_noName isNoName_colon hmem hbracket] at h
      cases h

/-- A sign that stands in no host: it makes a text no name, and is none of an address. -/
theorem not_mem_of_parse {c : Char} (hc : IsNoName c) (haddress : Ipv6.isAddressChar c = false)
    (hbrackets : c ∉ ['[', ']']) {host : Host} (h : parse cs = .ok host) : c ∉ cs := by
  intro hmem
  by_cases hbracket : cs.head? = some '['
  · obtain ⟨inner, rfl, hinner⟩ := bracketed_of_parse h hbracket
    simp only [List.mem_cons, List.mem_append, List.not_mem_nil, or_false, not_or] at hmem hbrackets
    rcases hmem with rfl | hmem | rfl
    · exact hbrackets.1 rfl
    · rw [hinner c hmem] at haddress
      cases haddress
    · exact hbrackets.2 rfl
  · rw [parse_noName hc hmem hbracket] at h
    cases h

/-- The signs that end an authority, at signs, tabs and line ends stand in no host. -/
theorem plain_of_parse {host : Host} (h : parse cs = .ok host) :
    ∀ c ∈ ['/', '\\', '?', '#', '@', '\t', '\n', '\x0d'], c ∉ cs := by
  intro c hc
  simp only [List.mem_cons, List.not_mem_nil, or_false] at hc
  have hnone : IsNoName c := by
    rcases hc with rfl | rfl | rfl | rfl | rfl | rfl | rfl | rfl
    all_goals
      refine ⟨⟨?_, ?_, ⟨?_, ?_⟩, ?_, ?_, ?_⟩, ?_, ?_⟩
      · cbv
      all_goals decide
  have haddress : Ipv6.isAddressChar c = false ∧ c ∉ ['[', ']'] := by
    rcases hc with rfl | rfl | rfl | rfl | rfl | rfl | rfl | rfl <;> decide
  exact not_mem_of_parse hnone haddress.1 haddress.2 h

end Host

end ResultGateway.Url
