-- The layout of JSON texts. The indented text of a value and its compact
-- text differ in the white space outside quotes only: without that, both are
-- the compact text. So both denote one value, whatever its numbers are.
import ResultGateway.Proofs.Json.Integers
import ResultGateway.Proofs.Json.Written
import ResultGateway.Text.Blank

namespace ResultGateway.Json

/-! ## Texts without white space -/

/-- Where a character of a JSON text stands. -/
inductive Position where
  | outside
  | quoted
  | escaped
deriving DecidableEq

/-- The text from a place on, without the white space outside its quotes. -/
def squeezeFrom : Position → List Char → List Char
  | _, [] => []
  | .outside, c :: cs =>
    if c = '"' then c :: squeezeFrom .quoted cs
    else if Text.isBlank c then squeezeFrom .outside cs
    else c :: squeezeFrom .outside cs
  | .quoted, c :: cs =>
    c :: squeezeFrom (if c = '"' then .outside else if c = '\\' then .escaped else .quoted) cs
  | .escaped, c :: cs => c :: squeezeFrom .quoted cs

/-- The text without the white space outside its quotes. -/
def squeeze (text : String) : String := String.ofList (squeezeFrom .outside text.toList)

/-- A part of a text outside quotes, and what is left of it, whatever follows. -/
def Squeezes (cs left : List Char) : Prop :=
  ∀ rest, squeezeFrom .outside (cs ++ rest) = left ++ squeezeFrom .outside rest

section

variable {cs ds left leftover : List Char}

theorem squeezes_nil : Squeezes [] [] := fun _ => rfl

theorem Squeezes.append (h : Squeezes cs left) (hds : Squeezes ds leftover) :
    Squeezes (cs ++ ds) (left ++ leftover) := by
  intro rest
  rw [List.append_assoc, h, hds, List.append_assoc]

/-- A character that stays. -/
def IsMark (c : Char) : Prop := c ≠ '"' ∧ Text.isBlank c = false

instance (c : Char) : Decidable (IsMark c) := inferInstanceAs (Decidable (_ ∧ _))

theorem Squeezes.cons {c : Char} (hc : IsMark c) (h : Squeezes cs left) :
    Squeezes (c :: cs) (c :: left) := by
  intro rest
  rw [List.cons_append, squeezeFrom, if_neg hc.1, if_neg (by simp [hc.2]), h, List.cons_append]

theorem squeezes_marks (h : ∀ c ∈ cs, IsMark c) : Squeezes cs cs := by
  induction cs with
  | nil => exact squeezes_nil
  | cons c cs ih =>
    exact .cons (h c List.mem_cons_self) (ih fun d hd => h d (List.mem_cons_of_mem c hd))

theorem Squeezes.between {c d : Char} (hc : IsMark c) (hd : IsMark d) (h : Squeezes cs left) :
    Squeezes (c :: (cs ++ [d])) (c :: (left ++ [d])) :=
  .cons hc (h.append (.cons hd squeezes_nil))

theorem blank_of_isSpace {c : Char} (h : isSpace c = true) :
    c ≠ '"' ∧ Text.isBlank c = true := by
  simp only [isSpace, Bool.or_eq_true, beq_iff_eq] at h
  rcases h with ((rfl | rfl) | rfl) | rfl <;> decide

theorem squeezes_blank (h : IsBlank cs) : Squeezes cs [] := by
  induction cs with
  | nil => exact squeezes_nil
  | cons c cs ih =>
    intro rest
    obtain ⟨hquote, hblank⟩ := blank_of_isSpace (h c List.mem_cons_self)
    rw [List.cons_append, squeezeFrom, if_neg hquote, if_pos hblank]
    exact ih (fun d hd => h d (List.mem_cons_of_mem c hd)) rest

end

/-! ## Texts in quotes -/

theorem plain_of_hexValue {c : Char} {n : Nat} (h : Text.hexValue? c = some n) :
    c ≠ '"' ∧ c ≠ '\\' := by
  have hnone : Text.hexValue? '"' = none ∧ Text.hexValue? '\\' = none := by decide
  constructor <;> rintro rfl
  · rw [hnone.1] at h
    cases h
  · rw [hnone.2] at h
    cases h

theorem hexWord_digits {a b c d : Char} {n : Nat} (h : hexWord? a b c d = some n) :
    (a ≠ '"' ∧ a ≠ '\\') ∧ (b ≠ '"' ∧ b ≠ '\\') ∧ (c ≠ '"' ∧ c ≠ '\\') ∧ (d ≠ '"' ∧ d ≠ '\\') := by
  unfold hexWord? at h
  simp only [Option.bind_eq_bind, Option.bind_eq_some_iff] at h
  obtain ⟨_, ha, _, hb, _, hc, _, hd, -⟩ := h
  exact ⟨plain_of_hexValue ha, plain_of_hexValue hb, plain_of_hexValue hc, plain_of_hexValue hd⟩

theorem squeezeFrom_plain {c : Char} (h : c ≠ '"' ∧ c ≠ '\\') (cs : List Char) :
    squeezeFrom .quoted (c :: cs) = c :: squeezeFrom .quoted cs := by
  rw [squeezeFrom, if_neg h.1, if_neg h.2]

theorem squeezeFrom_escape (c : Char) (cs : List Char) :
    squeezeFrom .quoted ('\\' :: c :: cs) = '\\' :: c :: squeezeFrom .quoted cs := by
  rw [squeezeFrom, if_neg (by decide), if_pos rfl, squeezeFrom]

/-- Nothing between quotes is left out. -/
theorem squeezeFrom_chars {s cs : List Char} (h : SpellsChars s cs) (rest : List Char) :
    squeezeFrom .quoted (cs ++ '"' :: rest) = cs ++ '"' :: squeezeFrom .outside rest := by
  have hword : ∀ {a b c d : Char} {n : Nat} (more : List Char), hexWord? a b c d = some n →
      squeezeFrom .quoted ('\\' :: 'u' :: a :: b :: c :: d :: more) =
        '\\' :: 'u' :: a :: b :: c :: d :: squeezeFrom .quoted more := by
    intro a b c d n more hn
    obtain ⟨ha, hb, hc, hd⟩ := hexWord_digits hn
    rw [squeezeFrom_escape, squeezeFrom_plain ha, squeezeFrom_plain hb, squeezeFrom_plain hc,
      squeezeFrom_plain hd]
  induction h with
  | nil => rw [List.nil_append, squeezeFrom, if_pos rfl, List.nil_append]
  | plain _ hquote hbackslash _ ih =>
    rw [List.cons_append, squeezeFrom_plain ⟨hquote, hbackslash⟩, ih, List.cons_append]
  | short _ _ ih =>
    simp only [List.cons_append]
    rw [squeezeFrom_escape, ih]
  | word hescape _ _ _ ih =>
    simp only [List.cons_append]
    rw [hword _ hescape, ih]
  | pair hfirst _ hsecond _ _ ih =>
    simp only [List.cons_append]
    rw [hword _ hfirst, hword _ hsecond, ih]

theorem squeezes_text {s : String} {cs : List Char} (h : SpellsText s cs) : Squeezes cs cs := by
  intro rest
  obtain ⟨hchars⟩ := h
  rw [List.cons_append, List.append_assoc, List.singleton_append, squeezeFrom, if_pos rfl,
    squeezeFrom_chars hchars]
  simp only [List.cons_append, List.append_assoc, List.nil_append]

/-! ## Numbers -/

theorem isMark_of_isDigit {c : Char} (h : Text.isDigit c = true) : IsMark c := by
  refine ⟨?_, ?_⟩
  · rintro rfl
    exact absurd h (by decide)
  · have hlow : 48 ≤ c.toNat ∧ c.toNat ≤ 57 := by
      simpa [Text.isDigit, Char.le_def, UInt32.le_iff_toNat_le] using h
    simp [Text.isBlank, Text.blankRanges]
    omega

theorem squeezes_number (n : Number) : Squeezes n.text n.text := by
  obtain ⟨l, htext, -⟩ := n.exists_literal
  refine squeezes_marks (htext.forall_mem (fun c => isMark_of_isDigit) ?_ (by decide) (by decide)
    (by decide))
  intro c hc
  simp only [isExponentMark, Bool.or_eq_true, beq_iff_eq] at hc
  rcases hc with rfl | rfl <;> decide

/-! ## Lists and objects -/

section

variable {gap : List Char}

/-- Of items that are laid out one after the other, the items and the commas are left. -/
theorem squeezes_laidItems (w : Json → List Char) (lay : List Json → List Char)
    (hgap : IsBlank gap) (hone : ∀ item, lay [item] = w item)
    (hmore : ∀ item next rest, lay (item :: next :: rest) =
      w item ++ ',' :: (gap ++ lay (next :: rest)))
    (item : Json) (rest : List Json)
    (h : ∀ other ∈ item :: rest, Squeezes (w other) other.write) :
    Squeezes (lay (item :: rest)) (writeItems (item :: rest)) := by
  induction rest generalizing item with
  | nil =>
    rw [hone]
    exact h item List.mem_cons_self
  | cons next rest ih =>
    rw [hmore]
    refine (h item List.mem_cons_self).append (.cons (by decide) ?_)
    exact (squeezes_blank hgap).append
      (ih next fun other hother => h other (List.mem_cons_of_mem _ hother))

/-- The same for the members of an object, with blanks behind each colon. -/
theorem squeezes_laidMembers (w : Json → List Char) (lay : List (String × Json) → List Char)
    {after : List Char} (hafter : IsBlank after) (hgap : IsBlank gap)
    (hone : ∀ name value, lay [(name, value)] = writeText name ++ ':' :: (after ++ w value))
    (hmore : ∀ name value next rest, lay ((name, value) :: next :: rest) =
      writeText name ++ ':' :: (after ++ (w value ++ ',' :: (gap ++ lay (next :: rest)))))
    (member : String × Json) (rest : List (String × Json))
    (h : ∀ other ∈ member :: rest, Squeezes (w other.2) other.2.write) :
    Squeezes (lay (member :: rest)) (writeMembers (member :: rest)) := by
  have hnamed : ∀ other ∈ member :: rest,
      Squeezes (writeText other.1 ++ ':' :: (after ++ w other.2))
        (writeText other.1 ++ ':' :: other.2.write) := by
    intro other hother
    exact (squeezes_text (spellsText_writeText other.1)).append
      (.cons (by decide) ((squeezes_blank hafter).append (h other hother)))
  clear h
  induction rest generalizing member with
  | nil =>
    rw [hone]
    exact hnamed member List.mem_cons_self
  | cons next rest ih =>
    have hrest := ih next fun other hother => hnamed other (List.mem_cons_of_mem _ hother)
    have hcut : lay (member :: next :: rest) = writeText member.1 ++ ':' :: (after ++ w member.2)
        ++ ',' :: (gap ++ lay (next :: rest)) := by
      rw [hmore]
      simp only [List.append_assoc, List.cons_append]
    rw [hcut]
    exact (hnamed member List.mem_cons_self).append
      (.cons (by decide) ((squeezes_blank hgap).append hrest))

end

/-! ## Values -/

theorem squeezes_null : Squeezes ['n', 'u', 'l', 'l'] ['n', 'u', 'l', 'l'] :=
  .cons (by decide) (.cons (by decide) (.cons (by decide) (.cons (by decide) squeezes_nil)))

theorem squeezes_bool (b : Bool) : Squeezes (writeBool b) (writeBool b) := by
  cases b with
  | true =>
    exact .cons (by decide) (.cons (by decide) (.cons (by decide) (.cons (by decide) squeezes_nil)))
  | false =>
    exact .cons (by decide) (.cons (by decide) (.cons (by decide) (.cons (by decide)
      (.cons (by decide) squeezes_nil))))

theorem Squeezes.list {cs left : List Char} (h : Squeezes cs left) :
    Squeezes ('[' :: (cs ++ [']'])) ('[' :: (left ++ [']'])) :=
  h.between (by decide) (by decide)

theorem Squeezes.object {cs left : List Char} (h : Squeezes cs left) :
    Squeezes ('\x7b' :: (cs ++ ['\x7d'])) ('\x7b' :: (left ++ ['\x7d'])) :=
  h.between (by decide) (by decide)

/-- Lines inside brackets, of which the brackets are on lines of their own. -/
theorem Squeezes.lines {cs left : List Char} (h : Squeezes cs left) (level : Nat) :
    Squeezes (newLine (level + 1) ++ cs ++ newLine level) left := by
  have hlines := ((squeezes_blank (isBlank_newLine (level + 1))).append h).append
    (squeezes_blank (isBlank_newLine level))
  rwa [List.nil_append, List.append_nil] at hlines

/-- Nothing is left out of a compact text. -/
theorem squeezes_write (j : Json) : Squeezes j.write j.write := by
  obtain ⟨depth, h⟩ := exists_within j
  induction h with
  | null => exact squeezes_null
  | bool b => exact squeezes_bool b
  | num => exact squeezes_number _
  | str s => exact squeezes_text (spellsText_writeText s)
  | @arr _ items _ ih =>
    cases items with
    | nil => exact squeezes_nil.list
    | cons item rest =>
      exact (squeezes_laidItems write writeItems isBlank_nil (fun _ => rfl) (fun _ _ _ => rfl)
        item rest ih).list
  | @obj _ members _ ih =>
    cases members with
    | nil => exact squeezes_nil.object
    | cons member rest =>
      exact (squeezes_laidMembers write writeMembers isBlank_nil isBlank_nil (fun _ _ => rfl)
        (fun _ _ _ _ => by simp [writeMembers]) member rest ih).object

/-- Of an indented text, the compact one is left. -/
theorem squeezes_writeIndented (j : Json) (level : Nat) :
    Squeezes (j.writeIndented level) j.write := by
  obtain ⟨depth, h⟩ := exists_within j
  induction h generalizing level with
  | null => exact squeezes_null
  | bool b => exact squeezes_bool b
  | num => exact squeezes_number _
  | str s => exact squeezes_text (spellsText_writeText s)
  | @arr _ items _ ih =>
    cases items with
    | nil => exact squeezes_nil.list
    | cons item rest =>
      have hitems := squeezes_laidItems (writeIndented (level + 1))
        (writeIndentedItems (level + 1)) (isBlank_newLine (level + 1)) (fun _ => rfl)
        (fun _ _ _ => by simp [writeIndentedItems]) item rest
        fun other hother => ih other hother (level + 1)
      exact (hitems.lines level).list
  | @obj _ members _ ih =>
    cases members with
    | nil => exact squeezes_nil.object
    | cons member rest =>
      have hmembers := squeezes_laidMembers (writeIndented (level + 1))
        (writeIndentedMembers (level + 1)) isBlank_space (isBlank_newLine (level + 1))
        (fun _ _ => rfl) (fun _ _ _ _ => by simp [writeIndentedMembers]) member rest
        fun other hother => ih other hother (level + 1)
      exact (hmembers.lines level).object

/-! ## One value -/

/-- A literal that a number is written as. -/
def Literal.Writes (l : Literal) (n : Number) : Prop := l.IsText n.text

/-- A text is that of one number only. -/
theorem number_of_isText {l l' : Literal} {cs : List Char} (h : l.IsText cs)
    (h' : l'.IsText cs) : l.number = l'.number := by
  have hread := toOption_number_append h isBlank_nil.endsNumber
  have hread' := toOption_number_append h' isBlank_nil.endsNumber
  rw [hread] at hread'
  have hgiven : l.number.given? = l'.number.given? := by
    rw [given?_number, given?_number]
    exact Option.map_injective (fun _ _ heq => congrArg Prod.fst heq) hread'
  cases hnone : l.number.given? with
  | none =>
    rw [eq_outOfRange hnone]
    exact (eq_outOfRange (hgiven ▸ hnone)).symm
  | some n =>
    rw [eq_of_given? hnone]
    exact (eq_of_given? (hgiven ▸ hnone)).symm

theorem denoted_unique (n m m' : Number) (h : Denoted Literal.Writes n m)
    (h' : Denoted Literal.Writes n m') : m = m' := by
  obtain ⟨l, hl, rfl⟩ := h
  obtain ⟨l', hl', rfl⟩ := h'
  exact number_of_isText hl hl'

/-- Two lists that are related to a third one place by place are equal, if each place settles what
is related to it. -/
theorem eq_of_zips {α β : Type} {R : α → β → Prop} {as : List α} {bs cs : List β}
    (hbs : as.length = bs.length) (hcs : as.length = cs.length)
    (hsettled : ∀ pair ∈ as.zip bs, ∀ c, R pair.1 c → pair.2 = c)
    (h : ∀ pair ∈ as.zip cs, R pair.1 pair.2) : bs = cs := by
  induction as generalizing bs cs with
  | nil =>
    obtain rfl := List.eq_nil_of_length_eq_zero hbs.symm
    exact (List.eq_nil_of_length_eq_zero hcs.symm).symm
  | cons a as ih =>
    obtain ⟨b, bs, rfl⟩ := List.exists_cons_of_length_eq_add_one hbs.symm
    obtain ⟨c, cs, rfl⟩ := List.exists_cons_of_length_eq_add_one hcs.symm
    rw [List.zip_cons_cons, List.forall_mem_cons] at hsettled h
    have hfirst : b = c := hsettled.1 c h.1
    rw [hfirst, ih (by simpa using hbs) (by simpa using hcs) hsettled.2 h.2]

/-- A value is alike to one value only, where each number differs to one number only. -/
theorem Alike.unique {differ : Number → Number → Prop}
    (hdiffer : ∀ n m m', differ n m → differ n m' → m = m') {j i i' : Json}
    (h : Alike differ j i) (h' : Alike differ j i') : i = i' := by
  induction h generalizing i' with
  | null => cases h'; rfl
  | bool b => cases h'; rfl
  | num hn =>
    cases h' with
    | num hn' => rw [hdiffer _ _ _ hn hn']
  | str s => cases h'; rfl
  | arr hlength _ ih =>
    cases h' with
    | arr hlength' h' => rw [eq_of_zips hlength hlength' (fun pair hpair c => ih pair hpair) h']
  | @obj members others hnames _ ih =>
    cases h' with
    | @obj _ others' hnames' h' =>
      have hothers : others = others' := by
        refine eq_of_zips (length_of_names hnames) (length_of_names hnames')
          (R := fun member other => member.1 = other.1 ∧ Alike differ member.2 other.2) ?_ ?_
        · rintro pair hpair other ⟨hname, halike⟩
          have hown := eq_of_mem_zip hnames hpair
          exact Prod.ext (hown.symm.trans hname) (ih pair hpair halike)
        · exact fun pair hpair => ⟨eq_of_mem_zip hnames' hpair, h' pair hpair⟩
      rw [hothers]

/-- Both texts of a value denote one value, which differs from it in its numbers at most: each is
the one that its text denotes. -/
theorem exists_denoted_layouts (j : Json) : ∃ i, Alike (Denoted Literal.Writes) j i ∧
    Denotes j.compact i ∧ Denotes j.indented i := by
  obtain ⟨depth, hwithin⟩ := exists_within j
  have hnumber : ∀ n : Number, True → ∃ l : Literal, l.IsText n.text ∧ l.Writes n := by
    intro n _
    obtain ⟨l, htext, -⟩ := n.exists_literal
    exact ⟨l, htext, htext⟩
  have hwhole : ∀ cs i, Spells Literal.Denotes i cs → Denotes (String.ofList cs) i := by
    intro cs i hi
    refine ⟨[], cs, [], ?_, isBlank_nil, isBlank_nil, hi⟩
    rw [String.toList_ofList, List.nil_append, List.append_nil]
  obtain ⟨i, halike, hi⟩ := exists_denoted (spells_write hnumber hwithin)
  obtain ⟨i', halike', hi'⟩ := exists_denoted (spells_writeIndented hnumber hwithin 0)
  cases halike.unique denoted_unique halike'
  exact ⟨i, halike, hwhole _ i hi, hwhole _ i hi'⟩

/-- A line end behind a text changes nothing of what it denotes. -/
theorem Denotes.line {text : String} {j : Json} (h : Denotes text j) : Denotes (text ++ "\n") j := by
  obtain ⟨lead, inside, trail, htext, hlead, htrail, hspelled⟩ := h
  refine ⟨lead, inside, trail ++ ['\n'], ?_, hlead, ?_, hspelled⟩
  · rw [String.toList_append, htext]
    simp only [List.append_assoc]
    rfl
  · exact List.forall_mem_append.mpr ⟨htrail, List.forall_mem_singleton.mpr rfl⟩

/-- Both texts are the same without white space outside quotes. -/
theorem squeeze_line (j : Json) :
    squeeze (j.compact ++ "\n") = j.compact ∧ squeeze (j.indented ++ "\n") = j.compact := by
  have hend : squeezeFrom .outside "\n".toList = [] := by decide
  unfold squeeze compact indented
  simp only [String.toList_append, String.toList_ofList, squeezes_write j _,
    squeezes_writeIndented j 0 _, hend, List.append_nil, and_self]

end ResultGateway.Json
