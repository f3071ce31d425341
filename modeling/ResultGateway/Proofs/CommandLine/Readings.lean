-- How arguments are read, and what one more of them changes. A value that
-- is pending may be accepted early or late. So where a parameter may be
-- named, it can be named with a value whatever comes behind it, and the
-- values of all others are what they were. If it refuses the value, the
-- arguments are refused.
import ResultGateway.CommandLine.Command

namespace ResultGateway.CommandLine

/-! ## Accepted values -/

namespace Scan

variable {s t : Scan} {p q : Parameter} {value other : String}

theorem accept_eq_ok : s.accept p value = .ok t ↔ s.isGiven p = false ∧
    p.form.fault? value = none ∧ t = { s with given := s.given ++ [(p, value)] } := by
  unfold accept
  cases s.isGiven p with
  | true => simp
  | false =>
    cases p.form.fault? value with
    | some fault => simp
    | none => simp [eq_comm]

theorem settle_eq_ok : s.settle = .ok t ↔ (s.pending = none ∧ t = s) ∨
    ∃ p value, s.pending = some (p, some value) ∧
      { s with pending := none }.accept p value = .ok t := by
  unfold settle
  cases s.pending with
  | none => simp [eq_comm]
  | some pending =>
    obtain ⟨p, value⟩ := pending
    cases value with
    | none => simp
    | some value =>
      simp only [reduceCtorEq, false_and, false_or, Option.some.injEq, Prod.mk.injEq]
      constructor
      · exact fun h => ⟨p, value, ⟨rfl, rfl⟩, h⟩
      · rintro ⟨_, _, ⟨rfl, rfl⟩, h⟩
        exact h

/-- Nothing is pending in what is settled, and it has the values that were given and at most the
one that was pending. -/
theorem of_settle (h : s.settle = .ok t) : t.pending = none ∧ t.isEscaped = s.isEscaped ∧
    s.awaiting? = none ∧ ∃ later, t.given = s.given ++ later ∧
      ∀ x ∈ later, x.1.form.fault? x.2 = none ∧ s.pending.map Prod.fst = some x.1 := by
  unfold awaiting?
  rcases settle_eq_ok.mp h with ⟨hnone, rfl⟩ | ⟨p, value, hsome, haccept⟩
  · rw [hnone]
    exact ⟨rfl, rfl, rfl, [], (List.append_nil _).symm, by simp⟩
  · obtain ⟨-, hfault, rfl⟩ := accept_eq_ok.mp haccept
    rw [hsome]
    refine ⟨rfl, rfl, rfl, [(p, value)], rfl, ?_⟩
    intro x hx
    rw [List.mem_singleton.mp hx]
    exact ⟨hfault, rfl⟩

theorem settle_pending (h : s.pending = none) :
    { s with pending := some (p, some value) }.settle = s.accept p value := by
  obtain ⟨given, pending, isFilled, isEscaped⟩ := s
  cases h
  rfl

theorem settle_settle (h : s.settle = .ok t) : t.settle = .ok t :=
  settle_eq_ok.mpr (.inl ⟨(of_settle h).1, rfl⟩)

theorem accept_escaped (s : Scan) : { s with isEscaped := true }.accept p value =
    (s.accept p value).map fun t => { t with isEscaped := true } := by
  have hgiven : { s with isEscaped := true }.isGiven p = s.isGiven p := rfl
  unfold accept
  rw [hgiven]
  cases s.isGiven p with
  | true => rfl
  | false => cases p.form.fault? value <;> rfl

/-- A mark that all the rest are values makes no difference to a value that is pending. -/
theorem settle_escaped (s : Scan) : { s with isEscaped := true }.settle =
    s.settle.map fun t => { t with isEscaped := true } := by
  obtain ⟨given, pending, isFilled, isEscaped⟩ := s
  rcases pending with _ | ⟨p, _ | value⟩
  · rfl
  · rfl
  · exact accept_escaped ⟨given, none, isFilled, isEscaped⟩

end Scan

/-! ## One argument -/

namespace Grammar

/-- A grammar of named parameters alone. -/
structure IsNamed (g : Grammar) : Prop where
  unnamed : g.unnamed = none
  commands : g.commands = []

/-- What an argument leads to when it does not end the reading. -/
inductive Goes (g : Grammar) (s : Scan) (arg : String) : Scan → Prop where
  | escape (word : Word.ofChars arg.toList = .escape) : Goes g s arg { s with isEscaped := true }
  | value {p : Parameter} (word : Word.ofChars arg.toList = .plain)
      (awaits : s.awaiting? = some p) : Goes g s arg { s with pending := some (p, some arg) }
  | name {p : Parameter} {name : String} {settled : Scan}
      (word : Word.ofChars arg.toList = .long name none)
      (found : (g.named.find? fun p => p.name == name) = some p)
      (settles : s.settle = .ok settled) : Goes g s arg { settled with pending := some (p, none) }
  | both {p : Parameter} {name value : String} {settled t : Scan}
      (word : Word.ofChars arg.toList = .long name (some value))
      (found : (g.named.find? fun p => p.name == name) = some p)
      (settles : s.settle = .ok settled) (accepts : settled.accept p value = .ok t) : Goes g s arg t

section

variable (g : Grammar) {s : Scan} {e : UsageError} (h : s.settle = .error e)

include h

theorem flag_unsettled (name : String) (value : Option String) (step : Step) :
    ∃ e', flag s name value step = .error e' := by
  unfold flag
  rw [h]
  cases value <;> exact ⟨_, rfl⟩

theorem long_unsettled (name : String) (value : Option String) :
    ∃ e', g.long s name value = .error e' := by
  unfold long
  rw [h]
  split
  · exact ⟨e, rfl⟩
  · split
    · exact flag_unsettled h name value .help
    · split
      · exact flag_unsettled h name value .version
      · exact ⟨_, rfl⟩

theorem short_unsettled (letter : Char) : ∃ e', g.short s letter = .error e' := by
  unfold short
  split
  · exact flag_unsettled h "help" none .help
  · split
    · exact flag_unsettled h "version" none .version
    · exact ⟨_, rfl⟩

end

section

variable {g : Grammar} (hg : g.IsNamed) {s t : Scan} {arg : String}

include hg

theorem place_refuses : g.place s arg = .error (.unexpectedArgument arg) := by
  unfold place
  rw [hg.unnamed, hg.commands]
  rfl

theorem step_escaped (h : s.isEscaped = true) :
    g.step s arg = .error (.unexpectedArgument arg) := by
  unfold step
  rw [if_pos h]
  exact place_refuses hg

theorem step_open (h : s.isEscaped = false) : g.step s arg =
    match Word.ofChars arg.toList with
    | .escape => .ok (.more { s with isEscaped := true })
    | .long name value => g.long s name value
    | .short letter => g.short s letter
    | .plain =>
      match s.awaiting? with
      | some p => .ok (.more { s with pending := some (p, some arg) })
      | none => .error (.unexpectedArgument arg) := by
  have hcommand : (s.awaiting?.isNone && [].contains arg) = false := Bool.and_false _
  unfold step
  rw [hg.commands, h, hcommand]
  cases Word.ofChars arg.toList with
  | plain =>
    cases s.awaiting? with
    | none => exact place_refuses hg
    | some p => rfl
  | escape => rfl
  | long name value => rfl
  | short letter => rfl

theorem step_eq_more :
    g.step s arg = .ok (.more t) ↔ s.isEscaped = false ∧ g.Goes s arg t := by
  have hflag : ∀ name value step, (∀ t, step ≠ Step.more t) →
      flag s name value step ≠ .ok (.more t) := by
    intro name value step hstep h
    unfold flag at h
    split at h
    · cases h
    · split at h
      · cases h
      · cases h
        exact hstep t rfl
  cases hescaped : s.isEscaped with
  | true =>
    rw [step_escaped hg hescaped]
    simp
  | false =>
    rw [step_open hg hescaped]
    constructor
    · intro h
      refine ⟨rfl, ?_⟩
      split at h
      · rename_i hword
        cases h
        exact .escape hword
      · rename_i name value hword
        unfold long at h
        split at h
        · rename_i p hfound
          split at h
          · cases h
          · rename_i settled hsettles
            split at h
            · cases h
              exact .name hword hfound hsettles
            · cases haccepts : settled.accept p _ with
              | error e =>
                rw [haccepts] at h
                cases h
              | ok t' =>
                rw [haccepts] at h
                cases h
                exact .both hword hfound hsettles haccepts
        · split at h
          · exact absurd h (hflag _ _ _ nofun)
          · split at h
            · exact absurd h (hflag _ _ _ nofun)
            · cases h
      · unfold short at h
        split at h
        · exact absurd h (hflag _ _ _ nofun)
        · split at h
          · exact absurd h (hflag _ _ _ nofun)
          · cases h
      · rename_i hword
        split at h
        · rename_i p hawaits
          cases h
          exact .value hword hawaits
        · cases h
    · rintro ⟨-, hgoes⟩
      cases hgoes with
      | escape hword => rw [hword]
      | value hword hawaits =>
        rw [hword]
        dsimp only
        rw [hawaits]
      | name hword hfound hsettles =>
        rw [hword]
        dsimp only [long]
        rw [hfound, hsettles]
      | both hword hfound hsettles haccepts =>
        rw [hword]
        dsimp only [long]
        rw [hfound, hsettles]
        dsimp only
        rw [haccepts]
        rfl

end

/-! ## All arguments -/

/-- Arguments that are read up to their end, and the values that they give. -/
inductive Reads (g : Grammar) : Scan → List String → Scan → Prop where
  | done {s t : Scan} (settles : s.settle = .ok t) : Reads g s [] t
  | more {s next t : Scan} {arg : String} {rest : List String} (unescaped : s.isEscaped = false)
      (goes : g.Goes s arg next) (reads : Reads g next rest t) : Reads g s (arg :: rest) t

/-- Behind the mark that all the rest are values, a grammar without places reads nothing. -/
theorem Reads.of_escaped {g : Grammar} {args : List String} {s t : Scan} (h : s.isEscaped = true)
    (hreads : g.Reads s args t) : args = [] ∧ s.settle = .ok t := by
  cases hreads with
  | done hsettles => exact ⟨rfl, hsettles⟩
  | more hopen =>
    rw [h] at hopen
    cases hopen

section

variable {g : Grammar} (hg : g.IsNamed)

include hg

theorem read_eq_values {args : List String} {s t : Scan} :
    g.read s args = .ok (.values t) ↔ g.Reads s args t := by
  induction args generalizing s with
  | nil =>
    rw [read]
    constructor
    · intro h
      cases hsettles : s.settle with
      | error e =>
        rw [hsettles] at h
        cases h
      | ok t' =>
        rw [hsettles] at h
        cases h
        exact .done hsettles
    · rintro ⟨hsettles⟩
      rw [hsettles]
      rfl
  | cons arg rest ih =>
    rw [read]
    constructor
    · intro h
      split at h
      · cases h
      · rename_i next hstep
        obtain ⟨hescaped, hgoes⟩ := (step_eq_more hg).mp hstep
        exact .more hescaped hgoes (ih.mp h)
      · cases h
      · cases h
      · cases h
    · intro h
      cases h with
      | more hescaped hgoes hreads =>
        rw [(step_eq_more hg).mpr ⟨hescaped, hgoes⟩]
        exact ih.mpr hreads

/-- Arguments that are read up to their end may have others behind them. -/
theorem read_append {front : List String} {s t : Scan} (h : g.Reads s front t) :
    ∃ last, last.settle = .ok t ∧ last.isEscaped = t.isEscaped ∧
      ∀ back, g.read s (front ++ back) = g.read last back := by
  induction h with
  | done hsettles => exact ⟨_, hsettles, (Scan.of_settle hsettles).2.1.symm, fun _ => rfl⟩
  | more hescaped hgoes _ ih =>
    obtain ⟨last, hsettles, hlast, hread⟩ := ih
    refine ⟨last, hsettles, hlast, fun back => ?_⟩
    rw [List.cons_append, read, (step_eq_more hg).mpr ⟨hescaped, hgoes⟩]
    exact hread back

/-- A value that is pending and that its parameter refuses is refused at the latest at the end. -/
theorem read_unsettled {args : List String} {s : Scan} {e : UsageError}
    (h : s.settle = .error e) (hawaits : s.awaiting? = none) :
    ∃ e', g.read s args = .error e' := by
  cases args with
  | nil => exact ⟨e, by rw [read, h]; rfl⟩
  | cons arg rest =>
    rw [read]
    cases hopen : s.isEscaped with
    | true => exact ⟨_, by rw [step_escaped hg hopen]⟩
    | false =>
      rw [step_open hg hopen]
      cases Word.ofChars arg.toList with
      | escape =>
        dsimp only
        cases rest with
        | nil => exact ⟨e, by rw [read, Scan.settle_escaped, h]; rfl⟩
        | cons other rest => exact ⟨_, by rw [read, step_escaped hg rfl]⟩
      | long name value =>
        obtain ⟨e', he'⟩ := g.long_unsettled h name value
        exact ⟨e', by dsimp only; rw [he']⟩
      | short letter =>
        obtain ⟨e', he'⟩ := g.short_unsettled h letter
        exact ⟨e', by dsimp only; rw [he']⟩
      | plain =>
        dsimp only
        rw [hawaits]
        exact ⟨_, rfl⟩

end

/-- It makes no difference whether a value that is pending is accepted at once. -/
theorem Reads.of_settled {g : Grammar} {args : List String} {s t settled u : Scan}
    (hs : s.settle = .ok settled) (ht : t.settle = .ok settled) (h : g.Reads s args u) :
    g.Reads t args u := by
  have hescaped : t.isEscaped = s.isEscaped :=
    (Scan.of_settle ht).2.1.symm.trans (Scan.of_settle hs).2.1
  cases h with
  | done hsettles => exact .done (by rw [ht, ← hs, hsettles])
  | more hopen hgoes hreads =>
    have hopen' := hescaped.trans hopen
    cases hgoes with
    | escape hword =>
      obtain ⟨rfl, hlast⟩ := hreads.of_escaped rfl
      refine .more hopen' (.escape hword) (.done ?_)
      rw [Scan.settle_escaped, ht, ← hs, ← Scan.settle_escaped, hlast]
    | value hword hawaits =>
      rw [(Scan.of_settle hs).2.2.1] at hawaits
      cases hawaits
    | name hword hfound hsettles =>
      exact .more hopen' (.name hword hfound (ht.trans (hs.symm.trans hsettles))) hreads
    | both hword hfound hsettles haccepts =>
      exact .more hopen' (.both hword hfound (ht.trans (hs.symm.trans hsettles)) haccepts) hreads

end Grammar

/-! ## What is given in the end -/

namespace Scan

/-- A parameter of a name has a value. -/
def Has (s : Scan) (name : String) : Prop := ∃ x ∈ s.given, x.1.name = name

/-- All values are accepted ones of named parameters, and so is the parameter that waits. -/
structure IsOf (s : Scan) (g : Grammar) : Prop where
  given : ∀ x ∈ s.given, x.1 ∈ g.named ∧ x.1.form.fault? x.2 = none
  pending : ∀ p value, s.pending = some (p, value) → p ∈ g.named

variable {s t : Scan} {p : Parameter} {value name : String} {g : Grammar}

theorem isGiven_iff : s.isGiven p = true ↔ s.Has p.name := by
  unfold isGiven Has
  simp

theorem Has.of_accept (hhas : s.Has name) (h : s.accept p value = .ok t) : t.Has name := by
  obtain ⟨x, hx, hname⟩ := hhas
  obtain ⟨-, -, rfl⟩ := accept_eq_ok.mp h
  exact ⟨x, List.mem_append_left _ hx, hname⟩

theorem Has.of_settle (hhas : s.Has name) (h : s.settle = .ok t) : t.Has name := by
  rcases settle_eq_ok.mp h with ⟨-, rfl⟩ | ⟨p, value, -, haccept⟩
  · exact hhas
  · exact Has.of_accept (s := { s with pending := none }) hhas haccept

theorem IsOf.accept (hs : s.IsOf g) (hp : p ∈ g.named) (h : s.accept p value = .ok t) :
    t.IsOf g := by
  obtain ⟨-, hfault, rfl⟩ := accept_eq_ok.mp h
  refine ⟨?_, hs.pending⟩
  intro x hx
  rcases List.mem_append.mp hx with hx | hx
  · exact hs.given x hx
  · rw [List.mem_singleton.mp hx]
    exact ⟨hp, hfault⟩

theorem IsOf.settle (hs : s.IsOf g) (h : s.settle = .ok t) : t.IsOf g := by
  rcases settle_eq_ok.mp h with ⟨-, rfl⟩ | ⟨p, value, hpending, haccept⟩
  · exact hs
  · exact IsOf.accept (s := { s with pending := none }) ⟨hs.given, nofun⟩
      (hs.pending p _ hpending) haccept

end Scan

namespace Grammar

section

variable {g : Grammar} {s t : Scan} {arg name : String} {args : List String}

theorem Goes.has (h : g.Goes s arg t) (hhas : s.Has name) : t.Has name := by
  cases h with
  | escape => exact hhas
  | value => exact hhas
  | name _ _ hsettles =>
    obtain ⟨x, hx, hname⟩ := hhas.of_settle hsettles
    exact ⟨x, hx, hname⟩
  | both _ _ hsettles haccepts => exact (hhas.of_settle hsettles).of_accept haccepts

theorem Reads.has (h : g.Reads s args t) (hhas : s.Has name) : t.Has name := by
  induction h with
  | done hsettles => exact hhas.of_settle hsettles
  | more _ hgoes _ ih => exact ih (hgoes.has hhas)

theorem Goes.isOf (h : g.Goes s arg t) (hs : s.IsOf g) : t.IsOf g := by
  cases h with
  | escape => exact ⟨hs.given, hs.pending⟩
  | value _ hawaits =>
    refine ⟨hs.given, ?_⟩
    rintro _ _ ⟨⟩
    unfold Scan.awaiting? at hawaits
    split at hawaits
    · rename_i hpending
      cases hawaits
      exact hs.pending _ _ hpending
    · cases hawaits
  | name _ hfound hsettles =>
    refine ⟨(hs.settle hsettles).given, ?_⟩
    rintro _ _ ⟨⟩
    exact List.mem_of_find?_eq_some hfound
  | both _ hfound hsettles haccepts =>
    exact (hs.settle hsettles).accept (List.mem_of_find?_eq_some hfound) haccepts

theorem Reads.isOf (h : g.Reads s args t) (hs : s.IsOf g) : t.IsOf g := by
  induction h with
  | done hsettles => exact hs.settle hsettles
  | more _ hgoes _ ih => exact ih (hgoes.isOf hs)

end

end Grammar

/-! ## One value more -/

namespace Scan

/-- The same with one value more, which is accepted. -/
structure Widens (p : Parameter) (value : String) (s t : Scan) : Prop where
  given : ∃ front back, s.given = front ++ back ∧ t.given = front ++ (p, value) :: back
  pending : t.pending = s.pending
  isEscaped : t.isEscaped = s.isEscaped

variable {p q : Parameter} {value other : String} {s s' t : Scan}

theorem Widens.isGiven (h : Widens p value s t) (hq : q.name ≠ p.name) :
    t.isGiven q = s.isGiven q := by
  obtain ⟨front, back, hs, ht⟩ := h.given
  have hname : (p.name == q.name) = false := by simpa using hq.symm
  unfold Scan.isGiven
  rw [hs, ht, List.any_append, List.any_append, List.any_cons, hname, Bool.false_or]

theorem Widens.accept (h : Widens p value s t) (haccept : s.accept q other = .ok s')
    (hfree : ¬ s'.Has p.name) : ∃ t', t.accept q other = .ok t' ∧ Widens p value s' t' := by
  obtain ⟨hgiven, hfault, rfl⟩ := accept_eq_ok.mp haccept
  have hname : q.name ≠ p.name := fun heq =>
    hfree ⟨(q, other), List.mem_append_right _ List.mem_cons_self, heq⟩
  obtain ⟨front, back, hs, ht⟩ := h.given
  refine ⟨_, accept_eq_ok.mpr ⟨(h.isGiven hname).trans hgiven, hfault, rfl⟩, ?_⟩
  refine ⟨⟨front, back ++ [(q, other)], ?_, ?_⟩, h.pending, h.isEscaped⟩
  · rw [hs, List.append_assoc]
  · rw [ht, List.append_assoc, List.cons_append]

theorem Widens.settle (h : Widens p value s t) (hsettle : s.settle = .ok s')
    (hfree : ¬ s'.Has p.name) : ∃ t', t.settle = .ok t' ∧ Widens p value s' t' := by
  rcases settle_eq_ok.mp hsettle with ⟨hnone, rfl⟩ | ⟨q, other, hsome, haccept⟩
  · exact ⟨t, settle_eq_ok.mpr (.inl ⟨h.pending.trans hnone, rfl⟩), h⟩
  · have hcleared : Widens p value { s with pending := none } { t with pending := none } :=
      ⟨h.given, rfl, h.isEscaped⟩
    obtain ⟨t', haccept', hwidens⟩ := hcleared.accept haccept hfree
    exact ⟨t', settle_eq_ok.mpr (.inr ⟨q, other, h.pending.trans hsome, haccept'⟩), hwidens⟩

theorem find?_widened {front back : List (Parameter × String)} {x : Parameter × String}
    {holds : Parameter × String → Bool} (hx : holds x = false) :
    (front ++ x :: back).find? holds = (front ++ back).find? holds := by
  rw [List.find?_append, List.find?_append, List.find?_cons, hx]

theorem Widens.value? (h : Widens p value s t) {name : String} (hname : name ≠ p.name) :
    t.value? name = s.value? name := by
  obtain ⟨front, back, hs, ht⟩ := h.given
  unfold Scan.value?
  rw [hs, ht, find?_widened (by simpa using hname.symm)]

theorem Widens.value?_self (h : Widens p value s t) (hfree : ¬ s.Has p.name) :
    t.value? p.name = some value := by
  obtain ⟨front, back, hs, ht⟩ := h.given
  have hnone : front.find? (fun x => x.1.name == p.name) = none := by
    rw [List.find?_eq_none]
    intro x hx hname
    refine hfree ⟨x, ?_, by simpa using hname⟩
    rw [hs]
    exact List.mem_append_left _ hx
  unfold Scan.value?
  rw [ht, List.find?_append, hnone]
  simp

/-- What excludes nothing clashes with nothing. -/
theorem Widens.clash? (h : Widens p value s t) {g : Grammar}
    (hexcludes : ∀ name, g.excludes p.name name = false) : g.clash? t.given = g.clash? s.given := by
  have hexcluded : ∀ name, g.excludes name p.name = false := by
    intro name
    rw [← hexcludes name]
    exact Bool.or_comm _ _
  obtain ⟨front, back, hs, ht⟩ := h.given
  have hfind : ∀ name, (front ++ (p, value) :: back).find? (fun x => g.excludes name x.1.name) =
      (front ++ back).find? (fun x => g.excludes name x.1.name) :=
    fun name => find?_widened (hexcluded name)
  unfold Grammar.clash?
  rw [hs, ht]
  simp only [hfind, List.findSome?_append, List.findSome?_cons]
  have hnone : (front ++ back).find? (fun x => g.excludes p.name x.1.name) = none :=
    List.find?_eq_none.mpr fun x _ => by simp [hexcludes]
  rw [hnone]
  rfl

end Scan

namespace Grammar

open Scan (Widens)

section

variable {g : Grammar} {p : Parameter} {value arg : String} {args : List String} {s t next u : Scan}

theorem Goes.widens (hgoes : g.Goes s arg next) (h : Widens p value s t)
    (hfree : ¬ next.Has p.name) : ∃ next', g.Goes t arg next' ∧ Widens p value next next' := by
  cases hgoes with
  | escape hword => exact ⟨_, .escape hword, h.given, h.pending, rfl⟩
  | value hword hawaits =>
    have hawaits' : t.awaiting? = s.awaiting? := by
      unfold Scan.awaiting?
      rw [h.pending]
    exact ⟨_, .value hword (hawaits'.trans hawaits), h.given, rfl, h.isEscaped⟩
  | name hword hfound hsettles =>
    obtain ⟨settled, hsettles', hwidens⟩ := h.settle hsettles hfree
    exact ⟨_, .name hword hfound hsettles', hwidens.given, rfl, hwidens.isEscaped⟩
  | both hword hfound hsettles haccepts =>
    obtain ⟨settled, hsettles', hwidens⟩ :=
      h.settle hsettles fun hhas => hfree (hhas.of_accept haccepts)
    obtain ⟨next', haccepts', hwidens'⟩ := hwidens.accept haccepts hfree
    exact ⟨next', .both hword hfound hsettles' haccepts', hwidens'⟩

/-- A value that is given already widens what the rest of the arguments give. -/
theorem Reads.widens (hreads : g.Reads s args u) (h : Widens p value s t)
    (hfree : ¬ u.Has p.name) : ∃ u', g.Reads t args u' ∧ Widens p value u u' := by
  induction hreads generalizing t with
  | done hsettles =>
    obtain ⟨u', hsettles', hwidens⟩ := h.settle hsettles hfree
    exact ⟨u', .done hsettles', hwidens⟩
  | more hopen hgoes hreads ih =>
    obtain ⟨next', hgoes', hwidens⟩ := hgoes.widens h fun hhas => hfree (hreads.has hhas)
    obtain ⟨u', hreads', hwidens'⟩ := ih hwidens hfree
    exact ⟨u', .more (h.isEscaped.trans hopen) hgoes' hreads', hwidens'⟩

end

/-! ## A named value among the arguments -/

/-- The ways to give a parameter a value: as the argument behind the name, or in one with it. -/
inductive IsSpelled (name value : String) : List String → Prop where
  | apart : IsSpelled name value ["--" ++ name, value]
  | joined : IsSpelled name value ["--" ++ name ++ "=" ++ value]

/-- A name that is read up to its end. -/
structure IsName (name : String) : Prop where
  some_char : name.toList ≠ []
  no_equals : ∀ c ∈ name.toList, (c != '=') = true

theorem ofChars_of_name {name : String} (h : IsName name) (rest : List Char) :
    Word.ofChars ('-' :: '-' :: (name.toList ++ rest)) =
      .long (String.ofList ((name.toList ++ rest).takeWhile (· != '=')))
        (match (name.toList ++ rest).dropWhile (· != '=') with
          | [] => none
          | _ :: value => some (String.ofList value)) := by
  obtain ⟨c, cs, hname⟩ := List.exists_cons_of_ne_nil h.some_char
  rw [hname]
  rfl

theorem ofChars_long {name : String} (h : IsName name) :
    Word.ofChars ("--" ++ name).toList = .long name none := by
  have hchars : ("--" ++ name).toList = '-' :: '-' :: (name.toList ++ []) := by simp
  rw [hchars, ofChars_of_name h, List.takeWhile_append_of_pos h.no_equals,
    List.dropWhile_append_of_pos h.no_equals]
  simp

theorem ofChars_both {name value : String} (h : IsName name) :
    Word.ofChars ("--" ++ name ++ "=" ++ value).toList = .long name (some value) := by
  have hchars : ("--" ++ name ++ "=" ++ value).toList =
      '-' :: '-' :: (name.toList ++ '=' :: value.toList) := by simp
  rw [hchars, ofChars_of_name h, List.takeWhile_append_of_pos h.no_equals,
    List.dropWhile_append_of_pos h.no_equals]
  simp

section

variable {g : Grammar} {p : Parameter} {value : String} {s settled t u : Scan}
  {spelled back : List String}

theorem Reads.of_spelled (hspelled : IsSpelled p.name value spelled) (hname : IsName p.name)
    (hfound : (g.named.find? fun q => q.name == p.name) = some p)
    (hplain : Word.ofChars value.toList = .plain) (hopen : s.isEscaped = false)
    (hsettles : s.settle = .ok settled) (haccepts : settled.accept p value = .ok t)
    (h : g.Reads t back u) : g.Reads s (spelled ++ back) u := by
  cases hspelled with
  | joined => exact .more hopen (.both (ofChars_both hname) hfound hsettles haccepts) h
  | apart =>
    obtain ⟨hpending, hescaped, -⟩ := Scan.of_settle hsettles
    refine .more hopen (.name (ofChars_long hname) hfound hsettles)
      (.more (hescaped.trans hopen) (.value hplain rfl) ?_)
    have haccepts' := (Scan.settle_pending hpending).trans haccepts
    exact h.of_settled (Scan.settle_settle haccepts') haccepts'

theorem read_misspelled (hg : g.IsNamed) {e : UsageError}
    (hspelled : IsSpelled p.name value spelled) (hname : IsName p.name)
    (hfound : (g.named.find? fun q => q.name == p.name) = some p)
    (hplain : Word.ofChars value.toList = .plain) (hopen : s.isEscaped = false)
    (hsettles : s.settle = .ok settled) (hrefuses : settled.accept p value = .error e) :
    ∃ e', g.read s (spelled ++ back) = .error e' := by
  cases hspelled with
  | joined =>
    refine ⟨e, ?_⟩
    rw [List.singleton_append, read, step_open hg hopen, ofChars_both hname]
    dsimp only [long]
    rw [hfound, hsettles]
    dsimp only
    rw [hrefuses]
    rfl
  | apart =>
    obtain ⟨hpending, hescaped, -⟩ := Scan.of_settle hsettles
    have hstep : g.step s ("--" ++ p.name) =
        .ok (.more { settled with pending := some (p, none) }) :=
      (step_eq_more hg).mpr ⟨hopen, .name (ofChars_long hname) hfound hsettles⟩
    have hnext : g.step { settled with pending := some (p, none) } value =
        .ok (.more { settled with pending := some (p, some value) }) :=
      (step_eq_more hg).mpr ⟨hescaped.trans hopen, .value hplain rfl⟩
    rw [List.cons_append, read, hstep]
    dsimp only
    rw [List.singleton_append, read, hnext]
    exact read_unsettled hg ((Scan.settle_pending hpending).trans hrefuses) rfl

end

/-- A value that is named where a name may stand is one value more, or it is refused. -/
theorem read_spelled {g : Grammar} (hg : g.IsNamed) {p : Parameter} (hname : IsName p.name)
    (hfound : (g.named.find? fun q => q.name == p.name) = some p) {value : String}
    (hplain : Word.ofChars value.toList = .plain) {front spelled back : List String}
    (hspelled : IsSpelled p.name value spelled) {s scan u : Scan}
    (hfront : g.read s front = .ok (.values scan)) (hopen : scan.isEscaped = false)
    (hread : g.read s (front ++ back) = .ok (.values u)) (hfree : ¬ u.Has p.name) :
    (p.form.fault? value = none → ∃ u', g.read s (front ++ spelled ++ back) = .ok (.values u') ∧
      Widens p value u u') ∧
    ((p.form.fault? value).isSome → ∃ e, g.read s (front ++ spelled ++ back) = .error e) := by
  obtain ⟨last, hsettles, hescaped, hcontinues⟩ := read_append hg ((read_eq_values hg).mp hfront)
  have hlast : last.isEscaped = false := hescaped.trans hopen
  rw [hcontinues] at hread
  have hreads : g.Reads scan back u :=
    ((read_eq_values hg).mp hread).of_settled hsettles (Scan.settle_settle hsettles)
  rw [List.append_assoc, hcontinues]
  constructor
  · intro hfault
    have hgiven : scan.isGiven p = false := by
      rw [Bool.eq_false_iff]
      exact fun h => hfree (hreads.has (Scan.isGiven_iff.mp h))
    have haccepts := Scan.accept_eq_ok.mpr ⟨hgiven, hfault, rfl⟩
    have hwidens : Widens p value scan { scan with given := scan.given ++ [(p, value)] } :=
      ⟨⟨scan.given, [], (List.append_nil _).symm, rfl⟩, rfl, rfl⟩
    obtain ⟨u', hreads', hwidens'⟩ := hreads.widens hwidens hfree
    exact ⟨u', (read_eq_values hg).mpr (Reads.of_spelled hspelled hname hfound hplain hlast hsettles
      haccepts hreads'), hwidens'⟩
  · intro hfault
    obtain ⟨e, hrefuses⟩ : ∃ e, scan.accept p value = .error e := by
      cases haccept : scan.accept p value with
      | error e => exact ⟨e, rfl⟩
      | ok t =>
        rw [(Scan.accept_eq_ok.mp haccept).2.1] at hfault
        cases hfault
    exact read_misspelled hg hspelled hname hfound hplain hlast hsettles hrefuses

/-! ## A command among the arguments -/

/-- Where the name of a command ends a list, it leaves all that stands behind it. -/
theorem read_command {g : Grammar} {lead rest : List String} {name : String} {s before : Scan}
    (h : g.read s (lead ++ [name]) = .ok (.command name [] before)) :
    g.read s (lead ++ name :: rest) = .ok (.command name rest before) := by
  induction lead generalizing s with
  | nil =>
    rw [List.nil_append, read] at h ⊢
    cases hstep : g.step s name with
    | error e =>
      rw [hstep] at h
      cases h
    | ok step =>
      rw [hstep] at h
      cases step with
      | more next =>
        dsimp only [read] at h
        cases hsettle : next.settle with
        | error e =>
          rw [hsettle] at h
          cases h
        | ok t =>
          rw [hsettle] at h
          cases h
      | command =>
        cases h
        rfl
      | help => cases h
      | version => cases h
  | cons arg lead ih =>
    rw [List.cons_append, read] at h ⊢
    cases hstep : g.step s arg with
    | error e =>
      rw [hstep] at h
      cases h
    | ok step =>
      rw [hstep] at h
      cases step with
      | more next => exact ih h
      | command =>
        -- Behind this command at least the name is left, so the list does not end here.
        simp at h
      | help => cases h
      | version => cases h

end Grammar

end ResultGateway.CommandLine
