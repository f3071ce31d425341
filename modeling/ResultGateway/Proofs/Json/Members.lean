-- The members of objects. Adding a member keeps the names ascending, and
-- changes what is found under its own name only. Members that ascend are
-- known by what is found among them. They stay as they are when they are
-- sorted, and so does a value all of whose objects have such members.
import Mathlib.Tactic.Tauto
import ResultGateway.Json.Value

namespace ResultGateway.Json

/-! ## Looking up -/

theorem lookup_insertMember (name other : String) (value : Json) (members : List (String × Json)) :
    lookup name (insertMember other value members) =
      if name = other then some value else lookup name members := by
  induction members with
  | nil => rfl
  | cons member rest ih =>
    obtain ⟨first, old⟩ := member
    unfold insertMember
    split
    · rename_i heq
      subst heq
      by_cases hname : name = other <;> simp [lookup, hname]
    · split
      · rfl
      · rename_i hne _
        simp only [lookup, ih]
        by_cases hname : name = other
        · subst hname
          rw [if_neg hne]
          simp
        · simp [hname]

theorem lookup_append (name : String) (front back : List (String × Json)) :
    lookup name (front ++ back) = (lookup name front).or (lookup name back) := by
  induction front with
  | nil => rfl
  | cons member front ih =>
    simp only [List.cons_append, lookup, ih]
    split <;> rfl

/-- Of two members of one name the last is found. -/
theorem lookup_sortMembers (name : String) (members : List (String × Json)) :
    lookup name (sortMembers members) = lookup name members.reverse := by
  suffices h : ∀ sorted, lookup name (members.foldl
      (fun sorted member => insertMember member.1 member.2 sorted) sorted) =
      (lookup name members.reverse).or (lookup name sorted) by
    rw [sortMembers, h]
    simp [lookup]
  induction members with
  | nil => exact fun sorted => rfl
  | cons member rest ih =>
    intro sorted
    rw [List.foldl_cons, ih, lookup_insertMember, List.reverse_cons, lookup_append]
    cases lookup name rest.reverse with
    | some value => rfl
    | none => simp only [Option.none_or, lookup]; split <;> rfl

theorem get?_ofMembers (name : String) (members : List (String × Json)) :
    (ofMembers members).get? name = lookup name members.reverse := lookup_sortMembers name members

/-! ## Ascending names -/

theorem namesAscend_iff_pairwise (names : List String) :
    NamesAscend names ↔ names.Pairwise (· < ·) := by
  induction names with
  | nil => simp [NamesAscend]
  | cons a rest ih =>
    cases rest with
    | nil => simp [NamesAscend]
    | cons b rest =>
      rw [NamesAscend, ih]
      constructor
      · rintro ⟨hab, hrest⟩
        refine List.pairwise_cons.mpr ⟨?_, hrest⟩
        intro c hc
        rcases List.mem_cons.mp hc with rfl | hc
        · exact hab
        · exact String.lt_trans hab (List.rel_of_pairwise_cons hrest hc)
      · intro h
        obtain ⟨hall, hrest⟩ := List.pairwise_cons.mp h
        exact ⟨hall b List.mem_cons_self, hrest⟩

theorem mem_insertMember {member : String × Json} {name : String} {value : Json}
    {members : List (String × Json)} (h : member ∈ insertMember name value members) :
    member = (name, value) ∨ member ∈ members := by
  induction members with
  | nil => exact .inl (List.mem_singleton.mp h)
  | cons first rest ih =>
    unfold insertMember at h
    split at h
    · rcases List.mem_cons.mp h with h | h
      · exact .inl h
      · exact .inr (List.mem_cons_of_mem _ h)
    · split at h
      · exact List.mem_cons.mp h
      · rcases List.mem_cons.mp h with rfl | h
        · exact .inr List.mem_cons_self
        · exact (ih h).imp_right (List.mem_cons_of_mem _)

theorem namesAscend_insertMember {name : String} {value : Json} {members : List (String × Json)}
    (h : NamesAscend (members.map Prod.fst)) :
    NamesAscend ((insertMember name value members).map Prod.fst) := by
  rw [namesAscend_iff_pairwise, List.pairwise_map] at h ⊢
  induction members with
  | nil => exact List.pairwise_singleton _ _
  | cons first rest ih =>
    obtain ⟨hfirst, hrest⟩ := List.pairwise_cons.mp h
    unfold insertMember
    split
    · rename_i heq
      exact List.pairwise_cons.mpr ⟨by rw [heq]; exact hfirst, hrest⟩
    · rename_i hne
      split
      · rename_i hlt
        refine List.pairwise_cons.mpr ⟨?_, h⟩
        intro member hmember
        rcases List.mem_cons.mp hmember with rfl | hmember
        · exact hlt
        · exact String.lt_trans hlt (hfirst member hmember)
      · rename_i hnlt
        refine List.pairwise_cons.mpr ⟨?_, ih hrest⟩
        intro member hmember
        rcases mem_insertMember hmember with rfl | hmember
        · exact Std.lt_of_le_of_ne hnlt fun heq => hne heq.symm
        · exact hfirst member hmember

theorem sortMembers_induction {P : List (String × Json) → Prop} (members : List (String × Json))
    (nil : P []) (insert : ∀ member ∈ members, ∀ sorted, P sorted →
      P (insertMember member.1 member.2 sorted)) : P (sortMembers members) := by
  suffices h : ∀ sorted, P sorted → P (members.foldl
      (fun sorted member => insertMember member.1 member.2 sorted) sorted) from h [] nil
  induction members with
  | nil => exact fun _ h => h
  | cons member rest ih =>
    intro sorted hsorted
    refine ih (fun m hm => insert m (List.mem_cons_of_mem _ hm)) _ ?_
    exact insert member List.mem_cons_self sorted hsorted

theorem namesAscend_sortMembers (members : List (String × Json)) :
    NamesAscend ((sortMembers members).map Prod.fst) :=
  sortMembers_induction (P := fun sorted => NamesAscend (sorted.map Prod.fst)) members trivial
    fun _ _ _ h => namesAscend_insertMember h

theorem mem_sortMembers {member : String × Json} {members : List (String × Json)}
    (h : member ∈ sortMembers members) : member ∈ members := by
  revert h
  refine sortMembers_induction (P := fun sorted => member ∈ sorted → member ∈ members) members
    (fun h => nomatch h) ?_
  intro first hfirst sorted ih hmember
  rcases mem_insertMember hmember with rfl | hmember
  · exact hfirst
  · exact ih hmember

theorem mem_names_insertMember (name other : String) (value : Json)
    (members : List (String × Json)) : name ∈ (insertMember other value members).map Prod.fst ↔
      name = other ∨ name ∈ members.map Prod.fst := by
  induction members with
  | nil => simp [insertMember]
  | cons first members ih =>
    unfold insertMember
    split
    · rename_i heq
      simp [heq]
    · split
      · simp
      · rw [List.map_cons, List.mem_cons, ih, List.map_cons, List.mem_cons]
        tauto

/-- The names of sorted members are those of the members. -/
theorem mem_names_sortMembers (name : String) (members : List (String × Json)) :
    name ∈ (sortMembers members).map Prod.fst ↔ name ∈ members.map Prod.fst := by
  suffices h : ∀ sorted, name ∈ (members.foldl
      (fun sorted member => insertMember member.1 member.2 sorted) sorted).map Prod.fst ↔
      name ∈ members.map Prod.fst ∨ name ∈ sorted.map Prod.fst by
    rw [sortMembers, h]
    simp
  induction members with
  | nil => simp
  | cons member members ih =>
    intro sorted
    rw [List.foldl_cons, ih, mem_names_insertMember, List.map_cons, List.mem_cons]
    tauto

theorem mem_names_of_lookup {name : String} {value : Json} {members : List (String × Json)}
    (h : lookup name members = some value) : name ∈ members.map Prod.fst := by
  induction members with
  | nil => cases h
  | cons member rest ih =>
    rw [lookup] at h
    split at h
    · rename_i heq
      exact heq ▸ List.mem_cons_self
    · exact List.mem_cons_of_mem _ (ih h)

theorem lookup_of_below {name : String} {members : List (String × Json)}
    (h : ∀ other ∈ members.map Prod.fst, name < other) : lookup name members = none := by
  cases hlookup : lookup name members with
  | none => rfl
  | some value => exact absurd (h name (mem_names_of_lookup hlookup)) (String.lt_irrefl name)

/-- Ascending members are known by what is found under each name. -/
theorem eq_of_lookup {members others : List (String × Json)}
    (hmembers : NamesAscend (members.map Prod.fst)) (hothers : NamesAscend (others.map Prod.fst))
    (h : ∀ name, lookup name members = lookup name others) : members = others := by
  rw [namesAscend_iff_pairwise] at hmembers hothers
  induction members generalizing others with
  | nil =>
    cases others with
    | nil => rfl
    | cons other rest => simpa [lookup] using h other.1
  | cons member rest ih =>
    obtain ⟨name, value⟩ := member
    cases others with
    | nil => simpa [lookup] using h name
    | cons other rest' =>
      obtain ⟨name', value'⟩ := other
      obtain ⟨hfirst, hrest⟩ := List.pairwise_cons.mp hmembers
      obtain ⟨hfirst', hrest'⟩ := List.pairwise_cons.mp hothers
      -- Neither first name can stand behind the other one.
      have hname : name = name' := by
        have hlookup : lookup name' ((name, value) :: rest) = some value' := by
          rw [h name', lookup, if_pos rfl]
        have hlookup' : lookup name ((name', value') :: rest') = some value := by
          rw [← h name, lookup, if_pos rfl]
        have hfound : name' ∈ name :: rest.map Prod.fst := mem_names_of_lookup hlookup
        have hfound' : name ∈ name' :: rest'.map Prod.fst := mem_names_of_lookup hlookup'
        rcases List.mem_cons.mp hfound with heq | hmem
        · exact heq.symm
        · rcases List.mem_cons.mp hfound' with heq | hmem'
          · exact heq
          · exact absurd (String.lt_trans (hfirst name' hmem) (hfirst' name hmem'))
              (String.lt_irrefl name)
      cases hname
      have hvalue : value = value' := by
        have hsame := h name
        rw [lookup, lookup, if_pos rfl, if_pos rfl] at hsame
        exact Option.some.inj hsame
      rw [hvalue, ih hrest hrest']
      intro other
      by_cases heq : other = name
      · rw [heq, lookup_of_below hfirst, lookup_of_below hfirst']
      · have hsame := h other
        rwa [lookup, lookup, if_neg heq, if_neg heq] at hsame

/-! ## What is sorted already -/

theorem insertMember_last {name : String} {value : Json} {members : List (String × Json)}
    (h : ∀ member ∈ members, member.1 < name) :
    insertMember name value members = members ++ [(name, value)] := by
  induction members with
  | nil => rfl
  | cons first rest ih =>
    have hlt : first.1 < name := h first List.mem_cons_self
    unfold insertMember
    rw [if_neg, if_neg, ih (fun m hm => h m (List.mem_cons_of_mem _ hm))]
    · rfl
    · exact fun hgt => String.lt_irrefl _ (String.lt_trans hlt hgt)
    · rintro rfl
      exact String.lt_irrefl _ hlt

theorem sortMembers_of_namesAscend {members : List (String × Json)}
    (h : NamesAscend (members.map Prod.fst)) : sortMembers members = members := by
  rw [namesAscend_iff_pairwise, List.pairwise_map] at h
  suffices hfold : ∀ sorted, (sorted ++ members).Pairwise (fun a b => a.1 < b.1) →
      members.foldl (fun sorted member => insertMember member.1 member.2 sorted) sorted =
        sorted ++ members from hfold [] h
  clear h
  -- Every member goes to the end of those before it.
  induction members with
  | nil => exact fun sorted _ => (List.append_nil sorted).symm
  | cons member rest ih =>
    intro sorted hsorted
    have hbelow : ∀ m ∈ sorted, m.1 < member.1 := fun m hm =>
      (List.pairwise_append.mp hsorted).2.2 m hm member List.mem_cons_self
    rw [List.foldl_cons, insertMember_last hbelow, ih, List.append_assoc]
    · rfl
    · rw [List.append_assoc]
      exact hsorted

theorem canonicalItems_iff {items : List Json} :
    CanonicalItems items ↔ ∀ item ∈ items, Canonical item := by
  induction items with
  | nil => simp [CanonicalItems]
  | cons item rest ih => simp [CanonicalItems, ih]

theorem canonicalMembers_iff {members : List (String × Json)} :
    CanonicalMembers members ↔ ∀ member ∈ members, Canonical member.2 := by
  induction members with
  | nil => simp [CanonicalMembers]
  | cons member rest ih => simp [CanonicalMembers, ih]

theorem canonical_ofMembers {members : List (String × Json)}
    (h : ∀ member ∈ members, Canonical member.2) : Canonical (ofMembers members) := by
  refine ⟨namesAscend_sortMembers members, canonicalMembers_iff.mpr ?_⟩
  exact fun member hmember => h member (mem_sortMembers hmember)

mutual

/-- Sorting leaves a value alone whose members ascend. -/
theorem sorted_of_canonical : ∀ {j : Json}, Canonical j → j.sorted = j
  | .null, _ | .bool _, _ | .num _, _ | .str _, _ => by simp only [sorted]
  | .arr items, h => by
    simp only [Canonical] at h
    rw [sorted, sortedItems_of_canonical h]
  | .obj members, h => by
    simp only [Canonical] at h
    rw [sorted, sortedValues_of_canonical h.2, ofMembers, sortMembers_of_namesAscend h.1]

theorem sortedItems_of_canonical : ∀ {items : List Json}, CanonicalItems items →
    sortedItems items = items
  | [], _ => rfl
  | item :: rest, h => by
    simp only [CanonicalItems] at h
    rw [sortedItems, sorted_of_canonical h.1, sortedItems_of_canonical h.2]

theorem sortedValues_of_canonical : ∀ {members : List (String × Json)}, CanonicalMembers members →
    sortedValues members = members
  | [], _ => rfl
  | (name, value) :: rest, h => by
    simp only [CanonicalMembers] at h
    rw [sortedValues, sorted_of_canonical h.1, sortedValues_of_canonical h.2]

end

end ResultGateway.Json
