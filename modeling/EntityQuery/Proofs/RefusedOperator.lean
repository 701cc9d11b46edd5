import EntityQuery.Proofs.SentConjunction
import EntityQuery.Proofs.SilentConditions

/-!
# Exclusive or in expressions

Expressions have no exclusive or. Whether a group can be sent is found by a search through it, which
ends at the first obstacle: a condition that cannot be sent, or an exclusive or, which is refused
(`Group.sendable_eq_search`). A conjunction is searched member by member and any other group as a
whole. So a split refuses exactly the groups in which some search comes upon an exclusive or before
any condition that cannot be sent (`Group.split_eq_error_iff`), whatever stands behind it. An
exclusive or that is not refused is never sent.
-/

namespace EntityQuery

/-- What a search through a group comes upon. -/
inductive Encounter where
  | operator (op : LogicalOperator)
  | condition (c : Condition)

mutual

/-- What a search through a group comes upon, in order; redundant nesting is passed over. -/
def Group.encounters : Group → List Encounter
  | .mk _ [] [g] => g.encounters
  | .mk op fs gs => .operator op :: (filterEncounters fs ++ groupEncounters gs)

def Filter.encounters : Filter → List Encounter
  | .condition c => [.condition c]
  | .compound g _ => g.encounters

def filterEncounters : List Filter → List Encounter
  | [] => []
  | f :: fs => f.encounters ++ filterEncounters fs

def groupEncounters : List Group → List Encounter
  | [] => []
  | g :: gs => g.encounters ++ groupEncounters gs

end

namespace Encounter

/-- Whether a search goes on. -/
def goesOn (t : FilterStyle) : Encounter → Except Unsupported Bool
  | .operator op => do
    t.checkOperator op
    pure true
  | .condition c => .ok (t.canSend c)

/-- Whether a style can express what a search comes upon. -/
def Passes (t : FilterStyle) : Encounter → Prop
  | .operator op => op ≠ .xor
  | .condition c => t.canSend c = true

end Encounter

/-- Whether nothing stands in the way of sending, as far as a search sees. -/
def search (t : FilterStyle) : List Encounter → Except Unsupported Bool
  | [] => .ok true
  | v :: vs => do if ← v.goesOn t then search t vs else pure false

/-- Whether a search comes upon an exclusive or before anything else stands in the way. -/
def MeetsXor (t : FilterStyle) (vs : List Encounter) : Prop :=
  ∃ before after, vs = before ++ .operator .xor :: after ∧ ∀ v ∈ before, v.Passes t

/-- What is searched of a group: the members of a conjunction one by one, or else the whole. -/
def Group.searches (g : Group) : List (List Encounter) :=
  match g.operator with
  | .and => g.parts.map Filter.encounters
  | _ => if g.isEmpty then [] else [g.encounters]

/-- Groups with an exclusive or, at some depth, that has a choice between members. -/
inductive Group.Excludes : Group → Prop
  | choice {g : Group} (hop : g.operator = .xor) (hmany : 1 < g.parts.length) : Excludes g
  | inside {g g' : Group} {l : Bool} (hpart : .compound g' l ∈ g.parts) (h : Excludes g') :
    Excludes g

variable {t : FilterStyle}

theorem search_append (vs ws : List Encounter) :
    search t (vs ++ ws) = (do if ← search t vs then search t ws else pure false) := by
  induction vs with
  | nil => rfl
  | cons v vs ih =>
    rw [List.cons_append, search, ih, search]
    cases v.goesOn t with
    | error e => rfl
    | ok b => cases b <;> rfl

theorem Group.sendable_of_members (ht : t.supportsGroups = true) {op : LogicalOperator}
    {fs : List Filter} {gs : List Group} (hmany : ∀ g, fs = [] → gs = [g] → False)
    (hfs : filtersSendable t fs = search t (filterEncounters fs))
    (hgs : groupsSendable t gs = search t (groupEncounters gs)) :
    (Group.mk op fs gs).sendable t = search t (Group.mk op fs gs).encounters := by
  rw [Group.sendable.eq_2 t op fs gs hmany, Group.encounters.eq_2 op fs gs hmany, search,
    if_neg (by simp [ht]), hfs, hgs, search_append, Encounter.goesOn]
  cases t.checkOperator op <;> rfl

mutual

/-- A group can be sent if nothing that a search comes upon stands in the way. -/
theorem Group.sendable_eq_search (ht : t.supportsGroups = true) : ∀ g : Group,
    g.sendable t = search t g.encounters
  | .mk op [] [g] => by
    rw [Group.sendable, Group.encounters]
    exact Group.sendable_eq_search ht g
  | .mk op [] [] => Group.sendable_of_members ht (by simp) rfl rfl
  | .mk op [] (g :: g' :: gs) =>
    Group.sendable_of_members ht (by simp) rfl (groupsSendable_eq_search ht (g :: g' :: gs))
  | .mk op (f :: fs) gs =>
    Group.sendable_of_members ht (by simp) (filtersSendable_eq_search ht (f :: fs))
      (groupsSendable_eq_search ht gs)

theorem Filter.sendable_eq_search (ht : t.supportsGroups = true) : ∀ f : Filter,
    f.sendable t = search t f.encounters
  | .condition c => by
    rw [Filter.sendable, Filter.encounters, search, Encounter.goesOn]
    cases t.canSend c <;> rfl
  | .compound g _ => Group.sendable_eq_search ht g

theorem filtersSendable_eq_search (ht : t.supportsGroups = true) : ∀ fs : List Filter,
    filtersSendable t fs = search t (filterEncounters fs)
  | [] => rfl
  | f :: fs => by
    rw [filtersSendable, filterEncounters, search_append, Filter.sendable_eq_search ht f,
      filtersSendable_eq_search ht fs]

theorem groupsSendable_eq_search (ht : t.supportsGroups = true) : ∀ gs : List Group,
    groupsSendable t gs = search t (groupEncounters gs)
  | [] => rfl
  | g :: gs => by
    rw [groupsSendable, groupEncounters, search_append, Group.sendable_eq_search ht g,
      groupsSendable_eq_search ht gs]

end

section

variable (ht : t.supportsGroups = true)

include ht

/-- A search passes what it comes upon, refuses it, or gives up there. -/
theorem Encounter.goesOn_cases (v : Encounter) :
    v.Passes t ∧ v.goesOn t = .ok true ∨
      v = .operator .xor ∧ v.goesOn t = .error (.operator "XOR") ∨
      ¬v.Passes t ∧ v ≠ .operator .xor ∧ v.goesOn t = .ok false := by
  cases v with
  | operator op =>
    by_cases hop : op = .xor
    · subst hop
      refine .inr (.inl ⟨rfl, ?_⟩)
      rw [goesOn, FilterStyle.checkOperator, if_pos ⟨ht, rfl⟩]
      rfl
    · exact .inl ⟨hop, by rw [goesOn, FilterStyle.checkOperator_of_ne hop]; rfl⟩
  | condition c =>
    rw [Passes, goesOn]
    cases hc : t.canSend c with
    | true => exact .inl ⟨rfl, rfl⟩
    | false => exact .inr (.inr ⟨Bool.false_ne_true, by rintro ⟨⟩, rfl⟩)

theorem search_eq_error_iff {vs : List Encounter} {e : Unsupported} :
    search t vs = .error e ↔ e = .operator "XOR" ∧ MeetsXor t vs := by
  induction vs with
  | nil =>
    refine iff_of_false nofun ?_
    rintro ⟨-, before, after, h, -⟩
    exact absurd h.symm (List.append_ne_nil_of_right_ne_nil _ (List.cons_ne_nil _ _))
  | cons v vs ih =>
    rw [search]
    rcases v.goesOn_cases ht with ⟨hpass, hgo⟩ | ⟨rfl, hgo⟩ | ⟨hpass, hxor, hgo⟩ <;> rw [hgo]
    · refine ih.trans (and_congr_right fun _ => ⟨?_, ?_⟩)
      · rintro ⟨before, after, rfl, hbefore⟩
        exact ⟨v :: before, after, rfl, List.forall_mem_cons.2 ⟨hpass, hbefore⟩⟩
      · rintro ⟨_ | ⟨w, before⟩, after, h, hbefore⟩ <;> cases h
        · exact absurd rfl hpass
        · exact ⟨before, after, rfl, (List.forall_mem_cons.1 hbefore).2⟩
    · constructor
      · intro h
        cases h
        exact ⟨rfl, [], vs, rfl, List.forall_mem_nil _⟩
      · rintro ⟨rfl, -⟩
        rfl
    · refine iff_of_false nofun ?_
      rintro ⟨-, _ | ⟨w, before⟩, after, h, hbefore⟩ <;> cases h
      · exact hxor rfl
      · exact hpass (List.forall_mem_cons.1 hbefore).1

theorem passes_of_search {vs : List Encounter} (h : search t vs = .ok true) :
    ∀ v ∈ vs, v.Passes t := by
  induction vs with
  | nil => exact List.forall_mem_nil _
  | cons v vs ih =>
    rw [search] at h
    rcases v.goesOn_cases ht with ⟨hpass, hgo⟩ | ⟨-, hgo⟩ | ⟨-, -, hgo⟩ <;> rw [hgo] at h
    · exact List.forall_mem_cons.2 ⟨hpass, ih h⟩
    · cases h
    · cases h

/-- A search is refused or comes to an end. -/
theorem search_cases (vs : List Encounter) :
    search t vs = .error (.operator "XOR") ∧ MeetsXor t vs ∨
      ∃ sent, search t vs = .ok sent ∧ ¬MeetsXor t vs := by
  cases hsearch : search t vs with
  | error e =>
    obtain ⟨rfl, hmeets⟩ := (search_eq_error_iff ht).1 hsearch
    exact .inl ⟨rfl, hmeets⟩
  | ok sent =>
    refine .inr ⟨sent, rfl, fun hmeets => ?_⟩
    cases hsearch.symm.trans ((search_eq_error_iff ht).2 ⟨rfl, hmeets⟩)

theorem splitFilters_eq_error_iff {fs : List Filter} {e : Unsupported} :
    splitFilters t fs = .error e ↔ e = .operator "XOR" ∧ ∃ f ∈ fs, MeetsXor t f.encounters := by
  induction fs with
  | nil => exact iff_of_false nofun fun h => by simp at h
  | cons f fs ih =>
    rw [splitFilters, f.sendable_eq_search ht]
    rcases search_cases ht f.encounters with ⟨hsearch, hmeets⟩ | ⟨sent, hsearch, hmeets⟩ <;>
      rw [hsearch]
    · constructor
      · intro h
        cases h
        exact ⟨rfl, f, List.mem_cons_self, hmeets⟩
      · rintro ⟨rfl, -⟩
        rfl
    · simp only [List.mem_cons, exists_eq_or_imp, or_iff_right hmeets, ← ih]
      cases sent <;> cases splitFilters t fs <;> simp [bind, Except.bind, pure, Except.pure]

/-- Nested groups that are empty are not searched. -/
theorem splitGroups_eq_error_iff {gs : List Group} {e : Unsupported} :
    splitGroups t gs = .error e ↔
      e = .operator "XOR" ∧ ∃ g ∈ gs, g.isEmpty = false ∧ MeetsXor t g.encounters := by
  induction gs with
  | nil => exact iff_of_false nofun fun h => by simp at h
  | cons g gs ih =>
    rw [splitGroups]
    by_cases hg : g.isEmpty = true
    · rw [if_pos hg, ih]
      simp only [List.mem_cons, exists_eq_or_imp, hg, Bool.true_eq_false, false_and, false_or]
    rw [if_neg hg, g.sendable_eq_search ht]
    rw [Bool.not_eq_true] at hg
    rcases search_cases ht g.encounters with ⟨hsearch, hmeets⟩ | ⟨sent, hsearch, hmeets⟩ <;>
      rw [hsearch]
    · constructor
      · intro h
        cases h
        exact ⟨rfl, g, List.mem_cons_self, hg, hmeets⟩
      · rintro ⟨rfl, -⟩
        rfl
    · simp only [List.mem_cons, exists_eq_or_imp, hmeets, and_false, false_or, ← ih]
      cases sent <;> cases splitGroups t gs <;> simp [bind, Except.bind, pure, Except.pure]

end

theorem Group.flatten_ne_nested (g : Group) : ∀ op g', g.flatten ≠ .mk op [] [g'] := by
  fun_induction Group.flatten g with
  | case1 op g ih => exact ih
  | case2 g hnested => exact fun op g' h => hnested op g' h

theorem Group.exists_mem_map_parts {P : List Encounter → Prop} {op : LogicalOperator}
    {fs : List Filter} {gs : List Group} :
    (∃ vs ∈ (Group.mk op fs gs).parts.map Filter.encounters, P vs) ↔
      (∃ f ∈ fs, P f.encounters) ∨ ∃ g ∈ gs, g.isEmpty = false ∧ P g.encounters := by
  simp only [parts, List.map_append, List.map_map, List.mem_append, List.mem_map, List.mem_filter,
    or_and_right, exists_or, Bool.not_eq_true']
  simp only [Function.comp_apply, Filter.encounters, and_assoc, existsAndEq, true_and]

/-- An exclusive or of its own is what a search for it comes upon first. -/
theorem meetsXor_encounters {fs : List Filter} {gs : List Group}
    (hmany : ∀ g, fs = [] → gs = [g] → False) : MeetsXor t (Group.mk .xor fs gs).encounters := by
  rw [Group.encounters.eq_2 _ fs gs hmany]
  exact ⟨[], _, rfl, List.forall_mem_nil _⟩

/-- A split refuses a group if one of its searches comes upon an exclusive or before a condition
that cannot be sent. -/
theorem Group.split_eq_error_iff (ht : t.supportsGroups = true) {g : Group} {e : Unsupported} :
    g.split t = .error e ↔ e = .operator "XOR" ∧ ∃ vs ∈ g.flatten.searches, MeetsXor t vs := by
  have hnested := g.flatten_ne_nested
  rw [split]
  generalize g.flatten = g at hnested
  show (if g.isEmpty = true then _ else _) = _ ↔ _
  by_cases hg : g.isEmpty = true
  · rw [if_pos hg, searches, isEmpty_iff_parts.1 hg, if_pos hg]
    cases g.operator <;> simp
  rw [if_neg hg]
  cases g with
  | mk op fs gs =>
    have hmany : ∀ g, fs = [] → gs = [g] → False := fun g hf hg => hnested op g (by rw [hf, hg])
    cases op with
    | and =>
      have hand : LogicalOperator.and ≠ .xor := by decide
      rw [operator, FilterStyle.checkOperator_of_ne hand, searches, operator, exists_mem_map_parts]
      show (splitFilters t fs >>= fun fs' => splitGroups t gs >>= fun gs' => pure _) = _ ↔ _
      constructor
      · intro h
        rcases Except.bind_eq_error_iff.1 h with hfs | ⟨fs', -, h⟩
        · exact ((splitFilters_eq_error_iff ht).1 hfs).imp_right .inl
        rcases Except.bind_eq_error_iff.1 h with hgs | ⟨gs', -, h⟩
        · exact ((splitGroups_eq_error_iff ht).1 hgs).imp_right .inr
        · cases h
      · rintro ⟨rfl, hmeets⟩
        cases hfs : splitFilters t fs with
        | error e =>
          obtain ⟨rfl, -⟩ := (splitFilters_eq_error_iff ht).1 hfs
          rfl
        | ok fs' =>
          rcases hmeets with hmeets | hmeets
          · cases hfs.symm.trans ((splitFilters_eq_error_iff ht).2 ⟨rfl, hmeets⟩)
          · rw [(splitGroups_eq_error_iff ht).2 ⟨rfl, hmeets⟩]
            rfl
    | or =>
      have hor : LogicalOperator.or ≠ .xor := by decide
      rw [operator, FilterStyle.checkOperator_of_ne hor, searches, operator]
      simp only [if_neg hg, List.mem_singleton, exists_eq_left, sendable_eq_search ht]
      rcases search_cases ht (Group.mk .or fs gs).encounters with
        ⟨hsearch, hmeets⟩ | ⟨sent, hsearch, hmeets⟩ <;> rw [hsearch]
      · simp [hmeets, bind, Except.bind, eq_comm]
      · cases sent <;> simp [hmeets, bind, Except.bind, pure, Except.pure]
    | xor =>
      rw [operator, FilterStyle.checkOperator, if_pos ⟨ht, rfl⟩, searches, operator]
      simp [hg, meetsXor_encounters hmany, bind, Except.bind, eq_comm, LogicalOperator.name]

mutual

theorem Group.mem_leaves_of_encounters {c : Condition} : ∀ g : Group,
    .condition c ∈ g.encounters → c ∈ g.leaves
  | .mk op [] [g], h => by
    rw [Group.encounters] at h
    simpa [Group.leaves, leavesOfFilters, leavesOfGroups] using Group.mem_leaves_of_encounters g h
  | .mk op [] [], h => by simp [Group.encounters, filterEncounters, groupEncounters] at h
  | .mk op [] (g :: g' :: gs), h => by
    rw [Group.encounters.eq_2 _ _ _ (by simp), filterEncounters] at h
    simp only [List.mem_cons, reduceCtorEq, List.nil_append, false_or] at h
    exact List.mem_append_right _ (mem_leaves_of_groupEncounters (g :: g' :: gs) h)
  | .mk op (f :: fs) gs, h => by
    rw [Group.encounters.eq_2 _ _ _ (by simp)] at h
    simp only [List.mem_cons, reduceCtorEq, List.mem_append, false_or] at h
    exact List.mem_append.2 (h.imp (mem_leaves_of_filterEncounters (f :: fs))
      (mem_leaves_of_groupEncounters gs))

theorem Filter.mem_leaves_of_encounters {c : Condition} : ∀ f : Filter,
    .condition c ∈ f.encounters → c ∈ f.leaves
  | .condition c', h => by simpa [Filter.encounters, Filter.leaves] using h
  | .compound g _, h => Group.mem_leaves_of_encounters g h

theorem mem_leaves_of_filterEncounters {c : Condition} : ∀ fs : List Filter,
    .condition c ∈ filterEncounters fs → c ∈ leavesOfFilters fs
  | f :: fs, h => List.mem_append.2 ((List.mem_append.1 h).imp (Filter.mem_leaves_of_encounters f)
      (mem_leaves_of_filterEncounters fs))

theorem mem_leaves_of_groupEncounters {c : Condition} : ∀ gs : List Group,
    .condition c ∈ groupEncounters gs → c ∈ leavesOfGroups gs
  | g :: gs, h => List.mem_append.2 ((List.mem_append.1 h).imp (Group.mem_leaves_of_encounters g)
      (mem_leaves_of_groupEncounters gs))

end

theorem filterEncounters_eq_flatMap (fs : List Filter) :
    filterEncounters fs = fs.flatMap Filter.encounters := by
  induction fs with
  | nil => rfl
  | cons f fs ih => rw [filterEncounters, ih, List.flatMap_cons]

theorem groupEncounters_eq_flatMap (gs : List Group) :
    groupEncounters gs = gs.flatMap Group.encounters := by
  induction gs with
  | nil => rfl
  | cons g gs ih => rw [groupEncounters, ih, List.flatMap_cons]

/-- A search through a group comes upon what searches through its parts come upon. -/
theorem Group.encounters_subset {g : Group} {f : Filter} (hf : f ∈ g.parts) :
    f.encounters ⊆ g.encounters := by
  cases g with
  | mk op fs gs =>
    by_cases hnest : ∃ g, fs = [] ∧ gs = [g]
    · obtain ⟨g, rfl, rfl⟩ := hnest
      obtain ⟨g', hg, rfl⟩ := List.mem_map.1 hf
      obtain rfl := List.mem_singleton.1 (List.mem_of_mem_filter hg)
      rw [Group.encounters, Filter.encounters]
      exact List.Subset.refl _
    · rw [Group.encounters.eq_2 op fs gs fun g hf hg => hnest ⟨g, hf, hg⟩,
        filterEncounters_eq_flatMap, groupEncounters_eq_flatMap]
      intro v hv
      refine List.mem_cons_of_mem _ (List.mem_append.2 ?_)
      rcases List.mem_append.1 hf with hf | hf
      · exact .inl (List.mem_flatMap.2 ⟨f, hf, hv⟩)
      · obtain ⟨g, hg, rfl⟩ := List.mem_map.1 hf
        exact .inr (List.mem_flatMap.2 ⟨g, List.mem_of_mem_filter hg, hv⟩)

theorem Group.leaves_subset {g : Group} {f : Filter} (hf : f ∈ g.parts) : f.leaves ⊆ g.leaves := by
  intro c hc
  rw [leaves_eq_flatMap]
  exact List.mem_flatMap.2 ⟨f, hf, hc⟩

namespace Group.Excludes

variable {g : Group}

theorem isEmpty_eq_false (h : g.Excludes) : g.isEmpty = false := by
  rw [← Bool.not_eq_true, isEmpty_iff_parts]
  intro hparts
  cases h with
  | choice hop hmany =>
    rw [hparts] at hmany
    cases hmany
  | inside hpart h =>
    rw [hparts] at hpart
    cases hpart

/-- Redundant nesting offers no choice. -/
theorem of_nested {op : LogicalOperator} (h : (Group.mk op [] [g]).Excludes) : g.Excludes := by
  have hparts : (Group.mk op [] [g]).parts = [] ∨
      (Group.mk op [] [g]).parts = [.compound g false] := by
    cases hg : g.isEmpty <;> simp [parts, hg]
  cases h with
  | choice hop hmany => rcases hparts with hparts | hparts <;> simp [hparts] at hmany
  | inside hpart h =>
    rcases hparts with hparts | hparts <;> rw [hparts] at hpart
    · cases hpart
    · cases List.mem_singleton.1 hpart
      exact h

theorem flatten (h : g.Excludes) : g.flatten.Excludes := by
  fun_induction Group.flatten g with
  | case1 op g ih => exact ih h.of_nested
  | case2 => exact h

theorem mem_encounters (h : g.Excludes) : .operator .xor ∈ g.encounters := by
  induction h with
  | @choice g hop hmany =>
    cases g with
    | mk op fs gs =>
      obtain rfl : op = .xor := hop
      rw [Group.encounters.eq_2]
      · exact List.mem_cons_self
      · rintro g rfl rfl
        cases hg : g.isEmpty <;> simp [parts, hg] at hmany
  | inside hpart h ih => exact Group.encounters_subset hpart ih

end Group.Excludes

/-- Where all conditions can be sent, a search comes upon every exclusive or. -/
theorem meetsXor_of_mem {vs : List Encounter} (hxor : .operator .xor ∈ vs)
    (h : ∀ c, .condition c ∈ vs → t.canSend c = true) : MeetsXor t vs := by
  obtain ⟨before, after, rfl, hfirst⟩ := List.eq_append_cons_of_mem hxor
  refine ⟨before, after, rfl, fun v hv => ?_⟩
  cases v with
  | operator op =>
    rintro rfl
    exact hfirst hv
  | condition c => exact h c (List.mem_append_left _ hv)

namespace Group

variable {g : Group}

theorem Excludes.meetsXor (h : g.Excludes) (hsend : ∀ c ∈ g.leaves, t.canSend c = true) :
    MeetsXor t g.encounters :=
  meetsXor_of_mem h.mem_encounters fun c hc => hsend c (g.mem_leaves_of_encounters hc)

theorem Excludes.exists_search (h : g.Excludes) (hsend : ∀ c ∈ g.leaves, t.canSend c = true) :
    ∃ vs ∈ g.searches, MeetsXor t vs := by
  have hne := h.isEmpty_eq_false
  cases hop : g.operator with
  | and =>
    cases h with
    | choice hxor hmany => cases hop.symm.trans hxor
    | @inside _ g' l hpart h =>
      refine ⟨g'.encounters, ?_, h.meetsXor fun c hc => hsend c (leaves_subset hpart hc)⟩
      rw [searches, hop]
      exact List.mem_map.2 ⟨_, hpart, rfl⟩
  | or | xor =>
    refine ⟨g.encounters, ?_, h.meetsXor hsend⟩
    rw [searches, hop, if_neg (by rw [hne]; exact Bool.false_ne_true)]
    exact List.mem_singleton_self _

theorem xor_notMem_of_sendable (ht : t.supportsGroups = true) (h : g.sendable t = .ok true) :
    .operator .xor ∉ g.encounters := by
  intro hxor
  rw [g.sendable_eq_search ht] at h
  exact passes_of_search ht h _ hxor rfl

end Group

/-- A split refuses exactly the groups in which some search comes upon an exclusive or before a
condition that cannot be sent. Where all conditions can be sent that is any exclusive or that has a
choice; where not, it may stand behind one that cannot, and then it is not sent either. -/
theorem split_refuses_iff (ht : t.supportsGroups = true) (g : Group) :
    (∀ e, g.split t = .error e ↔
      e = .operator "XOR" ∧ ∃ vs ∈ g.flatten.searches, MeetsXor t vs) ∧
    (g.Excludes → (∀ c ∈ g.leaves, t.canSend c = true) →
      g.split t = .error (.operator "XOR")) ∧
    ∀ s, g.split t = .ok s → ¬s.remote.Excludes := by
  refine ⟨fun e => Group.split_eq_error_iff ht, fun hex hsend => ?_, fun s hs => ?_⟩
  · rw [← Group.leaves_flatten] at hsend
    exact (Group.split_eq_error_iff ht).2 ⟨rfl, hex.flatten.exists_search hsend⟩
  · exact fun hex => Group.xor_notMem_of_sendable ht (Group.sendable_remote hs) hex.mem_encounters

/-- A test for a number, of a field that conditions are sent for or not. -/
def fieldIs (field : String) (remote : Bool) (n : Int) : Condition where
  target := .attribute
    { name := field, dataAddress := field, options := { filterRemote := some remote } }
  value := .int n

/-- One of two conditions but not both. -/
def eitherField : Group :=
  .mk .xor [.condition (fieldIs "a" true 1), .condition (fieldIs "b" true 2)] []

/-- An exclusive or inside a filter, beside a condition that is not sent. -/
def excludingGroup : Group :=
  .mk .and [.condition (fieldIs "c" false 1)]
    [.mk .or [.condition (fieldIs "d" true 3), .compound eitherField false] []]

theorem split_refuses_excludingGroup : FilterStyle.odata2.supportsGroups = true ∧
    excludingGroup.Excludes ∧ FilterStyle.odata2.canSend (fieldIs "c" false 1) = false ∧
      excludingGroup.split .odata2 = .error (.operator "XOR") := by
  have heither : eitherField.Excludes := .choice rfl (by decide)
  refine ⟨rfl, .inside (List.mem_cons_of_mem _ List.mem_cons_self)
    (.inside (List.mem_cons_of_mem _ List.mem_cons_self) heither), rfl, ?_⟩
  refine ((split_refuses_iff rfl excludingGroup).1 _).2 ⟨rfl, _,
    List.mem_cons_of_mem _ List.mem_cons_self, [.operator .or, .condition (fieldIs "d" true 3)], _,
    rfl, ?_⟩
  simp only [List.forall_mem_cons]
  exact ⟨nofun, rfl, List.forall_mem_nil _⟩

/-- Of two alternatives, one with an exclusive or and one that is not sent, the order decides
whether the exclusive or is refused or the whole is left for evaluation after reading. -/
theorem xor_behind_unsent :
    let other : Group := .mk .and [.condition (fieldIs "c" false 1)] []
    let first : Group := .mk .or [] [eitherField, other]
    let last : Group := .mk .or [] [other, eitherField]
    first.Excludes ∧ last.Excludes ∧ first.split .odata4 = .error (.operator "XOR") ∧
      last.split .odata4 = .ok ⟨.empty, last.markLocal⟩ := by
  have heither : eitherField.Excludes := .choice rfl (by decide)
  exact ⟨.inside List.mem_cons_self heither,
    .inside (List.mem_cons_of_mem _ List.mem_cons_self) heither, rfl, rfl⟩

end EntityQuery
