import EntityQuery.Proofs.SilentExpression

/-!
# What an expression is made of

The expression of a group holds a predicate for each condition that has an effect, in the order of
the conditions, and nothing else (`Group.traces_of_expression?`); there is none if no condition has
one. It fails where one of the predicates does, or at an exclusive or
(`Group.expression?_eq_error`); and a predicate fails where a value has no literal, or where the
condition has no field (`Condition.predicate?_eq_error`).
-/

namespace EntityQuery

variable {t : FilterStyle} {e : Error}

/-- Errors about the values of a condition: one has no literal, or they are a text that cannot be
split into values. -/
inductive Error.IsValueFault : Error → Prop
  | literal (fault : CodecFault) (condition : String) : IsValueFault (.codec fault condition)
  | separator : IsValueFault (.malformed .separator)

namespace Condition

variable {c : Condition} {s field : String}

/-- A condition that asks for more than membership in no values or likeness to nothing. -/
structure HasEffect (c : Condition) : Prop where
  values_ne : c.comparator.isMembership = true → c.values ≠ .ok []
  value_ne : c.comparator = .is ∨ c.comparator = .isNot → c.value.isMissing = false

/-- A text that asks something of a field, as a condition does. -/
inductive SaysOver (t : FilterStyle) (c : Condition) (field : String) : String → Prop
  | comparison (word operand : String) : SaysOver t c field (field ++ " " ++ word ++ " " ++ operand)
  | containment (operand : String) : SaysOver t c field (c.containment t field operand)
  | membership (literals : List String) : SaysOver t c field (c.membership t field literals)

theorem isValueFault_of_literal {v : Value} (h : c.literal t v = .error e) : e.IsValueFault := by
  rw [literal] at h
  split at h
  · cases h
  · cases h
    exact .literal _ _

theorem isValueFault_of_operand (h : c.operand t = .error e) : e.IsValueFault := by
  rcases Except.bind_eq_error_iff.1 h with h | ⟨literal, -, h⟩
  · exact isValueFault_of_literal h
  · cases h

theorem isValueFault_of_values (h : c.values = .error e) : e.IsValueFault := by
  rw [values] at h
  split at h
  · cases h
    exact .separator
  · cases h

/-- Asking for one value instead of membership in one leaves the field as it is. -/
theorem remoteParameter?_simplify (ht : t.supportsGroups = true) (c : Condition) :
    t.remoteParameter? c.simplify = t.remoteParameter? c := by
  rw [simplify]
  split <;> cases t <;> first | rfl | cases ht

theorem field_eq_ok_iff : c.field t = .ok field ↔ t.remoteParameter? c = some field := by
  rw [Condition.field]
  cases t.remoteParameter? c <;> simp

theorem field_eq_error_iff :
    c.field t = .error e ↔ t.remoteParameter? c = none ∧ e = .query (.unsendable c.shown) := by
  rw [Condition.field]
  cases t.remoteParameter? c <;> simp [eq_comm]

theorem comparison?_eq_error (h : c.comparison? t = .error e) :
    e.IsValueFault ∨ t.remoteParameter? c = none ∧ e = .query (.unsendable c.shown) := by
  rcases Except.bind_eq_error_iff.1 h with h | ⟨field, -, h⟩
  · exact .inr (field_eq_error_iff.1 h)
  refine .inl ?_
  split at h
  · rcases Except.bind_eq_error_iff.1 h with h | ⟨operand, -, h⟩
    · exact isValueFault_of_operand h
    · cases h
  split at h
  · cases h
  split at h <;> rcases Except.bind_eq_error_iff.1 h with h | ⟨operand, -, h⟩
  · exact isValueFault_of_operand h
  · cases h
  · exact isValueFault_of_operand h
  · cases h

theorem saysOver_of_comparison? (h : c.comparison? t = .ok (some s)) :
    ∃ field, t.remoteParameter? c = some field ∧ c.SaysOver t field s := by
  obtain ⟨field, hfield, h⟩ := Except.bind_eq_ok_iff.1 h
  refine ⟨field, field_eq_ok_iff.1 hfield, ?_⟩
  split at h
  · obtain ⟨operand, -, h⟩ := Except.bind_eq_ok_iff.1 h
    cases h
    exact .comparison _ _
  split at h
  · cases h
  split at h <;> obtain ⟨operand, -, h⟩ := Except.bind_eq_ok_iff.1 h <;> cases h
  · exact .containment _
  · exact .comparison _ _

/-- The predicate of a condition is the comparison of the simplified one, or a membership test where
that is the condition itself. -/
theorem predicate?_cases (c : Condition) :
    c.predicate? t = .ok none ∨ (∃ e, e.IsValueFault ∧ c.predicate? t = .error e) ∨
      c.predicate? t = c.simplify.comparison? t ∨
      c.simplify = c ∧ ∃ values : List Value, c.predicate? t = (do
        let field ← c.field t
        pure (some (c.membership t field (← values.mapM (c.literal t))))) := by
  rw [predicate?]
  by_cases hc : c.comparator.isMembership = true
  · rw [if_pos hc]
    cases hvalues : c.values with
    | error e => exact .inr (.inl ⟨e, isValueFault_of_values hvalues, rfl⟩)
    | ok values =>
      have hmembers : c.members = values := by
        rw [Condition.values] at hvalues
        split at hvalues
        · cases hvalues
        · exact Except.ok.inj hvalues
      rcases values with _ | ⟨v, _ | ⟨w, values⟩⟩
      · exact .inl rfl
      · exact .inr (.inr (.inl rfl))
      · refine .inr (.inr (.inr ⟨?_, _, rfl⟩))
        rw [simplify, hmembers]
        split <;> first | rfl | simp_all
  · rw [if_neg hc]
    refine .inr (.inr (.inl ?_))
    have hsame : c.simplify = c := by
      rw [simplify]
      split <;> simp_all [Comparator.isMembership]
    rw [hsame]

theorem predicate?_eq_error (ht : t.supportsGroups = true) (h : c.predicate? t = .error e) :
    e.IsValueFault ∨ t.remoteParameter? c = none ∧ e = .query (.unsendable c.simplify.shown) := by
  rcases c.predicate?_cases (t := t) with hp | ⟨e', he', hp⟩ | hp | ⟨hsame, values, hp⟩ <;>
    rw [hp] at h
  · cases h
  · cases h
    exact .inl he'
  · rw [← remoteParameter?_simplify ht]
    exact comparison?_eq_error h
  · rcases Except.bind_eq_error_iff.1 h with h | ⟨field, -, h⟩
    · rw [hsame]
      exact .inr (field_eq_error_iff.1 h)
    rcases Except.bind_eq_error_iff.1 h with h | ⟨literals, -, h⟩
    · obtain ⟨v, -, hv⟩ := List.exists_of_mapM_eq_error h
      exact .inl (isValueFault_of_literal hv)
    · cases h

/-- A predicate asks something of the field of its condition, as the condition does once it is
simplified. -/
theorem saysOver_of_predicate? (ht : t.supportsGroups = true)
    (h : c.predicate? t = .ok (some s)) :
    ∃ field, t.remoteParameter? c = some field ∧ c.simplify.SaysOver t field s := by
  rcases c.predicate?_cases (t := t) with hp | ⟨e', he', hp⟩ | hp | ⟨hsame, values, hp⟩ <;>
    rw [hp] at h
  · cases h
  · cases h
  · rw [← remoteParameter?_simplify ht]
    exact saysOver_of_comparison? h
  · obtain ⟨field, hfield, h⟩ := Except.bind_eq_ok_iff.1 h
    obtain ⟨literals, -, h⟩ := Except.bind_eq_ok_iff.1 h
    cases h
    rw [hsame]
    exact ⟨field, field_eq_ok_iff.1 hfield, .membership literals⟩

theorem isSilent_eq {x : Option String} (h : c.predicate? t = .ok x) :
    c.isSilent t = x.isNone := by
  rw [isSilent, h]
  cases x <;> rfl

theorem not_hasEffect_of_isSilent (h : c.isSilent t = true) : ¬c.HasEffect := by
  intro heffect
  rcases isSilent_cases h with ⟨hc, hd, hm⟩ | ⟨hc, hv⟩
  · refine heffect.values_ne hc ?_
    rw [Condition.values, hd, hm]
    rfl
  · cases hv.symm.trans (heffect.value_ne hc)

theorem hasEffect_of_predicate? (h : c.predicate? t = .ok (some s)) : c.HasEffect := by
  rw [predicate?] at h
  refine ⟨fun hc hvalues => ?_, fun hc => ?_⟩
  · rw [if_pos hc, hvalues] at h
    cases h
  · have hword : operatorWord? c.comparator = none := by rcases hc with hc | hc <;> rw [hc] <;> rfl
    rw [if_neg (by rcases hc with hc | hc <;> rw [hc] <;> exact Bool.false_ne_true)] at h
    obtain ⟨field, -, h⟩ := Except.bind_eq_ok_iff.1 h
    cases hv : c.value.isMissing with
    | false => rfl
    | true =>
      simp only [hword, if_pos hv] at h
      cases h

theorem hasEffect_of_equals (h : c.comparator = .equals) : c.HasEffect := by
  refine ⟨fun hc => ?_, fun hc => ?_⟩
  · rw [h] at hc
    cases hc
  · rcases hc with hc | hc <;> cases h.symm.trans hc

theorem hasEffect_markLocal (c : Condition) : c.markLocal.HasEffect ↔ c.HasEffect :=
  ⟨fun h => ⟨h.values_ne, h.value_ne⟩, fun h => ⟨h.values_ne, h.value_ne⟩⟩

end Condition

/-- Chains that hold the predicates of those conditions that are not silent, and none that holds
nothing. -/
structure Traces (t : FilterStyle) (cs : List Condition) (ms : List Chain) : Prop where
  texts : List.Forall₂ (fun c s => c.predicate? t = .ok (some s)) (cs.filter (!·.isSilent t))
    ((Chain.memberLeaves ms).map Prod.snd)
  leaves_ne : ∀ m ∈ ms, m.leaves ≠ []

namespace Traces

variable {cs ds : List Condition} {ms ns : List Chain}

theorem nil : Traces t [] [] := ⟨.nil, List.forall_mem_nil _⟩

theorem append (h : Traces t cs ms) (h' : Traces t ds ns) : Traces t (cs ++ ds) (ms ++ ns) := by
  refine ⟨?_, List.forall_mem_append.2 ⟨h.leaves_ne, h'.leaves_ne⟩⟩
  rw [List.filter_append, Chain.memberLeaves_append, List.map_append]
  exact List.rel_append h.texts h'.texts

theorem joined {op : LogicalOperator} (hne : ms ≠ []) (h : Traces t cs ms) :
    Traces t cs [.joined op ms] := by
  refine ⟨?_, List.forall_mem_singleton.2 ?_⟩
  · rw [Chain.memberLeaves, Chain.leaves, Chain.memberLeaves, List.append_nil]
    exact h.texts
  · obtain ⟨m, members, rfl⟩ := List.exists_cons_of_ne_nil hne
    rw [Chain.leaves, Chain.memberLeaves]
    exact List.append_ne_nil_of_left_ne_nil (h.leaves_ne m List.mem_cons_self) _

theorem of_predicate? {c : Condition} {x : Option String} (h : c.predicate? t = .ok x) :
    Traces t [c] (x.map (Chain.predicate c)).toList := by
  have hsilent := Condition.isSilent_eq h
  cases x with
  | none =>
    refine ⟨?_, List.forall_mem_nil _⟩
    rw [List.filter_cons_of_neg (by simp [hsilent])]
    exact .nil
  | some s =>
    refine ⟨?_, List.forall_mem_singleton.2 (List.cons_ne_nil _ _)⟩
    rw [List.filter_cons_of_pos (by simp [hsilent])]
    exact .cons h .nil

end Traces

theorem traces_of_filterExpressions {fs : List Filter} {ms : List Chain}
    (hparts : ∀ f ∈ fs, ∀ x, f.expression? t = .ok x → Traces t f.leaves x.toList)
    (h : filterExpressions t fs = .ok ms) : Traces t (fs.flatMap Filter.leaves) ms := by
  induction fs generalizing ms with
  | nil =>
    cases h
    exact .nil
  | cons f fs ih =>
    rw [List.forall_mem_cons] at hparts
    obtain ⟨x, hx, h⟩ := Except.bind_eq_ok_iff.1 h
    obtain ⟨ns, hns, h⟩ := Except.bind_eq_ok_iff.1 h
    cases h
    exact (hparts.1 x hx).append (ih hparts.2 hns)

/-- An expression holds the predicates of the conditions that are not silent, in their order. -/
theorem Group.traces_of_expression? {g : Group} {x : Option Chain} (h : g.expression? t = .ok x) :
    Traces t g.leaves x.toList := by
  induction g using parts_induction generalizing x with
  | step g ih =>
    rcases g.expression?_cases (t := t) with ⟨ms, x', hms, hx, hjoined⟩ | ⟨e, -, he⟩ | ⟨e, -, -, he⟩
    · cases h.symm.trans hx
      rw [leaves_eq_flatMap]
      have htraces := traces_of_filterExpressions (fun f hf y hy => ?_) hms
      · rcases hjoined with rfl | ⟨rfl, hne⟩
        · exact htraces
        · exact htraces.joined hne
      cases f with
      | condition c =>
        obtain ⟨p, hp, hy⟩ := Except.bind_eq_ok_iff.1 hy
        cases hy
        exact .of_predicate? hp
      | compound g' l => exact ih g' l hf hy
    · cases h.symm.trans he
    · cases h.symm.trans he

/-- There is an expression exactly if a condition has an effect. -/
theorem Group.isSome_expression?_iff {g : Group} {x : Option Chain}
    (h : g.expression? t = .ok x) : x.isSome = true ↔ ∃ c ∈ g.leaves, c.HasEffect := by
  have htraces := Group.traces_of_expression? h
  constructor
  · intro hsome
    obtain ⟨chain, rfl⟩ := Option.isSome_iff_exists.1 hsome
    have htexts := htraces.texts
    cases hcs : g.leaves.filter (!·.isSilent t) with
    | nil =>
      rw [hcs, List.forall₂_nil_left_iff, List.map_eq_nil_iff] at htexts
      exact absurd (List.append_eq_nil_iff.1 htexts).1
        (htraces.leaves_ne chain (List.mem_singleton_self _))
    | cons c cs =>
      rw [hcs] at htexts
      obtain ⟨s, -, hc, -, -⟩ := List.forall₂_cons_left_iff.1 htexts
      refine ⟨c, List.mem_of_mem_filter (hcs ▸ List.mem_cons_self), ?_⟩
      exact Condition.hasEffect_of_predicate? hc
  · rintro ⟨c, hc, heffect⟩
    have hmem : c ∈ g.leaves.filter (!·.isSilent t) := by
      refine List.mem_filter.2 ⟨hc, ?_⟩
      rw [Bool.not_eq_true', ← Bool.not_eq_true]
      exact fun hsilent => Condition.not_hasEffect_of_isSilent hsilent heffect
    cases x with
    | some chain => rfl
    | none =>
      have htexts := htraces.texts
      rw [Option.toList_none, Chain.memberLeaves, List.map_nil, List.forall₂_nil_right_iff]
        at htexts
      rw [htexts] at hmem
      cases hmem

theorem exists_of_filterExpressions_eq_error {fs : List Filter}
    (h : filterExpressions t fs = .error e) : ∃ f ∈ fs, f.expression? t = .error e := by
  induction fs with
  | nil => cases h
  | cons f fs ih =>
    rcases Except.bind_eq_error_iff.1 h with hf | ⟨x, -, h⟩
    · exact ⟨f, List.mem_cons_self, hf⟩
    rcases Except.bind_eq_error_iff.1 h with hfs | ⟨ns, -, h⟩
    · obtain ⟨f', hf', hfails⟩ := ih hfs
      exact ⟨f', List.mem_cons_of_mem _ hf', hfails⟩
    · cases h

/-- Only a predicate or an exclusive or makes an expression fail. -/
theorem Group.expression?_eq_error {g : Group} (h : g.expression? t = .error e) :
    (∃ c ∈ g.leaves, c.predicate? t = .error e) ∨ .operator .xor ∈ g.encounters := by
  induction g using parts_induction with
  | step g ih =>
    rcases g.expression?_cases (t := t) with ⟨ms, x', -, hx, -⟩ | ⟨e', hfails, he⟩ |
      ⟨e', -, hxor, -⟩
    · cases h.symm.trans hx
    · cases h.symm.trans he
      obtain ⟨f, hf, hfails⟩ := exists_of_filterExpressions_eq_error hfails
      cases f with
      | condition c =>
        refine .inl ⟨c, leaves_subset hf (List.mem_singleton_self _), ?_⟩
        rcases Except.bind_eq_error_iff.1 hfails with hp | ⟨p, -, hp⟩
        · exact hp
        · cases hp
      | compound g' l =>
        refine (ih g' l hf hfails).imp ?_ fun hxor => encounters_subset hf hxor
        exact fun ⟨c, hc, hp⟩ => ⟨c, leaves_subset hf hc, hp⟩
    · exact .inr hxor

theorem Group.exists_expression_of_parameters (ht : t.supportsGroups = true) {g : Group}
    {params : Url.Params} (h : g.parameters t = .ok params) : ∃ x, g.expression? t = .ok x ∧
      params = x.toList.map fun chain => ("$filter", some chain.text) := by
  cases t with
  | urlParameters | arguments => cases ht
  | odata2 | odata4 =>
    obtain ⟨x, hx, h⟩ := Except.bind_eq_ok_iff.1 h
    cases x <;> cases h <;> exact ⟨_, hx, rfl⟩

end EntityQuery
