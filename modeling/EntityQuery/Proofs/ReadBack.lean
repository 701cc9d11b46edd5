import EntityQuery.Proofs.NestedValues

/-!
# Values read back where they were set

Setting a value in an empty map makes one map for each step of the path, whatever the step looks
like (`putAt_nil`), while reading takes a step with an opening bracket for a condition on the items
below. So the value is found again exactly if each step is a name, or a condition without a name
that what stands below it happens to meet (`find_mergeInto_iff`).
-/

namespace EntityQuery.Path

variable {step path : String} {names : List String} {value inner : Value}

/-- A value below some names, in one map for each. -/
def below (names : List String) (value : Value) : Value :=
  names.foldr (fun name inner => .map [(name, inner)]) value

/-- A step that is the only name of a map leads to what stands under it: it is a name, or a
condition without a name that this meets. -/
def LeadsTo (step : String) (inner : Value) : Prop :=
  IsName step ∨ ∃ key value, Step.parse step = .ok ⟨"", some (key, value)⟩ ∧
    hasEntry key value inner = true

/-- Every step leads to what stands below it. -/
def LeadBack : List String → Value → Prop
  | [], _ => True
  | step :: rest, value => LeadsTo step (below rest value) ∧ LeadBack rest value

theorem putAt_nil (hne : names ≠ []) (value : Value) :
    Value.map (putAt [] names value) = below names value := by
  induction names with
  | nil => exact absurd rfl hne
  | cons name names ih =>
    cases names with
    | nil => rfl
    | cons next rest =>
      rw [below, List.foldr_cons, ← below, ← ih (List.cons_ne_nil _ _)]
      rfl

/-- A name leads to what stands under it, and so does a condition that this meets. -/
theorem take_of_leadsTo (hne : step ≠ "") (h : LeadsTo step inner) :
    take (.map [(step, inner)]) step = .ok inner := by
  rcases h with h | ⟨key, value, hparse, hentry⟩
  · rw [take_map h hne, Row.get?, List.lookup_cons_self, Option.getD_some]
  · rw [take, hparse]
    simp [bind, Except.bind, pure, Except.pure, hentry]

/-- Otherwise a step leads nowhere, if it can be read at all. -/
theorem take_of_not_leadsTo (h : ¬LeadsTo step inner) :
    take (.map [(step, inner)]) step = .ok .null ∨
      ∃ fault, take (.map [(step, inner)]) step = .error fault := by
  rw [LeadsTo, not_or] at h
  obtain ⟨hname, hcondition⟩ := h
  rcases Step.parse_cases hname with ⟨name, ⟨key, value⟩, hparse, hn⟩ | hparse | hparse
  · refine .inl ?_
    rw [take, hparse]
    by_cases hempty : name = ""
    · subst hempty
      have hentry : hasEntry key value inner = false := by
        by_contra hentry
        exact hcondition ⟨key, value, hparse, by simpa using hentry⟩
      simp [bind, Except.bind, pure, Except.pure, hentry]
    · have hother : name ≠ step := fun he => hname (he ▸ hn)
      simp [bind, Except.bind, pure, Except.pure, follow, hempty, List.lookup_cons,
        beq_eq_false_iff_ne.2 hother]
  · exact .inr ⟨_, by rw [take, hparse]; rfl⟩
  · exact .inr ⟨_, by rw [take, hparse]; rfl⟩

theorem findSteps_below_iff (hne : ∀ step ∈ names, step ≠ "") (hvalue : value ≠ .null) :
    findSteps names (below names value) = .ok value ↔ LeadBack names value := by
  induction names with
  | nil => exact ⟨fun _ => trivial, fun _ => rfl⟩
  | cons step names ih =>
    rw [List.forall_mem_cons] at hne
    have hmap : below (step :: names) value = .map [(step, below names value)] := rfl
    rw [LeadBack, hmap, findSteps]
    by_cases hlead : LeadsTo step (below names value)
    · rw [Except.bind_of_ok _ (take_of_leadsTo hne.1 hlead), ih hne.2]
      exact (and_iff_right hlead).symm
    · refine iff_of_false (fun h => ?_) fun h => hlead h.1
      rcases take_of_not_leadsTo hlead with hnull | ⟨fault, hfault⟩
      · rw [Except.bind_of_ok _ hnull, findSteps_null] at h
        exact hvalue (Except.ok.inj h).symm
      · rw [hfault] at h
        cases h
    · exact Value.noConfusion

/-- A value set at a path in an empty map is found there exactly if every step of the path leads to
what stands below it, and, where the path has no steps and nothing is set, if it is the empty map
itself. -/
theorem find_mergeInto_iff (path : String) (hvalue : value ≠ .null) :
    find (.map (mergeInto [] path value)) path = .ok value ↔
      (steps path = [] → value = .map []) ∧ LeadBack (steps path) value := by
  rw [find, mergeInto]
  by_cases hsteps : steps path = []
  · rw [hsteps]
    constructor
    · intro h
      exact ⟨fun _ => (Except.ok.inj h).symm, trivial⟩
    · intro h
      rw [h.1 rfl]
      rfl
  · rw [putAt_nil hsteps, findSteps_below_iff (fun _ => ne_empty_of_mem_steps) hvalue]
    exact (and_iff_right fun h => absurd h hsteps).symm

/-- A name, a condition that the map below it meets, and a name again. -/
theorem find_mergeInto_kind : Value.str "main" ≠ .null ∧
    mergeInto [] "/Lines//[Kind=main]/Kind" (.str "main") =
      [("Lines", .map [("[Kind=main]", .map [("Kind", .str "main")])])] ∧
    find (.map (mergeInto [] "/Lines//[Kind=main]/Kind" (.str "main"))) "/Lines//[Kind=main]/Kind" =
      .ok (.str "main") := by
  have hvalue : Value.str "main" ≠ .null := by decide
  have hsteps : steps "/Lines//[Kind=main]/Kind" = ["Lines", "[Kind=main]", "Kind"] := by
    decide +kernel
  have hlead : LeadBack ["Lines", "[Kind=main]", "Kind"] (.str "main") := by
    refine ⟨.inl (by decide), .inr ⟨"Kind", "main", ?_, ?_⟩, .inl (by decide), trivial⟩
    · decide +kernel
    · decide +kernel
  refine ⟨hvalue, by decide +kernel, (find_mergeInto_iff _ hvalue).2 ⟨?_, hsteps ▸ hlead⟩⟩
  rw [hsteps]
  exact nofun

/-- What is set at a condition, closed or not, is not found there, and without steps nothing is
set. -/
theorem find_mergeInto_lost :
    find (.map (mergeInto [] "Homes[kind=main]/City" (.str "Rome"))) "Homes[kind=main]/City" =
      .ok .null ∧
    find (.map (mergeInto [] "Homes[kind=main" (.str "Rome"))) "Homes[kind=main" =
      .error (.unclosed "Homes[kind=main") ∧
    find (.map (mergeInto [] "/" (.str "Rome"))) "/" = .ok (.map []) := by
  decide +kernel

end EntityQuery.Path
