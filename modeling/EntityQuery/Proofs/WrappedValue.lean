import EntityQuery.Data.Path
import EntityQuery.Proofs.Outcome
import EntityQuery.Proofs.Separation

/-!
# Values wrapped at a path

A step without an opening bracket is the name of an entry, digits or not, and a step with one either
picks an item by a condition or is malformed (`Step.parse_cases`). So a value can be wrapped at a
path exactly if all steps are names, and the path leads to the value in what is built around it
(`find_wrap`).
-/

namespace EntityQuery

open Text

/-- The fault of a path that cannot be used: a step opens a condition, closed or not. -/
def PathFault.IsSelector (f : PathFault) (step : String) : Prop :=
  f = .unclosed step ∨ f = .malformed step ∨ f = .selectorInBody step

namespace Path

variable {step path : String} {value found : Value} {fault : PathFault}

/-- A step that names an entry and nothing else. -/
def IsName (step : String) : Prop := '[' ∉ step.toList

instance (step : String) : Decidable (IsName step) :=
  inferInstanceAs (Decidable ('[' ∉ step.toList))

theorem ne_empty_of_mem_steps (h : step ∈ steps path) : step ≠ "" := by
  rintro rfl
  exact absurd (List.mem_filter.1 h).2 (by decide)

theorem Step.parse_of_isName (h : IsName step) : Step.parse step = .ok ⟨step, none⟩ := by
  rw [Step.parse, cut?_of_not_mem rfl h]

theorem Step.parse_cases (h : ¬IsName step) :
    (∃ name condition, Step.parse step = .ok ⟨name, some condition⟩ ∧ IsName name) ∨
      Step.parse step = .error (.unclosed step) ∨ Step.parse step = .error (.malformed step) := by
  obtain ⟨name, rest, hsplit, hname⟩ := List.eq_append_cons_of_mem (not_not.1 h)
  have hcut : cut? "[" step = some (String.ofList name, String.ofList rest) := by
    have hstep : step = String.ofList name ++ "[" ++ String.ofList rest := by
      rw [← String.toList_inj, hsplit]
      simp
    rw [hstep]
    exact cut?_append rfl (by rwa [String.toList_ofList])
  unfold Step.parse
  rw [hcut]
  dsimp only
  split
  · split
    · split_ifs
      · exact .inr (.inr rfl)
      · exact .inl ⟨_, _, rfl, by rwa [IsName, String.toList_ofList]⟩
    · exact .inr (.inr rfl)
  · exact .inr (.inl rfl)

theorem wrapStep_of_isName (h : IsName step) (value : Value) :
    wrapStep step value = .ok (.map [(step, value)]) := by
  rw [wrapStep, Step.parse_of_isName h]
  rfl

theorem exists_wrapStep_eq_error (h : ¬IsName step) (value : Value) :
    ∃ fault, wrapStep step value = .error fault ∧ fault.IsSelector step := by
  rw [wrapStep]
  rcases Step.parse_cases h with ⟨name, condition, hparse, -⟩ | hparse | hparse <;> rw [hparse]
  · exact ⟨_, rfl, .inr (.inr rfl)⟩
  · exact ⟨_, rfl, .inl rfl⟩
  · exact ⟨_, rfl, .inr (.inl rfl)⟩

/-- A name leads to the entry of a map under it, and to nothing where there is none. -/
theorem take_map (h : IsName step) (hne : step ≠ "") (entries : Row) :
    take (.map entries) step = .ok ((entries.get? step).getD .null) := by
  rw [take, Step.parse_of_isName h]
  simp [bind, Except.bind, hne, follow, Row.get?, pure, Except.pure]

theorem findSteps_null (names : List String) : findSteps names .null = .ok .null := by
  cases names <;> rfl

theorem findSteps_map (h : IsName step) (hne : step ≠ "") (entries : Row) (rest : List String) :
    findSteps (step :: rest) (.map entries) =
      findSteps rest ((entries.get? step).getD .null) := by
  rw [findSteps, take_map h hne, Except.bind_of_ok _ rfl]
  exact nofun

theorem wrapSteps_cases (names : List String) (value : Value) :
    (∃ d, wrapSteps names value = .ok d ∧ ∀ step ∈ names, IsName step) ∨
      ∃ fault, wrapSteps names value = .error fault ∧
        ∃ step ∈ names, ¬IsName step ∧ fault.IsSelector step := by
  induction names with
  | nil => exact .inl ⟨value, rfl, List.forall_mem_nil _⟩
  | cons step names ih =>
    rw [wrapSteps]
    rcases ih with ⟨d, hd, hnames⟩ | ⟨fault, hfault, other, hother, hselector⟩
    · rw [Except.bind_of_ok _ hd]
      by_cases hstep : IsName step
      · exact .inl ⟨_, wrapStep_of_isName hstep d, List.forall_mem_cons.2 ⟨hstep, hnames⟩⟩
      · obtain ⟨fault, hfault, hselector⟩ := exists_wrapStep_eq_error hstep d
        exact .inr ⟨fault, hfault, step, List.mem_cons_self, hstep, hselector⟩
    · exact .inr ⟨fault, by rw [hfault]; rfl, other, List.mem_cons_of_mem _ hother, hselector⟩

theorem findSteps_wrapSteps {names : List String} (hne : ∀ step ∈ names, step ≠ "")
    (h : wrapSteps names value = .ok found) : findSteps names found = .ok value := by
  induction names generalizing found with
  | nil =>
    cases h
    rfl
  | cons step names ih =>
    rw [List.forall_mem_cons] at hne
    rw [wrapSteps] at h
    obtain ⟨inner, hinner, hstep⟩ := Except.bind_eq_ok_iff.1 h
    by_cases hname : IsName step
    · rw [wrapStep_of_isName hname] at hstep
      cases hstep
      rw [findSteps_map hname hne.1]
      simpa [Row.get?] using ih hne.2 hinner
    · obtain ⟨fault, hfault, -⟩ := exists_wrapStep_eq_error hname inner
      rw [hfault] at hstep
      cases hstep

/-- A value is wrapped at a path unless one of its steps has an opening bracket, which is what the
fault is about, and the path leads from what is built to the value. -/
theorem find_wrap (path : String) (value : Value) :
    (∀ found, wrap path value = .ok found → find found path = .ok value) ∧
      (∀ fault, wrap path value = .error fault →
        ∃ step ∈ steps path, '[' ∈ step.toList ∧ fault.IsSelector step) ∧
      ((∃ fault, wrap path value = .error fault) ↔ ∃ step ∈ steps path, '[' ∈ step.toList) := by
  refine ⟨fun found h => findSteps_wrapSteps (fun _ => ne_empty_of_mem_steps) h, ?_⟩
  rcases wrapSteps_cases (steps path) value with ⟨d, hd, hnames⟩ |
    ⟨fault, hfault, step, hstep, hname, hselector⟩
  · have hok : wrap path value = .ok d := hd
    refine ⟨fun fault h => ?_, fun ⟨fault, h⟩ => ?_, fun ⟨step, hstep, h⟩ => ?_⟩
    · cases hok.symm.trans h
    · cases hok.symm.trans h
    · exact absurd h (hnames step hstep)
  · have herror : wrap path value = .error fault := hfault
    have hbracket : '[' ∈ step.toList := not_not.1 hname
    refine ⟨fun other h => ?_, fun _ => ⟨step, hstep, hbracket⟩, fun _ => ⟨fault, herror⟩⟩
    cases herror.symm.trans h
    exact ⟨step, hstep, hbracket, hselector⟩

end Path

end EntityQuery
