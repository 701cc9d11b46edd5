import EntityQuery.Proofs.Likeness
import EntityQuery.Proofs.SentConjunction

/-!
# Greater, equal or less

Two values that are there are asked for order by the one comparison and for equality by a rule of
its own, which differs from it for truth values: they equal the texts that spell them in any case.
The comparators fit together (`Condition.Fits`) exactly if the values can be compared and are not a
truth value and another spelling of it (`Condition.fits_iff`).
-/

namespace EntityQuery

open Text

namespace Value

variable {v w : Value}

/-- One of two values is a truth value, and their texts differ in nothing but case. -/
def SpelledOtherwise (v w : Value) : Prop :=
  (v.isBool || w.isBool) = true ∧ lower v.text = lower w.text ∧ v.text ≠ w.text

instance : Decidable (SpelledOtherwise v w) := inferInstanceAs (Decidable (_ ∧ _ ∧ _))

theorem equals_of_present (hv : v.isMissing = false) (hw : w.isMissing = false) :
    v.equals w =
      if v.isBool || w.isBool then lower v.text == lower w.text else v.compare w == .eq := by
  cases v with
  | null => cases hv
  | _ =>
    cases w with
    | null => cases hw
    | _ => rfl

theorem equalsFails_of_present (hv : v.isMissing = false) (hw : w.isMissing = false) :
    v.equalsFails w = (!(v.isBool || w.isBool) && v.incomparable w) := by
  cases v with
  | null => cases hv
  | _ =>
    cases w with
    | null => cases hw
    | _ => rfl

theorem compare_eq_eq_iff_of_isBool (h : (v.isBool || w.isBool) = true) :
    v.compare w = .eq ↔ v.text = w.text := by
  have hnone {x : Value} (hx : x.isBool = true) : x.number? = none := by
    cases x with
    | bool => rfl
    | _ => cases hx
  exact compare_eq_eq_iff ((Bool.or_eq_true_iff.1 h).imp hnone hnone)

/-- No truth value is spelled like an integer. -/
theorem lower_text_ne (hv : v.isOutOfRange = true) (hw : w.isBool = true) :
    lower v.text ≠ lower w.text := by
  obtain ⟨n, rfl⟩ := exists_eq_int hv
  cases w with
  | bool b => exact lower_integerText_ne n b
  | _ => cases hw

theorem not_isBool_of_isOutOfRange (h : v.isOutOfRange = true) : v.isBool = false := by
  obtain ⟨n, rfl⟩ := exists_eq_int h
  rfl

/-- What cannot be compared is not told equal either. -/
theorem not_equals_of_incomparable (hv : v.isMissing = false) (hw : w.isMissing = false)
    (h : v.incomparable w = true) : ¬(v.equalsFails w = false ∧ v.equals w = true) := by
  rw [equalsFails_of_present hv hw, equals_of_present hv hw, h]
  rintro ⟨hfails, hequals⟩
  have hbool : (v.isBool || w.isBool) = true := by
    rwa [Bool.and_true, Bool.not_eq_false'] at hfails
  rw [hbool, if_pos rfl, beq_iff_eq] at hequals
  rcases Bool.or_eq_true_iff.1 h with hout | hout
  · rw [not_isBool_of_isOutOfRange hout, Bool.false_or] at hbool
    exact lower_text_ne hout hbool hequals
  · rw [not_isBool_of_isOutOfRange hout, Bool.or_false] at hbool
    exact lower_text_ne hout hbool hequals.symm

/-- Equality goes with the order of values that can be compared, but for other spellings of a truth
value. -/
theorem equals_iff_compare (hv : v.isMissing = false) (hw : w.isMissing = false)
    (h : ¬SpelledOtherwise v w) : v.equals w = true ↔ v.compare w = .eq := by
  rw [equals_of_present hv hw]
  split_ifs with hbool
  · rw [compare_eq_eq_iff_of_isBool hbool, beq_iff_eq]
    refine ⟨fun hlower => ?_, congrArg lower⟩
    by_contra htext
    exact h ⟨hbool, hlower, htext⟩
  · exact beq_iff_eq

end Value

/-- The results of a comparison that a comparator for order accepts. -/
def Comparator.accepted? : Comparator → Option (List Ordering)
  | .greaterThan => some [.gt]
  | .greaterOrEqual => some [.gt, .eq]
  | .lessThan => some [.lt]
  | .lessOrEqual => some [.lt, .eq]
  | _ => none

/-- The comparator that asks for one result of a comparison. -/
def Comparator.askingFor : Ordering → Comparator
  | .gt => .greaterThan
  | .eq => .equals
  | .lt => .lessThan

namespace Condition

variable {row : Row} {c : Condition} {comparator : Comparator} {accepted : List Ordering}

/-- What a row has under the name of a condition. -/
def actual (row : Row) (c : Condition) : Value := (row.get? c.name).getD .null

/-- A row meets what a condition becomes by another comparator. -/
def Meets (row : Row) (c : Condition) (comparator : Comparator) : Prop :=
  ({ c with comparator := comparator } : Condition).test row = .ok true

/-- The comparators for order and equality fit together on a row. -/
structure Fits (row : Row) (c : Condition) : Prop where
  greaterOrEqual : c.Meets row .greaterOrEqual ↔ c.Meets row .greaterThan ∨ c.Meets row .equals
  lessOrEqual : c.Meets row .lessOrEqual ↔ c.Meets row .lessThan ∨ c.Meets row .equals
  one : ∃! result, c.Meets row (.askingFor result)

theorem lacksDelimiter_eq_false (h : c.comparator.isMembership = false) :
    c.lacksDelimiter = false := by
  unfold lacksDelimiter
  rw [h]
  cases c.value <;> simp

theorem meets_equals_iff : c.Meets row .equals ↔
    (c.actual row).equalsFails c.value = false ∧ (c.actual row).equals c.value = true := by
  have hd : ({ c with comparator := .equals } : Condition).lacksDelimiter = false :=
    lacksDelimiter_eq_false rfl
  rw [Meets, test_eq_ok_iff, fault?, hd]
  change (if (c.actual row).equalsFails c.value then _ else _) = none ∧ _ ↔ _
  cases (c.actual row).equalsFails c.value <;> simp [holds, actual, name]

theorem meets_iff_of_accepted (h : comparator.accepted? = some accepted)
    (hactual : (c.actual row).isMissing = false) : c.Meets row comparator ↔
      (c.actual row).incomparable c.value = false ∧
        (c.actual row).compare c.value ∈ accepted := by
  have hd : ({ c with comparator := comparator } : Condition).lacksDelimiter = false :=
    lacksDelimiter_eq_false (by cases comparator <;> trivial)
  rw [actual, name] at *
  simp only [Meets, test_eq_ok_iff, fault?, holds, hd, name, hactual]
  cases comparator <;> cases h <;>
    cases Value.compare ((row.get? c.target.name).getD .null) c.value <;> simp

theorem Fits.incomparable_eq_false (h : c.Fits row) (hactual : (c.actual row).isMissing = false)
    (hvalue : c.value.isMissing = false) : (c.actual row).incomparable c.value = false := by
  obtain ⟨result, hmeets, -⟩ := h.one
  cases result with
  | lt => exact ((meets_iff_of_accepted rfl hactual).1 hmeets).1
  | eq =>
    by_contra hinc
    exact Value.not_equals_of_incomparable hactual hvalue (by simpa using hinc)
      (meets_equals_iff.1 hmeets)
  | gt => exact ((meets_iff_of_accepted rfl hactual).1 hmeets).1

/-- A truth value that is spelled otherwise is equal, and greater or less as well. -/
theorem Fits.not_spelledOtherwise (h : c.Fits row) (hactual : (c.actual row).isMissing = false)
    (hvalue : c.value.isMissing = false) : ¬(c.actual row).SpelledOtherwise c.value := by
  rintro ⟨hbool, hlower, htext⟩
  have hinc := h.incomparable_eq_false hactual hvalue
  have hequals : c.Meets row (.askingFor .eq) := by
    rw [Comparator.askingFor, meets_equals_iff, Value.equalsFails_of_present hactual hvalue,
      Value.equals_of_present hactual hvalue, hbool, hlower]
    simp
  cases hcompare : (c.actual row).compare c.value with
  | lt =>
    have hless : c.Meets row (.askingFor .lt) :=
      (meets_iff_of_accepted rfl hactual).2 ⟨hinc, by simp [hcompare]⟩
    cases h.one.unique hless hequals
  | eq => exact htext ((Value.compare_eq_eq_iff_of_isBool hbool).1 hcompare)
  | gt =>
    have hgreater : c.Meets row (.askingFor .gt) :=
      (meets_iff_of_accepted rfl hactual).2 ⟨hinc, by simp [hcompare]⟩
    cases h.one.unique hgreater hequals

theorem fits_of_not_spelledOtherwise (hactual : (c.actual row).isMissing = false)
    (hvalue : c.value.isMissing = false) (hinc : (c.actual row).incomparable c.value = false)
    (hspelled : ¬(c.actual row).SpelledOtherwise c.value) : c.Fits row := by
  have hequals : c.Meets row .equals ↔ (c.actual row).compare c.value = .eq := by
    rw [meets_equals_iff, Value.equalsFails_of_present hactual hvalue, hinc, Bool.and_false,
      Value.equals_iff_compare hactual hvalue hspelled]
    simp
  have horder {comparator : Comparator} {accepted : List Ordering}
      (h : comparator.accepted? = some accepted) :
      c.Meets row comparator ↔ (c.actual row).compare c.value ∈ accepted := by
    rw [meets_iff_of_accepted h hactual, hinc]
    simp
  have hasks (result : Ordering) :
      c.Meets row (.askingFor result) ↔ (c.actual row).compare c.value = result := by
    cases result with
    | eq => exact hequals
    | _ => exact (horder rfl).trans List.mem_singleton
  refine ⟨?_, ?_, (c.actual row).compare c.value, (hasks _).2 rfl, fun result h => ?_⟩
  · rw [horder rfl, horder rfl, hequals]
    simp
  · rw [horder rfl, horder rfl, hequals]
    simp
  · exact ((hasks result).1 h).symm

/-- The comparators fit together on a row in which both values are there exactly if the two can be
compared and are not a truth value and a text that spells it otherwise. -/
theorem fits_iff (hactual : (c.actual row).isMissing = false) (hvalue : c.value.isMissing = false) :
    c.Fits row ↔ (c.actual row).incomparable c.value = false ∧
      ¬(c.actual row).SpelledOtherwise c.value :=
  ⟨fun h => ⟨h.incomparable_eq_false hactual hvalue, h.not_spelledOtherwise hactual hvalue⟩,
    fun ⟨hinc, hspelled⟩ => fits_of_not_spelledOtherwise hactual hvalue hinc hspelled⟩

def activeRow : Row := [("active", .bool true)]

def activeIs (word : String) : Condition := { target := .address "active", value := .str word }

theorem fits_active : ((activeIs "yes").actual activeRow).isMissing = false ∧
    (activeIs "yes").value.isMissing = false ∧ (activeIs "yes").Fits activeRow :=
  ⟨rfl, rfl, (fits_iff rfl rfl).2 ⟨rfl, by decide +kernel⟩⟩

/-- The truth value equals the word without being greater than or equal to it, and is less too. -/
theorem not_fits_active : (activeIs "true").Meets activeRow .equals ∧
    ¬(activeIs "true").Meets activeRow .greaterOrEqual ∧
    (activeIs "true").Meets activeRow .lessThan ∧ ¬(activeIs "true").Fits activeRow := by
  have hspelled :
      ((activeIs "true").actual activeRow).SpelledOtherwise (activeIs "true").value := by
    decide +kernel
  refine ⟨?_, ?_, ?_, fun h => h.not_spelledOtherwise rfl rfl hspelled⟩ <;> unfold Meets
  · decide +kernel
  · decide +kernel
  · decide +kernel

end Condition

end EntityQuery
