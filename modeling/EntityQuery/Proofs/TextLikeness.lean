import EntityQuery.Proofs.Trichotomy

/-!
# What a text is like

Likeness asks of a text whether another occurs in it, in any case, unless the text reads as a
number: a number is like the numerals that read as the same number and like nothing else, so `4123`
is not like `12`, which it contains, but like `4123.0`, which it does not. The comparators for
likeness say so of every row that has a text (`Condition.meets_is_iff`).
-/

namespace EntityQuery

open Number Text

theorem Number.Binary64.eq_iff_not_lt {x y : Binary64} (hx : x ≠ .nan) (hy : y ≠ .nan) :
    x.eq y = true ↔ y.lt x = false ∧ x.lt y = false := by
  cases x with
  | nan => exact absurd rfl hx
  | infinite a =>
    cases y with
    | nan => exact absurd rfl hy
    | infinite b => cases a <;> cases b <;> decide
    | finite => cases a <;> simp [Binary64.eq, Binary64.lt]
  | finite a m e hm =>
    cases y with
    | nan => exact absurd rfl hy
    | infinite b => cases b <;> simp [Binary64.eq, Binary64.lt]
    | finite b n f hn =>
      simp only [Binary64.eq, Binary64.lt, beq_iff_eq, decide_eq_false_iff_not]
      omega

/-- A text is like another: as a number it is the same number, as any other text it contains the
other in small letters. -/
def LikeText (a b : String) : Prop :=
  match Value.textNumber? a with
  | some x => ∃ y, Value.textNumber? b = some y ∧ x.eq y = true
  | none => (lower b).toList <:+: (lower a).toList

/-- Texts that both read as numbers are not `nan`, which is no number. -/
def NanFree (a b : String) : Prop :=
  ∀ x y, Value.textNumber? a = some x → Value.textNumber? b = some y → x ≠ .nan ∧ y ≠ .nan

namespace Value

variable {a b : String}

theorem isMissing_str (hb : b ≠ "") : (Value.str b).isMissing = false := by
  simpa [isMissing] using hb

/-- A numeral equals the numerals of the same number. -/
theorem equals_numeral_iff {x : Binary64} (ha : Value.textNumber? a = some x) (hnan : NanFree a b) :
    (Value.str a).equals (.str b) = true ↔ ∃ y, Value.textNumber? b = some y ∧ x.eq y = true := by
  have hequals : (Value.str a).equals (.str b) = true ↔ (Value.str a).compare (.str b) = .eq :=
    beq_iff_eq
  rw [hequals]
  cases hb : Value.textNumber? b with
  | none =>
    have hnone : (Value.str b).number? = none := hb
    rw [compare_eq_eq_iff (.inr hnone)]
    refine iff_of_false (fun htext => ?_) (by simp)
    have hab : a = b := htext
    rw [← hab, ha] at hb
    cases hb
  | some y =>
    obtain ⟨hx, hy⟩ := hnan x y ha hb
    simp only [Option.some.injEq, exists_eq_left', Binary64.eq_iff_not_lt hx hy, compare, number?,
      ha, hb]
    cases y.lt x <;> cases x.lt y <;> simp

theorem isLike_iff (hb : b ≠ "") (hnan : NanFree a b) :
    (Value.str a).isLike (.str b) = true ↔ LikeText a b := by
  rw [isLike, isMissing_str hb, LikeText]
  cases ha : Value.textNumber? a with
  | none => exact contains_iff
  | some x => exact equals_numeral_iff ha hnan

theorem isLikeFails_str (a b : String) : (Value.str a).isLikeFails (.str b) = false := by
  have hequals : (Value.str a).equalsFails (.str b) = false := rfl
  simp [isLikeFails, hequals]

end Value

namespace Condition

variable {row : Row} {c : Condition} {a b : String}

/-- A row is asked for likeness without fail where it has a text. -/
theorem meets_likeness_iff (hrow : row.get? c.name = some (.str a)) (hvalue : c.value = .str b) :
    (c.Meets row .is ↔ (Value.str a).isLike (.str b) = true) ∧
      (c.Meets row .isNot ↔ (Value.str a).isLike (.str b) = false) := by
  have hd (comparator : Comparator) (h : comparator.isMembership = false) :
      ({ c with comparator := comparator } : Condition).lacksDelimiter = false :=
    lacksDelimiter_eq_false h
  rw [name] at hrow
  constructor <;> rw [Meets, test_eq_ok_iff, fault?, hd _ rfl] <;>
    simp [holds, name, hrow, hvalue, Value.isLikeFails_str]

/-- A row that has a text is asked whether the text is like another, as a number if it reads as one
and else by what occurs in it. -/
theorem meets_is_iff (hrow : row.get? c.name = some (.str a)) (hvalue : c.value = .str b)
    (hb : b ≠ "") (hnan : NanFree a b) :
    (c.Meets row .is ↔ LikeText a b) ∧ (c.Meets row .isNot ↔ ¬LikeText a b) := by
  obtain ⟨his, hisNot⟩ := meets_likeness_iff hrow hvalue
  rw [his, hisNot, ← Value.isLike_iff hb hnan, Bool.not_eq_true]
  exact ⟨Iff.rfl, Iff.rfl⟩

def partRow (number : String) : Row := [("number", .str number)]

def partIs (number : String) : Condition :=
  { target := .attribute { name := "number", dataAddress := "Number" }, value := .str number }

theorem meets_is_letteredPart :
    (partRow "A4123").get? (partIs "a41").name = some (.str "A4123") ∧
      (partIs "a41").value = .str "a41" ∧ "a41" ≠ "" ∧ NanFree "A4123" "a41" ∧
      (partIs "a41").Meets (partRow "A4123") .is ∧ LikeText "A4123" "a41" := by
  have hnone : Value.textNumber? "A4123" = none := by decide +kernel
  have hnan : NanFree "A4123" "a41" := fun x y hx => by rw [hnone] at hx; cases hx
  have hlike : LikeText "A4123" "a41" := by
    rw [LikeText, hnone]
    exact ⟨[], ['2', '3'], by decide +kernel⟩
  exact ⟨rfl, rfl, by decide, hnan, (meets_is_iff rfl rfl (by decide) hnan).1.2 hlike, hlike⟩

/-- A number that contains another is not like it. -/
theorem not_meets_is_partNumber :
    (partIs "12").target.dataType.isTextual = true ∧
      (partRow "4123").get? (partIs "12").name = some (.str "4123") ∧
      (partIs "12").value = .str "12" ∧ "12" ≠ "" ∧
      (lower "12").toList <:+: (lower "4123").toList ∧
      ¬(partIs "12").Meets (partRow "4123") .is ∧ (partIs "12").Meets (partRow "4123") .isNot := by
  refine ⟨rfl, rfl, rfl, by decide, ⟨['4'], ['3'], by decide +kernel⟩, ?_, ?_⟩ <;> unfold Meets
  · decide +kernel
  · decide +kernel

end Condition

end EntityQuery
