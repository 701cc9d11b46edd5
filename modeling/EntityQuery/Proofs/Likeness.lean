import EntityQuery.Proofs.RowOrder
import EntityQuery.Proofs.Separation

/-!
# Values against themselves and against lists that hold them

A value equals itself and is like itself (`equals_self`, `isLike_self`). A list neither equals nor
is like any of its items (`equals_list_of_mem`, `isLike_list_of_mem`): the text of a list shows its
items between brackets, and showing or quoting never makes a text shorter, in small letters either.
-/

namespace EntityQuery

open Number Text

namespace Text

/-- The number of small letters that a character becomes. -/
def smallWidth (c : Char) : Nat := if c.toNat = 0x130 then 2 else 1

/-- The number of characters of a text in small letters. -/
def smallLength : List Char → Nat
  | [] => 0
  | c :: cs => smallWidth c + smallLength cs

theorem smallLength_append (cs ds : List Char) :
    smallLength (cs ++ ds) = smallLength cs + smallLength ds := by
  induction cs with
  | nil => rw [List.nil_append, smallLength, Nat.zero_add]
  | cons c cs ih => rw [List.cons_append, smallLength, ih, smallLength, Nat.add_assoc]

theorem one_le_smallWidth (c : Char) : 1 ≤ smallWidth c := by
  unfold smallWidth
  split_ifs <;> omega

theorem smallWidth_le_two (c : Char) : smallWidth c ≤ 2 := by
  unfold smallWidth
  split_ifs <;> omega

theorem length_mapCase_lower (c : Char) :
    (mapCase lowerRuns lowerExpansions c).length = smallWidth c := by
  unfold mapCase smallWidth
  by_cases hc : c.toNat = 0x130
  · rw [hc, if_pos rfl]
    rfl
  · have hnone : lowerExpansions.lookup c.toNat = none := by
      have hne : (c.toNat == 0x130) = false := beq_eq_false_iff_ne.2 hc
      simp [lowerExpansions, List.lookup_cons, hne]
    rw [hnone, if_neg hc]
    cases lowerRuns.find? (·.contains c.toNat) with
    | none => rfl
    | some run => rfl

theorem length_lowerAfter (before cs : List Char) :
    (lowerAfter before cs).length = smallLength cs := by
  induction cs generalizing before with
  | nil => rfl
  | cons c cs ih =>
    rw [lowerAfter, List.length_append, ih, smallLength]
    congr 1
    by_cases hsigma : c.toNat = 0x3A3
    · have hw : smallWidth c = 1 := by
        rw [smallWidth, if_neg (by omega)]
      rw [if_pos hsigma, hw]
      split_ifs <;> rfl
    · rw [if_neg hsigma]
      by_cases hascii : c.toNat < 0x80
      · have hw : smallWidth c = 1 := by
          rw [smallWidth, if_neg (by omega)]
        rw [if_pos hascii, hw]
        rfl
      · rw [if_neg hascii, length_mapCase_lower]

theorem length_lower (s : String) : (lower s).toList.length = smallLength s.toList := by
  rw [lower, String.toList_ofList, length_lowerAfter]

theorem length_le_of_contains {part s : String} (h : contains part s = true) :
    part.toList.length ≤ s.toList.length :=
  (contains_iff.1 h).length_le

theorem contains_self (s : String) : contains s s = true := contains_iff.2 List.infix_rfl

theorem smallWidth_le_quotedChar (q c : Char) : smallWidth c ≤ smallLength (quotedChar q c) := by
  have hw := smallWidth_le_two c
  have hone := one_le_smallWidth
  unfold quotedChar
  split_ifs <;> simp only [smallLength] <;> grind

theorem smallLength_quoted (s : String) :
    smallLength s.toList + 2 ≤ smallLength (quoted s).toList := by
  have hflat : ∀ (q : Char) (cs : List Char),
      smallLength cs ≤ smallLength (cs.flatMap (quotedChar q)) := by
    intro q cs
    induction cs with
    | nil => exact Nat.le_refl 0
    | cons c cs ih =>
      rw [List.flatMap_cons, smallLength_append, smallLength]
      have := smallWidth_le_quotedChar q c
      omega
  rw [quoted, String.toList_ofList, smallLength_append, smallLength, smallLength]
  have := hflat (quoteFor s.toList) s.toList
  have := one_le_smallWidth (quoteFor s.toList)
  omega

theorem smallLength_le_join (sep : String) {part : String} {parts : List String}
    (h : part ∈ parts) :
    smallLength part.toList ≤ smallLength (join sep parts).toList := by
  unfold join
  induction parts with
  | nil => cases h
  | cons a rest ih =>
    cases rest with
    | nil =>
      rw [String.intercalate_singleton]
      exact Nat.le_of_eq (by rw [List.mem_singleton.1 h])
    | cons b rest =>
      rw [String.intercalate_cons_cons, String.toList_append, String.toList_append,
        smallLength_append, smallLength_append]
      rcases List.mem_cons.1 h with rfl | h
      · omega
      · have := ih h
        omega

/-- A numeral begins with a sign or a digit. -/
theorem exists_toList_integerText (n : Int) :
    ∃ c cs, (integerText n).toList = c :: cs ∧ c.toNat ≤ 57 := by
  unfold integerText natText
  split_ifs
  · have hsign : "-".toList = ['-'] := by decide
    exact ⟨'-', _, by rw [String.toList_append, hsign]; rfl, by decide⟩
  · obtain ⟨c, cs, hcs⟩ :=
      List.exists_cons_of_ne_nil (Nat.toDigits_ne_nil (n := n.natAbs) (b := 10))
    have hmem : c ∈ Nat.toDigits 10 n.natAbs := hcs ▸ List.mem_cons_self
    have hdigit := Nat.isDigit_of_mem_toDigits (by decide) (by decide) hmem
    simp only [Char.isDigit, Bool.and_eq_true, decide_eq_true_eq] at hdigit
    exact ⟨c, cs, by rw [String.toList_ofList, hcs], UInt32.le_iff_toNat_le.1 hdigit.2⟩

/-- No numeral is the word for a truth value. -/
theorem lower_integerText_ne (n : Int) (b : Bool) :
    lower (integerText n) ≠ lower (Value.boolText b) := by
  obtain ⟨c, cs, hcs, hc⟩ := exists_toList_integerText n
  have hkept : c.toLower = c := dif_neg fun ⟨hge, _⟩ => by
    have : 65 ≤ c.toNat := UInt32.le_iff_toNat_le.1 hge
    omega
  have hlower : (lower (integerText n)).toList = c :: lowerAfter [c] cs := by
    rw [lower, String.toList_ofList, hcs, lowerAfter, if_neg (by omega), if_pos (by omega), hkept]
    rfl
  have hbool : ∃ l rest, (lower (Value.boolText b)).toList = l :: rest ∧ 57 < l.toNat := by
    cases b
    · exact ⟨'f', ['a', 'l', 's', 'e'], by decide, by decide⟩
    · exact ⟨'t', ['r', 'u', 'e'], by decide, by decide⟩
  intro h
  obtain ⟨l, rest, hl, hlt⟩ := hbool
  rw [h, hl] at hlower
  have hlc := (List.cons.inj hlower).1
  rw [hlc] at hlt
  omega

end Text

namespace Value

theorem mem_shownItems {v : Value} : ∀ {items : List Value}, v ∈ items →
    v.shown ∈ shownItems items
  | w :: items, h => by
    rw [shownItems]
    rcases List.mem_cons.1 h with rfl | h
    · exact List.mem_cons_self
    · exact List.mem_cons_of_mem _ (mem_shownItems h)

theorem smallLength_text_le (v : Value) :
    smallLength v.text.toList ≤ smallLength v.shown.toList := by
  cases v with
  | str s =>
    have := smallLength_quoted s
    simp only [text, shown]
    omega
  | _ => exact Nat.le_refl _

/-- A list is shown between brackets that no item has. -/
theorem smallLength_text_lt {v : Value} {items : List Value} (h : v ∈ items) :
    smallLength v.text.toList < smallLength (Value.list items).text.toList := by
  have hshown := smallLength_text_le v
  have hjoin := smallLength_le_join ", " (mem_shownItems h)
  have hbracket : smallLength "[".toList = 1 := by decide
  have htext : (Value.list items).text = "[" ++ join ", " (shownItems items) ++ "]" := by
    simp only [text, shown]
  rw [htext, String.toList_append, String.toList_append, smallLength_append, smallLength_append,
    hbracket]
  omega

theorem compareTexts_eq_eq_iff {v w : Value} : v.compareTexts w = .eq ↔ v.text = w.text := by
  unfold compareTexts
  split_ifs with hwv hvw
  · exact ⟨(nomatch ·), fun he => absurd (he ▸ hwv) (String.lt_irrefl _)⟩
  · exact ⟨(nomatch ·), fun he => absurd (he ▸ hvw) (String.lt_irrefl _)⟩
  · exact ⟨fun _ => String.le_antisymm (String.not_lt.1 hwv) (String.not_lt.1 hvw), fun _ => rfl⟩

theorem compareTexts_eq_gt_iff {v w : Value} : v.compareTexts w = .gt ↔ w.text < v.text := by
  unfold compareTexts
  split_ifs with hwv hvw
  · exact ⟨fun _ => hwv, fun _ => rfl⟩
  · exact ⟨(nomatch ·), fun hl => absurd hl hwv⟩
  · exact ⟨(nomatch ·), fun hl => absurd hl hwv⟩

theorem compareTexts_eq_lt_iff {v w : Value} : v.compareTexts w = .lt ↔ v.text < w.text := by
  rw [compareTexts_swap w v, Ordering.swap_eq_lt, compareTexts_eq_gt_iff]

/-- Where one of two values is no number, their texts are compared. -/
theorem compare_eq_compareTexts {v w : Value} (h : v.number? = none ∨ w.number? = none) :
    v.compare w = v.compareTexts w := by
  unfold compare
  rcases h with h | h
  · rw [h]
    rfl
  · rw [h]
    cases v.number? <;> rfl

theorem compare_eq_eq_iff {v w : Value} (h : v.number? = none ∨ w.number? = none) :
    v.compare w = .eq ↔ v.text = w.text := by
  rw [compare_eq_compareTexts h, compareTexts_eq_eq_iff]

theorem compare_eq_gt_iff {v w : Value} (h : v.number? = none ∨ w.number? = none) :
    v.compare w = .gt ↔ w.text < v.text := by
  rw [compare_eq_compareTexts h, compareTexts_eq_gt_iff]

theorem compare_eq_lt_iff {v w : Value} (h : v.number? = none ∨ w.number? = none) :
    v.compare w = .lt ↔ v.text < w.text := by
  rw [compare_eq_compareTexts h, compareTexts_eq_lt_iff]

variable {v : Value} {items : List Value}

theorem equals_list_of_mem (h : v ∈ items) : v.equals (.list items) = false := by
  have hlt := smallLength_text_lt h
  have htext : v.text ≠ (Value.list items).text := fun he => by rw [he] at hlt; omega
  have hlower : lower v.text ≠ lower (Value.list items).text := fun he => by
    have := congrArg (fun s => s.toList.length) he
    simp only [length_lower] at this
    omega
  have hcompare : v.compare (.list items) ≠ .eq := fun he =>
    htext ((compare_eq_eq_iff (.inr rfl)).1 he)
  cases v with
  | null => rfl
  | bool b => simpa [equals, isBool] using hlower
  | _ => simpa [equals, isBool] using hcompare

theorem isLike_list_of_mem (h : v ∈ items) : v.isLike (.list items) = false := by
  have heq := equals_list_of_mem h
  have hlt := smallLength_text_lt h
  have hcontains : contains (lower (Value.list items).text) (lower v.text) = false := by
    rw [← Bool.not_eq_true]
    intro hc
    have := length_le_of_contains hc
    rw [length_lower, length_lower] at this
    omega
  cases v with
  | null => rfl
  | str s =>
    simp only [isLike, isMissing, Bool.false_eq_true, if_false]
    split_ifs
    · exact hcontains
    · exact heq
  | _ => simpa [isLike, isMissing] using heq

theorem exists_eq_int (h : v.isOutOfRange = true) : ∃ n, v = .int n := by
  cases v with
  | int n => exact ⟨n, rfl⟩
  | _ => cases h

theorem compare_self (v : Value) : v.compare v = .eq := by
  have h := compare_swap v v
  cases hc : v.compare v with
  | eq => rfl
  | lt => rw [hc] at h; cases h
  | gt => rw [hc] at h; cases h

theorem equals_self (h : v.isMissing = false) : v.equals v = true := by
  have hc := compare_self v
  cases v with
  | null => cases h
  | bool b => simp [equals, isBool]
  | _ => simp [equals, isBool, hc]

theorem isLike_self (h : v.isMissing = false) : v.isLike v = true := by
  have he := equals_self h
  cases v with
  | null => cases h
  | str s =>
    rw [isLike, if_neg (by rw [h]; exact Bool.false_ne_true)]
    split_ifs
    · exact contains_self _
    · exact he
  | _ => simpa [isLike, isMissing] using he

end Value

end EntityQuery
