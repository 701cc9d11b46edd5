import EntityQuery.Text.Basic
import Mathlib.Data.List.Infix
import Mathlib.Data.List.TakeWhile

/-!
# Texts between separators

A separator of any length is found where it was written as long as it does not show up earlier,
be it across the end of a text and the start of the separator. So the pieces of joined texts are
these texts (`pieces_intercalate`), and the pieces of any text join to it again
(`intercalate_pieces`). Likewise at a separator of one character (`split_join`, `join_split`).
-/

namespace List

variable {α : Type} {p : α → Bool} {x : α} {xs : List α}

theorem dropWhile_append_cons (hx : p x = false) (xs ys : List α) :
    (xs ++ x :: ys).dropWhile p = xs.dropWhile p ++ x :: ys := by
  induction xs with
  | nil => simp [hx]
  | cons y xs ih =>
    rw [cons_append, dropWhile_cons, dropWhile_cons]
    split_ifs
    · exact ih
    · rfl

theorem mem_dropWhile_of_mem (hx : p x = false) (h : x ∈ xs) : x ∈ xs.dropWhile p := by
  obtain ⟨before, after, rfl⟩ := append_of_mem h
  rw [dropWhile_append_cons hx]
  simp

theorem drop_length_takeWhile (p : α → Bool) (xs : List α) :
    xs.drop (xs.takeWhile p).length = xs.dropWhile p := by
  induction xs with
  | nil => rfl
  | cons y xs ih =>
    rw [takeWhile_cons, dropWhile_cons]
    split_ifs
    · exact ih
    · rfl

theorem takeWhile_ne_eq_self {x : Char} {cs : List Char} (h : x ∉ cs) :
    cs.takeWhile (· != x) = cs :=
  takeWhile_eq_self_iff.2 fun c hc => by simpa using ne_of_mem_of_not_mem hc h

end List

namespace EntityQuery.Text

section Occurrence

variable {sep s a b : List Char}

/-- A text that spans no occurrence of a character lies on one side of it. -/
theorem infix_append_cons {c : Char} (hc : c ∉ sep) (h : sep <:+: a ++ c :: b) :
    sep <:+: a ∨ sep <:+: b := by
  obtain ⟨u, v, huv⟩ := h
  rcases List.append_eq_append_iff.1 huv with ⟨e, ha, -⟩ | ⟨e, husep, hcons⟩
  · exact .inl ⟨u, e, ha.symm⟩
  cases e with
  | nil => exact .inl ⟨u, [], by rw [List.append_nil, husep, List.append_nil]⟩
  | cons d e =>
    obtain ⟨rfl, hb⟩ := List.cons.inj hcons
    rcases List.append_eq_append_iff.1 husep with ⟨f, -, hsep⟩ | ⟨f, -, hf⟩
    · exact absurd (by simp [hsep]) hc
    cases f with
    | nil =>
      rw [List.nil_append] at hf
      exact absurd (hf ▸ List.mem_cons_self) hc
    | cons x f =>
      obtain ⟨-, rfl⟩ := List.cons.inj hf
      exact .inr ⟨f, v, hb.symm⟩

/-- A text that begins with a character occurs in nothing before that character. -/
theorem infix_of_append {c : Char} (hc : c ∉ a) (h : c :: sep <:+: a ++ b) : c :: sep <:+: b := by
  induction a with
  | nil => exact h
  | cons x a ih =>
    rw [List.mem_cons, not_or] at hc
    rcases List.infix_cons_iff.1 h with hlead | hrest
    · exact absurd (List.cons_prefix_cons.1 hlead).1 hc.1
    · exact ih hc.2 hrest

/-- Where a character stands once only, what comes before it in an occurrence ends what comes
before it. -/
theorem suffix_of_infix {c : Char} {t u : List Char} (ht : c ∉ t) (hu : c ∉ u)
    (h : a ++ c :: b <:+: t ++ c :: u) : a <:+ t := by
  obtain ⟨v, w, hvw⟩ := h
  have hsplit : (v ++ a) ++ c :: (b ++ w) = t ++ c :: u := by
    rw [← hvw]
    simp
  rcases List.append_eq_append_iff.1 hsplit with ⟨e, rfl, he⟩ | ⟨e, hva, he⟩
  · cases e with
    | nil => exact ⟨v, by simp⟩
    | cons x e =>
      obtain ⟨rfl, -⟩ := List.cons.inj he
      exact absurd (by simp) ht
  · cases e with
    | nil => exact ⟨v, by simpa using hva⟩
    | cons x e =>
      obtain ⟨rfl, rfl⟩ := List.cons.inj he
      exact absurd (by simp) hu

theorem cutChars?_of_not_occurs (h : ¬sep <:+: s) : cutChars? sep s = none := by
  cases hcut : cutChars? sep s with
  | none => rfl
  | some p => exact absurd ⟨p.1, p.2, (cutChars?_eq_some hcut).symm⟩ h

theorem contains_iff {part s : String} :
    contains part s = true ↔ part.toList <:+: s.toList := by
  rw [contains, Option.isSome_iff_exists]
  refine ⟨fun ⟨p, hp⟩ => ⟨p.1, p.2, (cutChars?_eq_some hp).symm⟩, ?_⟩
  generalize s.toList = cs
  intro h
  induction cs with
  | nil => exact ⟨_, by rw [cutChars?, if_pos (List.infix_nil.1 h)]⟩
  | cons c cs ih =>
    rw [cutChars?]
    cases hafter : after? part.toList (c :: cs) with
    | some rest => exact ⟨_, rfl⟩
    | none =>
      rcases List.infix_cons_iff.1 h with ⟨rest, hrest⟩ | hfurther
      · rw [after?_eq_some.2 hrest.symm] at hafter
        cases hafter
      · obtain ⟨p, hp⟩ := ih hfurther
        exact ⟨_, by rw [hp, Option.map_some]⟩

/-- A text is cut where a separator follows it that cannot be seen before. -/
theorem cutChars?_append_sep (hsep : sep ≠ []) (h : ¬sep <:+: a ++ sep.dropLast) :
    cutChars? sep (a ++ sep ++ b) = some (a, b) := by
  induction a with
  | nil =>
    obtain ⟨c, r, rfl⟩ := List.exists_cons_of_ne_nil hsep
    have hafter : after? (c :: r) (c :: r ++ b) = some b := after?_eq_some.2 rfl
    rw [List.nil_append, List.cons_append, cutChars?, ← List.cons_append, hafter]
  | cons x a ih =>
    have hnone : after? sep (x :: (a ++ sep ++ b)) = none := by
      by_contra hsome
      obtain ⟨r, hr⟩ := Option.ne_none_iff_exists'.1 hsome
      have hlead : sep <+: x :: (a ++ sep ++ b) := ⟨r, (after?_eq_some.1 hr).symm⟩
      have hkept : x :: a ++ sep.dropLast <+: x :: (a ++ sep ++ b) := by
        rw [← List.cons_append, ← List.cons_append, List.append_assoc]
        exact (List.prefix_append_right_inj _).2
          ((List.dropLast_prefix sep).trans (List.prefix_append _ _))
      refine h (List.prefix_of_prefix_length_le hlead hkept ?_).isInfix
      simp only [List.length_append, List.length_cons, List.length_dropLast]
      omega
    have hrest : ¬sep <:+: a ++ sep.dropLast :=
      fun hm => h (hm.trans (List.suffix_cons _ _).isInfix)
    rw [List.cons_append, List.cons_append, cutChars?, hnone, ih hrest, Option.map_some]

theorem pieces_of_not_occurs (h : ¬sep <:+: s) : pieces sep s = [s] := by
  unfold pieces
  split
  · rfl
  · rename_i hcut
    rw [cutChars?_of_not_occurs h] at hcut
    cases hcut

theorem pieces_append_sep (hsep : sep ≠ []) (h : ¬sep <:+: a ++ sep.dropLast) :
    pieces sep (a ++ sep ++ b) = a :: pieces sep b := by
  conv_lhs => unfold pieces
  split
  · rename_i hcut
    rw [cutChars?_append_sep hsep h] at hcut
    cases hcut
  · rename_i hcut
    rw [cutChars?_append_sep hsep h] at hcut
    cases hcut
    rw [if_neg hsep]

/-- The pieces of joined texts are the texts. -/
theorem pieces_intercalate {ps : List (List Char)} (hsep : sep ≠ []) (hne : ps ≠ [])
    (h : ∀ p ∈ ps, ¬sep <:+: p ++ sep.dropLast) : pieces sep (sep.intercalate ps) = ps := by
  induction ps with
  | nil => exact absurd rfl hne
  | cons p ps ih =>
    rw [List.forall_mem_cons] at h
    cases ps with
    | nil =>
      rw [List.intercalate_singleton]
      exact pieces_of_not_occurs fun hm => h.1 (hm.trans (List.prefix_append _ _).isInfix)
    | cons q ps =>
      rw [List.intercalate_cons_cons, pieces_append_sep hsep h.1, ih (List.cons_ne_nil _ _) h.2]

theorem pieces_ne_nil (sep s : List Char) : pieces sep s ≠ [] := by
  unfold pieces
  split
  · exact List.cons_ne_nil _ _
  · split <;> exact List.cons_ne_nil _ _

/-- The pieces of a text join to it again. -/
theorem intercalate_pieces (sep s : List Char) : sep.intercalate (pieces sep s) = s := by
  fun_induction pieces sep s with
  | case1 s hcut => exact List.intercalate_singleton ..
  | case2 s a b hcut => exact List.intercalate_singleton ..
  | case3 s a b hcut hne ih =>
    obtain ⟨q, qs, hq⟩ := List.exists_cons_of_ne_nil (pieces_ne_nil sep b)
    rw [hq, List.intercalate_cons_cons, ← hq, ih, cutChars?_eq_some hcut]

end Occurrence

section Character

variable {c : Char} {sep a b : String}

theorem cut?_of_not_mem (hsep : sep.toList = [c]) (h : c ∉ a.toList) : cut? sep a = none := by
  rw [cut?, hsep, cutChars?_of_not_mem h, Option.map_none]

theorem cut?_append (hsep : sep.toList = [c]) (h : c ∉ a.toList) :
    cut? sep (a ++ sep ++ b) = some (a, b) := by
  rw [cut?, String.toList_append, String.toList_append, hsep, List.append_assoc,
    List.singleton_append, cutChars?_append h, Option.map_some, String.ofList_toList,
    String.ofList_toList]

theorem split_join {parts : List String} (hsep : sep.toList = [c]) (hne : parts ≠ [])
    (h : ∀ p ∈ parts, c ∉ p.toList) : split c (join sep parts) = parts := by
  induction parts with
  | nil => exact absurd rfl hne
  | cons p parts ih =>
    rw [List.forall_mem_cons] at h
    cases parts with
    | nil =>
      rw [join, String.intercalate_singleton, split, splitChar_of_not_mem c _ h.1,
        List.map_singleton, String.ofList_toList]
    | cons q parts =>
      have hrest := ih (List.cons_ne_nil _ _) h.2
      rw [join, String.intercalate_cons_cons, split, String.toList_append, String.toList_append,
        hsep, List.append_assoc, List.singleton_append, splitChar_append c _ _ h.1, List.map_cons,
        String.ofList_toList]
      rw [← split, ← join, hrest]

/-- The parts of a text join to it again. -/
theorem join_split (hsep : sep.toList = [c]) (s : String) : join sep (split c s) = s := by
  rw [← String.toList_inj, join, String.toList_intercalate, hsep, split, List.map_map]
  have hid : String.toList ∘ String.ofList = id := funext fun _ => String.toList_ofList
  rw [hid, List.map_id, intercalate_splitChar]

/-- The parts of a text are without what it is split at. -/
theorem not_mem_of_mem_split : ∀ p ∈ split c a, c ∉ p.toList := by
  rw [split, List.forall_mem_map]
  intro p hp
  rw [String.toList_ofList]
  generalize a.toList = cs at hp
  induction cs generalizing p with
  | nil =>
    rw [List.mem_singleton.1 hp]
    exact List.not_mem_nil
  | cons d r ih =>
    rw [splitChar] at hp
    split_ifs at hp with hd
    · rcases List.mem_cons.1 hp with rfl | hp
      · exact List.not_mem_nil
      · exact ih p hp
    · obtain ⟨q, qs, hq⟩ := List.exists_cons_of_ne_nil (splitChar_ne_nil c r)
      rw [hq] at hp ih
      rcases List.mem_cons.1 hp with rfl | hp
      · rw [List.mem_cons, not_or]
        exact ⟨Ne.symm hd, ih q List.mem_cons_self⟩
      · exact ih p (List.mem_cons_of_mem _ hp)

theorem exists_split_of_head {d : Char} {r : List Char} (ha : a.toList = d :: r) (hd : d ≠ c) :
    ∃ p ps, split c a = p :: ps ∧ ∃ r', p.toList = d :: r' := by
  obtain ⟨q, qs, hq⟩ := List.exists_cons_of_ne_nil (splitChar_ne_nil c r)
  refine ⟨String.ofList (d :: q), qs.map String.ofList, ?_, q, String.toList_ofList⟩
  rw [split, ha, splitChar, if_neg hd, hq]
  rfl

theorem mem_join {parts : List String} (h : c ∈ (join sep parts).toList) :
    c ∈ sep.toList ∨ ∃ p ∈ parts, c ∈ p.toList := by
  induction parts with
  | nil => cases h
  | cons p parts ih =>
    cases parts with
    | nil =>
      rw [join, String.intercalate_singleton] at h
      exact .inr ⟨p, List.mem_cons_self, h⟩
    | cons q parts =>
      rw [join, String.intercalate_cons_cons, String.toList_append, String.toList_append,
        List.mem_append, List.mem_append] at h
      rcases h with (h | h) | h
      · exact .inr ⟨p, List.mem_cons_self, h⟩
      · exact .inl h
      · exact (ih h).imp_right fun ⟨r, hr, hc⟩ => ⟨r, List.mem_cons_of_mem _ hr, hc⟩

theorem splitChar_append_sep (c : Char) (a b : List Char) :
    splitChar c (a ++ c :: b) = splitChar c a ++ splitChar c b := by
  induction a with
  | nil => simp [splitChar]
  | cons d a ih =>
    obtain ⟨p, ps, hp⟩ := List.exists_cons_of_ne_nil (splitChar_ne_nil c a)
    simp only [List.cons_append, splitChar, ih, hp]
    split <;> rfl

/-- A joined list is split into the pieces of its parts. -/
theorem split_join_eq_flatMap {parts : List String} (hsep : sep.toList = [c]) (hne : parts ≠ []) :
    split c (join sep parts) = parts.flatMap (split c) := by
  induction parts with
  | nil => exact absurd rfl hne
  | cons p parts ih =>
    cases parts with
    | nil => rw [join, String.intercalate_singleton, List.flatMap_singleton]
    | cons q parts =>
      have hrest := ih (List.cons_ne_nil _ _)
      rw [join, String.intercalate_cons_cons, split, String.toList_append, String.toList_append,
        hsep, List.append_assoc, List.singleton_append, splitChar_append_sep, List.map_append,
        ← split, ← split, ← join, hrest]
      rfl

theorem contains_of_not_mem (hsep : sep.toList = [c]) (h : c ∉ a.toList) :
    contains sep a = false := by
  rw [contains, hsep, cutChars?_of_not_mem h, Option.isSome_none]

theorem contains_append (hsep : sep.toList = [c]) (h : c ∉ a.toList) :
    contains sep (a ++ sep ++ b) = true := by
  rw [contains, String.toList_append, String.toList_append, hsep, List.append_assoc,
    List.singleton_append, cutChars?_append h, Option.isSome_some]

theorem not_mem_trimStartChar {d : Char} (h : c ∉ a.toList) :
    c ∉ (trimStartChar d a).toList := by
  rw [trimStartChar, String.toList_ofList]
  exact fun hm => h ((List.dropWhile_sublist _).subset hm)

/-- Trimming takes nothing away but the character it trims. -/
theorem mem_trimEndChar_iff {d x : Char} (hx : x ≠ d) :
    x ∈ (trimEndChar d a).toList ↔ x ∈ a.toList := by
  have hkept : (x == d) = false := beq_eq_false_iff_ne.2 hx
  rw [trimEndChar, String.toList_ofList, List.mem_reverse]
  exact ⟨fun h => List.mem_reverse.1 ((List.dropWhile_sublist _).subset h),
    fun h => List.mem_dropWhile_of_mem hkept (List.mem_reverse.2 h)⟩

/-- Trimming stops at the first other character. -/
theorem trimStartChar_append {d : Char} (hsep : sep.toList = [c]) (h : c ≠ d) :
    trimStartChar d (a ++ sep ++ b) = trimStartChar d a ++ sep ++ b := by
  have hdrop : (c :: b.toList).dropWhile (· == d) = c :: b.toList :=
    List.dropWhile_cons_of_neg (by simpa using h)
  rw [← String.toList_inj]
  simp only [trimStartChar, String.toList_append, String.toList_ofList, hsep, List.append_assoc,
    List.singleton_append]
  rw [List.dropWhile_append, hdrop]
  split
  · rename_i hnil
    rw [List.isEmpty_iff.1 hnil, List.nil_append]
  · rfl

end Character

end EntityQuery.Text
