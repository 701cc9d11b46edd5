import EntityQuery.Proofs.LineEnds
import EntityQuery.Text.Placeholder
import Mathlib.Data.List.TakeWhile

/-!
# Placeholders in a text

A placeholder is told by its first characters and read up to its end, so that a text is cut into
pieces in one way (`Scans.unique`). A text that is put in the place of one placeholder leaves all
other pieces as they are if no placeholder begins in it or in the plain text around it
(`Scans.substituted`).
-/

namespace EntityQuery.Text

/-- How a placeholder is written. -/
inductive Spelled : (name written : List Char) → Prop
  | bracketed {name : List Char} (hne : name ≠ []) (h : ∀ c ∈ name, c ≠ '#' ∧ c ≠ ']') :
    Spelled name ('[' :: '#' :: name ++ ['#', ']'])
  | braced {c : Char} {r : List Char} (hc : Piece.isNameStart c = true)
    (hr : ∀ x ∈ r, Piece.isNamePart x = true) : Spelled (c :: r) ('\x7b' :: c :: r ++ ['\x7d'])

theorem Spelled.placeholder?_append {name written : List Char} (h : Spelled name written)
    (rest : List Char) : Piece.placeholder? (written ++ rest) = some (name, rest) := by
  cases h with
  | bracketed hne h =>
    obtain ⟨c, name, rfl⟩ := List.exists_cons_of_ne_nil hne
    have htake : (c :: name ++ '#' :: ']' :: rest).takeWhile (fun c => c != '#' && c != ']') =
        c :: name := by
      rw [List.takeWhile_append_of_pos (by simpa using h), List.takeWhile_cons_of_neg (by simp),
        List.append_nil]
    have hchars : '[' :: '#' :: (c :: name) ++ ['#', ']'] ++ rest =
        '[' :: '#' :: (c :: name ++ '#' :: ']' :: rest) := by simp
    rw [hchars, Piece.placeholder?, Piece.bracketed?]
    simp only [htake, List.drop_left]
    rfl
  | @braced c r hc hr =>
    have htake : (r ++ '\x7d' :: rest).takeWhile Piece.isNamePart = r := by
      rw [List.takeWhile_append_of_pos hr, List.takeWhile_cons_of_neg (by decide +kernel),
        List.append_nil]
    have hchars : '\x7b' :: c :: r ++ ['\x7d'] ++ rest = '\x7b' :: c :: (r ++ '\x7d' :: rest) := by
      simp
    have hdrop : (c :: (r ++ '\x7d' :: rest)).drop (c :: r).length = '\x7d' :: rest := by
      simp
    have hnone : Piece.bracketed? ('\x7b' :: c :: (r ++ '\x7d' :: rest)) = none := rfl
    rw [hchars, Piece.placeholder?, hnone, Option.none_or, Piece.braced?]
    simp only [htake, hc, hdrop]
    rfl

theorem exists_spelled_of_bracketed {cs name rest : List Char}
    (h : Piece.bracketed? cs = some (name, rest)) :
    ∃ written, Spelled name written ∧ cs = written ++ rest := by
  unfold Piece.bracketed? at h
  split at h
  · rename_i r
    simp only at h
    split at h
    · rename_i hname hdrop
      cases h
      refine ⟨_, .bracketed (by simp [hname]) fun c hc => ?_, ?_⟩
      · simpa using List.mem_takeWhile_imp hc
      · have hchars := List.prefix_iff_eq_append.1
          (List.takeWhile_prefix (fun c => c != '#' && c != ']') (l := r))
        rw [hdrop] at hchars
        simpa using hchars.symm
    · cases h
  · cases h

theorem exists_spelled_of_braced {cs name rest : List Char}
    (h : Piece.braced? cs = some (name, rest)) :
    ∃ written, Spelled name written ∧ cs = written ++ rest := by
  unfold Piece.braced? at h
  split at h
  · rename_i c r
    split at h
    · rename_i hc
      simp only at h
      split at h
      · rename_i hdrop
        cases h
        refine ⟨_, .braced hc fun x hx => List.mem_takeWhile_imp hx, ?_⟩
        have hchars := List.prefix_iff_eq_append.1 (List.takeWhile_prefix Piece.isNamePart (l := r))
        rw [List.length_cons, List.drop_succ_cons] at hdrop
        rw [hdrop] at hchars
        simpa using hchars.symm
      · cases h
    · cases h
  · cases h

theorem exists_spelled {cs name rest : List Char}
    (h : Piece.placeholder? cs = some (name, rest)) :
    ∃ written, Spelled name written ∧ cs = written ++ rest := by
  rcases Option.or_eq_some_iff.1 h with h | ⟨-, h⟩
  · exact exists_spelled_of_bracketed h
  · exact exists_spelled_of_braced h

/-- The pieces of a text, one after the other. -/
inductive Scans : List Char → List Piece → Prop
  | nil : Scans [] []
  | plain {c : Char} {r : List Char} {ps : List Piece} (h : Piece.placeholder? (c :: r) = none)
    (hr : Scans r ps) : Scans (c :: r) (.plain c :: ps)
  | placeholder {name written rest : List Char} {ps : List Piece} (h : Spelled name written)
    (hrest : Scans rest ps) : Scans (written ++ rest) (.placeholder name written :: ps)

theorem Spelled.ne_nil {name written : List Char} (h : Spelled name written) : written ≠ [] := by
  cases h <;> simp

theorem scans_scanChars {fuel : Nat} {cs : List Char} (h : cs.length ≤ fuel) :
    Scans cs (Piece.scanChars fuel cs) := by
  induction fuel generalizing cs with
  | zero =>
    rw [List.length_eq_zero_iff.1 (Nat.le_zero.1 h)]
    exact .nil
  | succ fuel ih =>
    cases cs with
    | nil => exact .nil
    | cons c r =>
      rw [Piece.scanChars]
      split
      · rename_i name rest hplaceholder
        obtain ⟨written, hspelled, hcs⟩ := exists_spelled hplaceholder
        have hlength := congrArg List.length hcs
        rw [List.length_append] at hlength
        have hpos := List.length_pos_iff.2 hspelled.ne_nil
        have hwritten : (c :: r).take ((c :: r).length - rest.length) = written := by
          rw [hlength, Nat.add_sub_cancel, hcs, List.take_left]
        rw [hwritten, hcs]
        exact .placeholder hspelled (ih (by omega))
      · rename_i hplain
        exact .plain hplain (ih (by simpa using h))

theorem scans_scan (s : String) : Scans s.toList (Piece.scan s) := scans_scanChars (Nat.le_refl _)

theorem Scans.unique {cs : List Char} {ps qs : List Piece} (h : Scans cs ps) (h' : Scans cs qs) :
    ps = qs := by
  induction h generalizing qs with
  | nil =>
    generalize hcs : ([] : List Char) = cs at h'
    cases h' with
    | nil => rfl
    | plain => cases hcs
    | placeholder hspelled => exact absurd (List.append_eq_nil_iff.1 hcs.symm).1 hspelled.ne_nil
  | @plain c r ps hplain _ ih =>
    generalize hcs : c :: r = cs at h'
    cases h' with
    | nil => cases hcs
    | plain _ hr =>
      cases hcs
      rw [ih hr]
    | placeholder hspelled =>
      rw [hcs, hspelled.placeholder?_append] at hplain
      cases hplain
  | @placeholder name written rest ps hspelled _ ih =>
    generalize hcs : written ++ rest = cs at h'
    cases h' with
    | nil => exact absurd (List.append_eq_nil_iff.1 hcs).1 hspelled.ne_nil
    | plain hplain =>
      rw [← hcs, hspelled.placeholder?_append] at hplain
      cases hplain
    | @placeholder name' written' rest' _ hspelled' hrest =>
      have hsame := hspelled.placeholder?_append rest
      rw [hcs, hspelled'.placeholder?_append] at hsame
      cases hsame
      rw [List.append_cancel_right hcs, ih hrest]

theorem Scans.mem_of_plain {cs : List Char} {ps : List Piece} (h : Scans cs ps) {c : Char}
    (hc : .plain c ∈ ps) : c ∈ cs := by
  induction h with
  | nil => cases hc
  | plain _ _ ih =>
    rcases List.mem_cons.1 hc with heq | hc
    · cases heq
      exact List.mem_cons_self
    · exact List.mem_cons_of_mem _ (ih hc)
  | placeholder _ _ ih =>
    rcases List.mem_cons.1 hc with heq | hc
    · cases heq
    · exact List.mem_append_right _ (ih hc)

/-- A character that no placeholder begins with. -/
def IsInert (c : Char) : Prop := c ≠ '[' ∧ c ≠ '\x7b'

instance (c : Char) : Decidable (IsInert c) := inferInstanceAs (Decidable (_ ∧ _))

/-- A piece that stays what it is, whatever text is put in beside it. -/
def Piece.IsInert : Piece → Prop
  | .plain c => Text.IsInert c
  | .placeholder _ _ => True

instance : (piece : Piece) → Decidable piece.IsInert
  | .plain c => inferInstanceAs (Decidable (Text.IsInert c))
  | .placeholder _ _ => .isTrue trivial

theorem placeholder?_of_isInert {c : Char} (h : IsInert c) (r : List Char) :
    Piece.placeholder? (c :: r) = none := by
  have hbracketed : Piece.bracketed? (c :: r) = none := by
    unfold Piece.bracketed?
    split
    · rename_i heq
      exact absurd (List.cons.inj heq).1 h.1
    · rfl
  have hbraced : Piece.braced? (c :: r) = none := by
    unfold Piece.braced?
    split
    · rename_i heq
      exact absurd (List.cons.inj heq).1 h.2
    · rfl
  rw [Piece.placeholder?, hbracketed, hbraced, Option.none_or]

theorem Scans.append_plain {v cs : List Char} {ps : List Piece} (hv : ∀ c ∈ v, IsInert c)
    (h : Scans cs ps) : Scans (v ++ cs) (v.map .plain ++ ps) := by
  induction v with
  | nil => exact h
  | cons c v ih =>
    rw [List.forall_mem_cons] at hv
    exact .plain (placeholder?_of_isInert hv.1 _) (ih hv.2)

/-- A text that the separator begins nowhere in stays as it is. -/
theorem substituted_append_of_forall {sep new w r : List Char} (hsep : sep ≠ [])
    (h : ∀ u, u <:+ w → u ≠ [] → after? sep (u ++ r) = none) :
    substituted sep new (w ++ r) = w ++ substituted sep new r := by
  induction w with
  | nil => rfl
  | cons c w ih =>
    have hfirst : after? sep (c :: (w ++ r)) = none := h (c :: w) List.suffix_rfl (by simp)
    rw [List.cons_append, substituted_cons hsep new hfirst,
      ih fun u hu => h u (hu.trans (List.suffix_cons c w)), List.cons_append]

section Mark

variable {key mark : List Char} (hne : key ≠ []) (hkey : ∀ c ∈ key, c ≠ '#' ∧ c ≠ ']')
  (hmark : mark = '[' :: '#' :: key ++ ['#', ']'])
include hne hkey hmark

/-- Within a placeholder no other begins in brackets. -/
theorem Spelled.after?_eq_none {name written u : List Char} (h : Spelled name written)
    (hother : written ≠ mark) (hu : u <:+ written) (hu' : u ≠ []) (rest : List Char) :
    after? mark (u ++ rest) = none := by
  rw [Option.eq_none_iff_forall_ne_some]
  intro t ht
  have hchars := after?_eq_some.1 ht
  have hspelled : Spelled key mark := hmark ▸ .bracketed hne hkey
  by_cases hall : u = written
  · have hsame := h.placeholder?_append rest
    rw [← hall, hchars, hspelled.placeholder?_append] at hsame
    cases hsame
    exact hother (hall ▸ List.append_cancel_right hchars)
  · obtain ⟨x, u, rfl⟩ := List.exists_cons_of_ne_nil hu'
    rw [hmark] at hchars
    obtain ⟨rfl, hrest⟩ := List.cons.inj hchars
    cases h with
    | braced hc hr =>
      have hstart : Piece.isNameStart '[' = false := by decide
      have hpart : Piece.isNamePart '[' = false := by decide +kernel
      have hmem := hu.subset List.mem_cons_self
      simp only [List.cons_append, List.mem_cons, List.mem_append, List.not_mem_nil,
        or_false] at hmem
      rcases hmem with hmem | rfl | hmem | hmem
      · exact absurd hmem (by decide)
      · rw [hstart] at hc
        cases hc
      · have hpart' := hr _ hmem
        rw [hpart] at hpart'
        cases hpart'
      · exact absurd hmem (by decide)
    | bracketed _ hname =>
      have hu := (List.suffix_cons_iff.1 hu).resolve_left hall
      have hu := (List.suffix_cons_iff.1 hu).resolve_left (by simp)
      obtain ⟨n, hn, hsuffix⟩ : ∃ n, u = n ++ ['#', ']'] ∧ '[' :: n <:+ name := by
        have hends : '[' :: u <:+ name ++ ['#'] ++ [']'] := by simpa using hu
        obtain ⟨m, hm, hends⟩ := (List.suffix_concat_iff.1 hends).resolve_left (by simp)
        rcases List.suffix_concat_iff.1 hends with rfl | ⟨n, rfl, hbegin⟩
        · exact absurd (List.cons.inj hm).1 (by decide)
        cases n with
        | nil => exact absurd (List.cons.inj hm).1 (by decide)
        | cons x n =>
          obtain ⟨rfl, hu⟩ := List.cons.inj hm
          exact ⟨n, by simpa using hu, hbegin⟩
      rw [hn] at hrest
      cases n with
      | nil =>
        obtain ⟨y, key, rfl⟩ := List.exists_cons_of_ne_nil hne
        have hfirst : ']' = y := (List.cons.inj (List.cons.inj hrest).2).1
        exact (hkey y List.mem_cons_self).2 hfirst.symm
      | cons y n =>
        have hfirst : y = '#' := (List.cons.inj hrest).1
        exact (hname y (hsuffix.subset (by simp))).1 hfirst

/-- A text is put in the place of one placeholder, and all other pieces stay. -/
theorem Scans.substituted {v cs : List Char} {ps : List Piece} (hv : ∀ c ∈ v, IsInert c)
    (h : Scans cs ps) (hps : ∀ piece ∈ ps, piece.IsInert) :
    Scans (Text.substituted mark v cs)
      (ps.flatMap fun piece => if piece.written = mark then v.map .plain else [piece]) := by
  have hmark' : mark ≠ [] := by simp [hmark]
  induction h with
  | nil =>
    rw [substituted_nil hmark']
    exact .nil
  | @plain c r ps hscan hr ih =>
    obtain ⟨hc, hps⟩ := List.forall_mem_cons.1 hps
    have hnone : after? mark (c :: r) = none := by
      refine Option.eq_none_iff_forall_ne_some.2 fun t ht => ?_
      have hspelled : Spelled key mark := hmark ▸ .bracketed hne hkey
      rw [after?_eq_some.1 ht, hspelled.placeholder?_append] at hscan
      cases hscan
    have hpiece : ¬(Piece.plain c).written = mark := by simp [hmark, Piece.written]
    rw [substituted_cons hmark' v hnone, List.flatMap_cons, if_neg hpiece]
    exact .plain (placeholder?_of_isInert hc _) (ih hps)
  | @placeholder name written rest ps hspelled _ ih =>
    have hrest := ih (List.forall_mem_cons.1 hps).2
    rw [List.flatMap_cons]
    by_cases hsame : (Piece.placeholder name written).written = mark
    · rw [if_pos hsame]
      obtain rfl : written = mark := hsame
      rw [substituted_append hmark']
      exact hrest.append_plain hv
    · rw [if_neg hsame, substituted_append_of_forall hmark'
        fun u hu hu' => hspelled.after?_eq_none hne hkey hmark hsame hu hu' rest]
      exact .placeholder hspelled hrest

end Mark

end EntityQuery.Text
