import EntityQuery.Proofs.Separation

/-!
# Ends of lines

What replacing makes of a text, character by character (`substituted_cons`,
`substituted_append`), and what becomes of lines when both ways to end one are made the same
(`unified`): a text on a line of its own stays as it is, any other text keeps its place
(`unified_line`), and nothing new is spelled within a line (`infix_of_infix_unified`).
-/

namespace EntityQuery.Text

section Replacing

variable {sep new s r : List Char} {c : Char}

/-- A text with every separator replaced, from the left. -/
def substituted (sep new s : List Char) : List Char := new.intercalate (pieces sep s)

theorem toList_replace (old new s : String) :
    (replace old new s).toList = substituted old.toList new.toList s.toList :=
  String.toList_ofList

theorem substituted_nil (hsep : sep ≠ []) (new : List Char) : substituted sep new [] = [] := by
  rw [substituted, pieces_of_not_occurs (by simpa using hsep), List.intercalate_singleton]

theorem pieces_of_cut_eq_none (h : cutChars? sep s = none) : pieces sep s = [s] := by
  unfold pieces
  split
  · rfl
  · rename_i hsome
    rw [h] at hsome
    cases hsome

theorem pieces_of_cut {a b : List Char} (hsep : sep ≠ []) (h : cutChars? sep s = some (a, b)) :
    pieces sep s = a :: pieces sep b := by
  conv_lhs => unfold pieces
  split
  · rename_i hnone
    rw [h] at hnone
    cases hnone
  · rename_i hsome
    rw [h] at hsome
    cases hsome
    rw [if_neg hsep]

theorem substituted_append (hsep : sep ≠ []) (new s : List Char) :
    substituted sep new (sep ++ s) = new ++ substituted sep new s := by
  have hcut : cutChars? sep (sep ++ s) = some ([], s) := by
    obtain ⟨c, r, rfl⟩ := List.exists_cons_of_ne_nil hsep
    have hafter : after? (c :: r) (c :: r ++ s) = some s := after?_eq_some.2 rfl
    rw [List.cons_append, cutChars?, ← List.cons_append, hafter]
  obtain ⟨p, ps, hp⟩ := List.exists_cons_of_ne_nil (pieces_ne_nil sep s)
  rw [substituted, substituted, pieces_of_cut hsep hcut, hp, List.intercalate_cons_cons,
    List.nil_append]

theorem substituted_cons (hsep : sep ≠ []) (new : List Char) (h : after? sep (c :: r) = none) :
    substituted sep new (c :: r) = c :: substituted sep new r := by
  have hcut : cutChars? sep (c :: r) = (cutChars? sep r).map fun p => (c :: p.1, p.2) := by
    rw [cutChars?, h]
  cases hrest : cutChars? sep r with
  | none =>
    rw [hrest, Option.map_none] at hcut
    rw [substituted, substituted, pieces_of_cut_eq_none hcut, pieces_of_cut_eq_none hrest,
      List.intercalate_singleton, List.intercalate_singleton]
  | some p =>
    rw [hrest, Option.map_some] at hcut
    obtain ⟨q, qs, hq⟩ := List.exists_cons_of_ne_nil (pieces_ne_nil sep p.2)
    rw [substituted, substituted, pieces_of_cut hsep hcut, pieces_of_cut hsep hrest, hq,
      List.intercalate_cons_cons, List.intercalate_cons_cons]
    rfl

/-- A separator of one character is replaced wherever it stands. -/
theorem substituted_singleton (c : Char) (new s : List Char) :
    substituted [c] new s = s.flatMap fun d => if d = c then new else [d] := by
  induction s with
  | nil => exact substituted_nil (List.cons_ne_nil _ _) new
  | cons d s ih =>
    rw [List.flatMap_cons, ← ih]
    split_ifs with h
    · rw [h]
      exact substituted_append (List.cons_ne_nil _ _) new s
    · have hnone : after? [c] (d :: s) = none := if_neg (Ne.symm h)
      exact substituted_cons (List.cons_ne_nil _ _) new hnone

end Replacing

/-- The text with each carriage return dropped that a line feed follows. -/
def unified : List Char → List Char
  | '\r' :: '\n' :: r => '\n' :: unified r
  | c :: r => c :: unified r
  | [] => []

theorem substituted_lineEnd (s : List Char) :
    substituted ['\r', '\n'] ['\n'] s = unified s := by
  fun_induction unified s with
  | case1 r ih =>
    show substituted ['\r', '\n'] ['\n'] (['\r', '\n'] ++ r) = _
    rw [substituted_append (by decide), ih]
    rfl
  | case2 c r hlead ih =>
    have hnone : after? ['\r', '\n'] (c :: r) = none := by
      refine Option.eq_none_iff_forall_ne_some.2 fun t ht => ?_
      obtain ⟨rfl, rfl⟩ := List.cons.inj (after?_eq_some.1 ht)
      exact hlead t rfl rfl
    rw [substituted_cons (by decide) _ hnone, ih]
  | case3 => exact substituted_nil (by decide) _

theorem toList_replace_lineEnd (s : String) :
    (replace "\r\n" "\n" s).toList = unified s.toList := by
  rw [toList_replace, ← substituted_lineEnd]
  rfl

theorem unified_cons {c : Char} {r : List Char} (h : c ≠ '\r' ∨ r.head? ≠ some '\n') :
    unified (c :: r) = c :: unified r := by
  rw [unified]
  rintro t rfl rfl
  simp at h

theorem unified_of_not_mem {a : List Char} (h : '\r' ∉ a) (b : List Char) :
    unified (a ++ b) = a ++ unified b := by
  induction a with
  | nil => rfl
  | cons c a ih =>
    rw [List.mem_cons, not_or] at h
    rw [List.cons_append, unified_cons (.inl (Ne.symm h.1)), ih h.2, List.cons_append]

theorem unified_append {a : List Char} (h : a.getLast? ≠ some '\r') (b : List Char) :
    unified (a ++ b) = unified a ++ unified b := by
  fun_induction unified a with
  | case1 r ih =>
    cases r with
    | nil => rfl
    | cons d r =>
      show '\n' :: unified (d :: r ++ b) = _
      rw [ih (by simpa using h), List.cons_append]
  | case2 c r hlead ih =>
    cases r with
    | nil =>
      rw [List.singleton_append, unified_cons (.inl (by simpa using h))]
      rfl
    | cons d r =>
      have hkept : c ≠ '\r' ∨ (d :: r ++ b).head? ≠ some '\n' := by
        rw [or_iff_not_imp_left, not_not]
        rintro rfl hd
        obtain rfl : d = '\n' := by simpa using hd
        exact hlead r rfl rfl
      rw [List.cons_append, unified_cons hkept, ih (by simpa using h), List.cons_append]
  | case3 => rfl

theorem getLast?_unified {s : List Char} (h : s.getLast? = some '\n') :
    (unified s).getLast? = some '\n' := by
  fun_induction unified s with
  | case1 r ih =>
    cases r with
    | nil => rfl
    | cons d r =>
      have hrest := ih (by simpa using h)
      rw [List.getLast?_cons, hrest]
      rfl
  | case2 c r _ ih =>
    cases r with
    | nil => exact h
    | cons d r =>
      have hrest := ih (by simpa using h)
      rw [List.getLast?_cons, hrest]
      rfl
  | case3 => cases h

section Occurrence

variable {sep s : List Char} (hfeed : '\n' ∉ sep)
include hfeed

theorem prefix_of_prefix_unified (h : sep <+: unified s) : sep <+: s := by
  fun_induction unified s generalizing sep with
  | case1 r =>
    cases sep with
    | nil => exact List.nil_prefix
    | cons d sep =>
      obtain ⟨rfl, -⟩ := List.cons_prefix_cons.1 h
      exact absurd List.mem_cons_self hfeed
  | case2 c r _ ih =>
    cases sep with
    | nil => exact List.nil_prefix
    | cons d sep =>
      obtain ⟨rfl, hrest⟩ := List.cons_prefix_cons.1 h
      exact List.cons_prefix_cons.2 ⟨rfl, ih (fun hm => hfeed (List.mem_cons_of_mem _ hm)) hrest⟩
  | case3 => exact h

theorem infix_of_infix_unified (h : sep <:+: unified s) : sep <:+: s := by
  fun_induction unified s with
  | case1 r ih =>
    rcases infix_append_cons (a := []) hfeed h with h | h
    · exact h.trans List.nil_infix
    · exact (ih h).trans ⟨['\r', '\n'], [], by simp⟩
  | case2 c r hlead ih =>
    rcases List.infix_cons_iff.1 h with h | h
    · have hprefix : sep <+: unified (c :: r) := by rwa [unified.eq_2 _ _ hlead]
      exact (prefix_of_prefix_unified hfeed hprefix).isInfix
    · exact (ih h).trans (List.suffix_cons _ _).isInfix
  | case3 => exact h

end Occurrence

/-- The ways to end a line. -/
inductive LineEnding where
  | feed
  | returnFeed
  deriving DecidableEq, Repr

namespace LineEnding

def text : LineEnding → String
  | feed => "\n"
  | returnFeed => "\r\n"

/-- What stands before the end of a line once all lines end the same way. -/
def settled (e : LineEnding) (s : String) : String :=
  String.ofList (unified (s.toList ++ e.text.toList)).dropLast

variable {e : LineEnding} {s : String}

theorem getLast?_append_text (a : List Char) : (a ++ e.text.toList).getLast? = some '\n' := by
  cases e <;> simp [text]

theorem unified_line (e : LineEnding) (s : String) (rest : List Char) :
    unified (s.toList ++ e.text.toList ++ rest) =
      (e.settled s).toList ++ '\n' :: unified rest := by
  have hlast := getLast?_append_text (e := e) s.toList
  have hkept := List.dropLast_append_getLast? _ (getLast?_unified hlast)
  rw [unified_append (by simp [hlast]), ← hkept, settled, String.toList_ofList, List.append_assoc,
    List.singleton_append]

theorem settled_append {a : String} (h : a.toList.getLast? ≠ some '\r') (b : String) :
    e.settled (a ++ b) = String.ofList (unified a.toList) ++ e.settled b := by
  have hne : unified (b.toList ++ e.text.toList) ≠ [] := by
    have hlast := getLast?_unified (getLast?_append_text (e := e) b.toList)
    rintro hnil
    rw [hnil] at hlast
    cases hlast
  rw [← String.toList_inj, settled, String.toList_ofList, String.toList_append, List.append_assoc,
    unified_append h, List.dropLast_append_of_ne_nil hne, String.toList_append,
    String.toList_ofList, settled, String.toList_ofList]

theorem settled_of_not_mem (h : '\r' ∉ s.toList) : e.settled s = s := by
  have hend : unified e.text.toList = ['\n'] := by cases e <;> rfl
  rw [settled, unified_of_not_mem h, hend, List.dropLast_concat, String.ofList_toList]

theorem settled_append_of_not_mem {a : String} (h : '\r' ∉ a.toList) (b : String) :
    e.settled (a ++ b) = a ++ e.settled b := by
  have ha : unified a.toList = a.toList := by
    rw [← List.append_nil a.toList, unified_of_not_mem h]
    rfl
  rw [settled_append (fun hlast => h (List.mem_of_getLast? hlast)), ha, String.ofList_toList]

theorem settled_line (a b : String) :
    e.settled (a ++ e.text ++ b) = e.settled a ++ "\n" ++ e.settled b := by
  have hlast : (a ++ e.text).toList.getLast? ≠ some '\r' := by
    rw [String.toList_append, getLast?_append_text]
    decide
  have hline : unified (a ++ e.text).toList = (e.settled a ++ "\n").toList := by
    have hsplit := unified_line e a []
    rw [List.append_nil] at hsplit
    rw [String.toList_append, hsplit, String.toList_append]
    rfl
  rw [settled_append hlast, hline, String.ofList_toList]

/-- No text on one line occurs only once lines end the same way. -/
theorem infix_of_infix_settled {sep : List Char} (hreturn : '\r' ∉ sep) (hfeed : '\n' ∉ sep)
    (h : sep <:+: (e.settled s).toList) : sep <:+: s.toList := by
  rw [settled, String.toList_ofList] at h
  have hm := infix_of_infix_unified hfeed (h.trans (List.dropLast_prefix _).isInfix)
  have hfeeds {a : List Char} (hm : sep <:+: a ++ ['\n']) : sep <:+: a :=
    (infix_append_cons hfeed hm).elim id fun hnil => hnil.trans List.nil_infix
  cases e with
  | feed => exact hfeeds hm
  | returnFeed =>
    have hm : sep <:+: s.toList ++ ['\r'] ++ ['\n'] := by simpa [text] using hm
    exact (infix_append_cons hreturn (hfeeds hm)).elim id fun hnil => hnil.trans List.nil_infix

end LineEnding

end EntityQuery.Text
