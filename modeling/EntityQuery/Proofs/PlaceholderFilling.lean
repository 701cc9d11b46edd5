import EntityQuery.Proofs.PlaceholderScan

/-!
# Filling in placeholders

The placeholders of a text are found before any value is put in: read from the left, each is the
first one that begins behind the placeholder before it (`Occurrences`). Every text is read so in one
way (`Occurrences.unique`), which is the way in which it is scanned (`Occurrences.scans`). The text
that is filled in has the values in the place of these placeholders and is the same everywhere else.
-/

namespace EntityQuery.Text

/-- Whether a placeholder begins at the start of a text. -/
def Begins (cs : List Char) : Prop :=
  ∃ name written rest, Spelled name written ∧ cs = written ++ rest

theorem placeholder?_eq_none_iff {cs : List Char} :
    Piece.placeholder? cs = none ↔ ¬Begins cs := by
  constructor
  · rintro hnone ⟨name, written, rest, hspelled, rfl⟩
    rw [hspelled.placeholder?_append] at hnone
    cases hnone
  · refine fun hnot => Option.eq_none_iff_forall_ne_some.2 fun ⟨name, rest⟩ hsome => hnot ?_
    obtain ⟨written, hspelled, hcs⟩ := exists_spelled hsome
    exact ⟨name, written, rest, hspelled, hcs⟩

/-- Whether no placeholder begins in a text where another text follows it. -/
def Free (gap rest : List Char) : Prop := ∀ u, u <:+ gap → u ≠ [] → ¬Begins (u ++ rest)

theorem free_nil (rest : List Char) : Free [] rest :=
  fun _ hu hne => absurd (List.suffix_nil.1 hu) hne

theorem free_cons_iff {c : Char} {gap rest : List Char} :
    Free (c :: gap) rest ↔ ¬Begins (c :: gap ++ rest) ∧ Free gap rest := by
  constructor
  · intro h
    exact ⟨h _ List.suffix_rfl (by simp), fun u hu => h u (hu.trans (List.suffix_cons c gap))⟩
  · rintro ⟨hfirst, hrest⟩ u hu hne
    rcases List.suffix_cons_iff.1 hu with rfl | hu
    · exact hfirst
    · exact hrest u hu hne

/-- A placeholder where it stands in a text: what is between the one before it and it, its name, and
how it is written. -/
structure Occurrence where
  before : List Char
  name : List Char
  written : List Char

/-- The placeholders of a text from the left, and what is behind the last of them. -/
inductive Occurrences : List Char → List Occurrence → List Char → Prop
  | last {tail : List Char} (free : Free tail []) : Occurrences tail [] tail
  | next {o : Occurrence} {os : List Occurrence} {rest tail : List Char}
    (free : Free o.before (o.written ++ rest)) (spelled : Spelled o.name o.written)
    (behind : Occurrences rest os tail) :
    Occurrences (o.before ++ (o.written ++ rest)) (o :: os) tail

/-- The pieces of a text with given placeholders. -/
def Occurrence.pieces (tail : List Char) : List Occurrence → List Piece
  | [] => tail.map .plain
  | o :: os => o.before.map .plain ++ .placeholder o.name o.written :: pieces tail os

theorem Scans.append_free {gap rest : List Char} {ps : List Piece} (hfree : Free gap rest)
    (h : Scans rest ps) : Scans (gap ++ rest) (gap.map .plain ++ ps) := by
  induction gap with
  | nil => exact h
  | cons c gap ih =>
    obtain ⟨hfirst, hfree⟩ := free_cons_iff.1 hfree
    exact .plain (placeholder?_eq_none_iff.2 hfirst) (ih hfree)

/-- A text is scanned into its placeholders and the characters around them. -/
theorem Occurrences.scans {cs tail : List Char} {os : List Occurrence}
    (h : Occurrences cs os tail) : Scans cs (Occurrence.pieces tail os) := by
  induction h with
  | last hfree => simpa [Occurrence.pieces] using Scans.nil.append_free hfree
  | next hfree hspelled _ ih => exact (ih.placeholder hspelled).append_free hfree

theorem map_plain_append_placeholder_inj {gap gap' name name' written written' : List Char}
    {ps ps' : List Piece} (h : gap.map .plain ++ .placeholder name written :: ps =
      gap'.map .plain ++ .placeholder name' written' :: ps') :
    gap = gap' ∧ name = name' ∧ written = written' ∧ ps = ps' := by
  induction gap generalizing gap' with
  | nil =>
    cases gap' with
    | nil => simpa [and_assoc] using h
    | cons => simp at h
  | cons c gap ih =>
    cases gap' with
    | nil => simp at h
    | cons c' gap' =>
      obtain ⟨hc, hgap⟩ := List.cons.inj h
      cases hc
      obtain ⟨rfl, hrest⟩ := ih hgap
      exact ⟨rfl, hrest⟩

theorem map_plain_ne_append_placeholder (tail gap name written : List Char) (ps : List Piece) :
    tail.map .plain ≠ gap.map .plain ++ .placeholder name written :: ps := by
  intro h
  have hmem : Piece.placeholder name written ∈ tail.map .plain := by simp [h]
  simp at hmem

/-- The pieces of a text tell its placeholders. -/
theorem Occurrence.pieces_inj {tail tail' : List Char} {os os' : List Occurrence}
    (h : pieces tail os = pieces tail' os') : os = os' ∧ tail = tail' := by
  induction os generalizing os' with
  | nil =>
    cases os' with
    | nil => exact ⟨rfl, List.map_injective_iff.2 (fun _ _ => Piece.plain.inj) h⟩
    | cons o' os' => exact (map_plain_ne_append_placeholder _ _ _ _ _ h).elim
  | cons o os ih =>
    cases os' with
    | nil => exact (map_plain_ne_append_placeholder _ _ _ _ _ h.symm).elim
    | cons o' os' =>
      obtain ⟨before, name, written⟩ := o
      obtain ⟨rfl, rfl, rfl, hrest⟩ := map_plain_append_placeholder_inj h
      obtain ⟨rfl, rfl⟩ := ih hrest
      exact ⟨rfl, rfl⟩

/-- A text has its placeholders in one way. -/
theorem Occurrences.unique {cs tail tail' : List Char} {os os' : List Occurrence}
    (h : Occurrences cs os tail) (h' : Occurrences cs os' tail') : os = os' ∧ tail = tail' :=
  Occurrence.pieces_inj (h.scans.unique h'.scans)

theorem Scans.exists_occurrences {cs : List Char} {ps : List Piece} (h : Scans cs ps) :
    ∃ os tail, Occurrences cs os tail := by
  induction h with
  | nil => exact ⟨[], [], .last (free_nil _)⟩
  | @plain c r ps hplain _ ih =>
    obtain ⟨os, tail, hrest⟩ := ih
    have hfirst := placeholder?_eq_none_iff.1 hplain
    cases hrest with
    | last hfree =>
      exact ⟨[], c :: r, .last (free_cons_iff.2 ⟨by rwa [List.append_nil], hfree⟩)⟩
    | @next o os rest _ hfree hspelled hbehind =>
      have hfree' : Free (c :: o.before) (o.written ++ rest) := free_cons_iff.2 ⟨hfirst, hfree⟩
      exact ⟨_, tail, hbehind.next (o := { o with before := c :: o.before }) hfree' hspelled⟩
  | @placeholder name written rest ps hspelled _ ih =>
    obtain ⟨os, tail, hrest⟩ := ih
    exact ⟨_, tail, hrest.next (o := ⟨[], name, written⟩) (free_nil _) hspelled⟩

theorem mapM_eq_none_iff {α β : Type} {f : α → Option β} {as : List α} :
    as.mapM f = none ↔ ∃ a ∈ as, f a = none := by
  induction as with
  | nil => simp
  | cons a as ih =>
    rw [List.mapM_cons, List.exists_mem_cons_iff, ← ih]
    cases f a <;> cases as.mapM f <;> simp

/-- A text cannot be filled in exactly if one of its placeholders has no value. -/
theorem fillPlaceholders?_eq_none_iff {s : String} {resolve : String → Option String} :
    fillPlaceholders? resolve s = none ↔
      ∃ name ∈ placeholders s, resolve name = none := by
  rw [fillPlaceholders?, Option.map_eq_none_iff, mapM_eq_none_iff, placeholders]
  constructor
  · rintro ⟨piece, hpiece, hnone⟩
    cases piece with
    | plain c => cases hnone
    | placeholder name written =>
      exact ⟨_, List.mem_filterMap.2 ⟨_, hpiece, rfl⟩, Option.map_eq_none_iff.1 hnone⟩
  · rintro ⟨name, hname, hnone⟩
    obtain ⟨piece, hpiece, hsome⟩ := List.mem_filterMap.1 hname
    cases piece with
    | plain c => cases hsome
    | placeholder name written =>
      cases hsome
      exact ⟨_, hpiece, by rw [Piece.fill?, hnone, Option.map_none]⟩

/-- A text can be filled in when every placeholder has a value. -/
theorem exists_fillPlaceholders?_eq_some {s : String} (resolve : String → Option String)
    (h : ∀ name ∈ placeholders s, ∃ text, resolve name = some text) :
    ∃ filled, fillPlaceholders? resolve s = some filled := by
  rw [← Option.ne_none_iff_exists']
  intro hnone
  obtain ⟨name, hname, hmissing⟩ := fillPlaceholders?_eq_none_iff.1 hnone
  obtain ⟨text, htext⟩ := h name hname
  cases hmissing.symm.trans htext

/-- Only the values of the placeholders matter. -/
theorem fillPlaceholders?_congr {s : String} {resolve resolve' : String → Option String}
    (h : ∀ name ∈ placeholders s, resolve name = resolve' name) :
    fillPlaceholders? resolve s = fillPlaceholders? resolve' s := by
  unfold placeholders at h
  have hpieces : ∀ ps : List Piece, (∀ name ∈ ps.filterMap Piece.name?,
      resolve name = resolve' name) →
      ps.mapM (Piece.fill? resolve) = ps.mapM (Piece.fill? resolve') := by
    intro ps hps
    induction ps with
    | nil => rfl
    | cons p ps ih =>
      cases p with
      | plain c => simp [Piece.fill?, ih hps]
      | placeholder name written =>
        obtain ⟨hname, hrest⟩ := List.forall_mem_cons.1 hps
        simp [Piece.fill?, hname, ih hrest]
  rw [fillPlaceholders?, fillPlaceholders?, hpieces _ h]

/-- A text with given placeholders, where a value is put in the place of each of them. -/
def Occurrence.filled (value : String → String) (tail : List Char) : List Occurrence → List Char
  | [] => tail
  | o :: os => o.before ++ (value (String.ofList o.name)).toList ++ filled value tail os

theorem Occurrence.filterMap_name?_pieces (tail : List Char) (os : List Occurrence) :
    (pieces tail os).filterMap Piece.name? = os.map fun o => String.ofList o.name := by
  have hplain (cs : List Char) : (cs.map Piece.plain).filterMap Piece.name? = [] := by
    simp [List.filterMap_map, Function.comp_def, Piece.name?]
  induction os with
  | nil => exact hplain tail
  | cons o os ih =>
    rw [pieces, List.filterMap_append, hplain, List.nil_append, List.map_cons, ← ih]
    rfl

/-- What a piece becomes when every name has a value. -/
def Piece.put (value : String → String) : Piece → List Char
  | .plain c => [c]
  | .placeholder name _ => (value (String.ofList name)).toList

theorem Occurrence.flatten_map_put_pieces (value : String → String) (tail : List Char)
    (os : List Occurrence) :
    ((pieces tail os).map (Piece.put value)).flatten = filled value tail os := by
  have hplain (cs : List Char) : ((cs.map Piece.plain).map (Piece.put value)).flatten = cs := by
    rw [List.map_map, ← List.flatMap_def]
    exact List.flatMap_singleton' cs
  induction os with
  | nil => exact hplain tail
  | cons o os ih =>
    rw [pieces, List.map_append, List.flatten_append, hplain, List.map_cons, List.flatten_cons, ih,
      filled, List.append_assoc]
    rfl

/-- With a value for every placeholder, all of them are put in at once. -/
theorem fillPlaceholders?_of_values {s : String} {resolve : String → Option String}
    {value : String → String} {os : List Occurrence} {tail : List Char}
    (h : Occurrences s.toList os tail)
    (hvalue : ∀ name ∈ placeholders s, resolve name = some (value name)) :
    fillPlaceholders? resolve s = some (String.ofList (Occurrence.filled value tail os)) := by
  have hfill : Piece.fill? (fun name => some (value name)) = fun p => pure (p.put value) := by
    funext p
    cases p <;> rfl
  rw [fillPlaceholders?_congr hvalue, fillPlaceholders?, hfill, (scans_scan s).unique h.scans,
    List.mapM_pure, ← Occurrence.flatten_map_put_pieces]
  rfl

section OneValue

variable {stands : String → Prop} [DecidablePred stands] (rest : String → String) (a b : String)
  (tail : List Char)

/-- A value in the place of some names, whatever the others stand for, counts once for each. -/
theorem Occurrence.length_filled (os : List Occurrence) :
    (filled (fun name => if stands name then a else rest name) tail os).length +
        os.countP (fun o => stands (String.ofList o.name)) * b.toList.length =
      (filled (fun name => if stands name then b else rest name) tail os).length +
        os.countP (fun o => stands (String.ofList o.name)) * a.toList.length := by
  induction os with
  | nil => simp [filled]
  | cons o os ih =>
    by_cases ho : stands (String.ofList o.name)
    · simp only [filled, List.length_append, List.countP_cons, ho, decide_true, if_true,
        Nat.add_mul, Nat.one_mul]
      omega
    · simp only [filled, List.length_append, List.countP_cons, ho, decide_false, Bool.false_eq_true,
        if_false, Nat.add_zero]
      omega

variable {a b}

theorem Occurrence.filled_inj {os : List Occurrence}
    (hstands : ∃ o ∈ os, stands (String.ofList o.name))
    (h : filled (fun name => if stands name then a else rest name) tail os =
      filled (fun name => if stands name then b else rest name) tail os) : a = b := by
  have hlength : a.toList.length = b.toList.length := by
    have hcount := @length_filled stands _ rest a b tail os
    rw [h] at hcount
    have hpos : 0 < os.countP fun o => stands (String.ofList o.name) := by
      simpa [List.countP_pos_iff] using hstands
    exact (Nat.eq_of_mul_eq_mul_left hpos (Nat.add_left_cancel hcount)).symm
  induction os with
  | nil => simp at hstands
  | cons o os ih =>
    simp only [filled, List.append_assoc, List.append_cancel_left_eq] at h
    by_cases ho : stands (String.ofList o.name)
    · rw [if_pos ho, if_pos ho] at h
      exact String.toList_inj.1 (List.append_inj h hlength).1
    · rw [if_neg ho, if_neg ho] at h
      refine ih ?_ (List.append_cancel_left h)
      simpa [ho] using hstands

/-- A text that has a placeholder for a value tells the value that was put in. -/
theorem fillPlaceholders?_inj {s : String} {rest : String → Option String}
    (hstands : ∃ name ∈ placeholders s, stands name)
    (hrest : ∀ name ∈ placeholders s, ¬stands name → ∃ text, rest name = some text)
    (h : fillPlaceholders? (fun name => if stands name then some a else rest name) s =
      fillPlaceholders? (fun name => if stands name then some b else rest name) s) : a = b := by
  obtain ⟨os, tail, hos⟩ := (scans_scan s).exists_occurrences
  have hvalue (text : String) : ∀ name ∈ placeholders s,
      (if stands name then some text else rest name) =
        some (if stands name then text else (rest name).getD "") := by
    intro name hname
    split_ifs with hn
    · rfl
    · obtain ⟨value, hvalue⟩ := hrest name hname hn
      rw [hvalue, Option.getD_some]
  rw [fillPlaceholders?_of_values hos (hvalue a), fillPlaceholders?_of_values hos (hvalue b)] at h
  rw [placeholders, (scans_scan s).unique hos.scans, Occurrence.filterMap_name?_pieces] at hstands
  exact Occurrence.filled_inj _ tail (by simpa using hstands)
    (String.ofList_injective (Option.some.inj h))

end OneValue

/-- Filling in a text is one substitution. Its placeholders are told from the text alone and in one
way, and they are those that are named. The text cannot be filled in exactly if one of the names has
no value; else each placeholder gives way to its value, and all else stays. -/
theorem fillPlaceholders?_substitutes (resolve : String → Option String) (s : String) :
    ∃ os tail, Occurrences s.toList os tail ∧
      (∀ os' tail', Occurrences s.toList os' tail' → os' = os ∧ tail' = tail) ∧
      placeholders s = os.map (fun o => String.ofList o.name) ∧
      (fillPlaceholders? resolve s = none ↔ ∃ name ∈ placeholders s, resolve name = none) ∧
      ∀ value : String → String, (∀ name ∈ placeholders s, resolve name = some (value name)) →
        fillPlaceholders? resolve s = some (String.ofList (Occurrence.filled value tail os)) := by
  obtain ⟨os, tail, h⟩ := (scans_scan s).exists_occurrences
  refine ⟨os, tail, h, fun os' tail' h' => h'.unique h, ?_, fillPlaceholders?_eq_none_iff,
    fun value => fillPlaceholders?_of_values h⟩
  rw [placeholders, (scans_scan s).unique h.scans, Occurrence.filterMap_name?_pieces]

/-- What is put in is not read for placeholders. -/
example : fillPlaceholders? (fun _ => some "[#id#]") "items/[#a#]?since=\x7bid\x7d" =
    some "items/[#id#]?since=[#id#]" := by decide +kernel

end EntityQuery.Text
