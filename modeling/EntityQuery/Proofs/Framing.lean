import EntityQuery.Batch.Request
import EntityQuery.Proofs.Separation

/-!
# Texts in frames

A multipart text sets its parts between delimiters, each on lines of its own, and a part may begin
with lines that end at a blank one. What is framed can be taken apart again (`framed?_frame`) if no
part holds the delimiter: a delimiter spans no end of a line, so it cannot show up across the ends
of a part. Lines that hold something are read back from before the first blank line
(`headed?_join`), whatever the text after it is.
-/

namespace EntityQuery.Batch

open Text

/-- A text that holds no end of a line. -/
def Unbroken (s : String) : Prop := ∀ c ∈ s.toList, c ≠ '\r' ∧ c ≠ '\n'

instance (s : String) : Decidable (Unbroken s) :=
  decidable_of_iff (s.toList.all fun c => c != '\r' && c != '\n') (by simp [Unbroken])

/-- A text that can stand on a line of its own, before a blank one. -/
structure IsLine (s : String) : Prop where
  ne_empty : s ≠ ""
  unbroken : Unbroken s

section Unbroken

variable {s t : String}

theorem Unbroken.not_mem_return (h : Unbroken s) : '\r' ∉ s.toList := fun hm => (h _ hm).1 rfl

theorem Unbroken.not_mem_feed (h : Unbroken s) : '\n' ∉ s.toList := fun hm => (h _ hm).2 rfl

theorem Unbroken.append (hs : Unbroken s) (ht : Unbroken t) : Unbroken (s ++ t) := by
  intro c hc
  rw [String.toList_append, List.mem_append] at hc
  exact hc.elim (hs c) (ht c)

theorem Unbroken.of_subset (hs : Unbroken s) (h : t.toList ⊆ s.toList) : Unbroken t :=
  fun c hc => hs c (h hc)

end Unbroken

theorem IsLine.append {s t : String} (hs : IsLine s) (ht : Unbroken t) : IsLine (s ++ t) where
  ne_empty := fun h => hs.ne_empty (String.append_eq_empty_iff.1 h).1
  unbroken := hs.unbroken.append ht

/-- The lines before the first blank one, and the text after it. -/
def headed? (text : String) : Option (List String × String) :=
  (cut? (lineEnd ++ lineEnd) text).map fun p => (splitOn lineEnd p.1, p.2)

/-- What a boundary is between parts. -/
def delimiter (boundary : String) : String := "--" ++ boundary

/-- The text between two ends of lines. -/
def between? (cs : List Char) : Option (List Char) := do
  let r ← after? ['\r', '\n'] cs
  let s ← after? ['\n', '\r'] r.reverse
  pure s.reverse

/-- The parts of a multipart text. Nothing stands before the first delimiter, every part has lines
of its own, and only two hyphens and the end of the line follow the last delimiter. -/
def framed? (boundary text : String) : Option (List String) :=
  match pieces (delimiter boundary).toList text.toList with
  | [] :: rest =>
    if rest.getLast? = some ['-', '-', '\r', '\n'] then
      (rest.dropLast.mapM between?).map fun parts => parts.map String.ofList
    else none
  | _ => none

/-- Parts set between delimiters. -/
def frame (boundary : String) : List String → String
  | [] => delimiter boundary ++ "--" ++ lineEnd
  | part :: parts => delimiter boundary ++ lineEnd ++ part ++ lineEnd ++ frame boundary parts

section Occurrence

variable {sep : List Char} (hreturn : '\r' ∉ sep) (hfeed : '\n' ∉ sep)
include hreturn hfeed

theorem infix_append_lineEnd {a b : List Char}
    (h : sep <:+: a ++ '\r' :: '\n' :: b) : sep <:+: a ∨ sep <:+: b := by
  rcases infix_append_cons hreturn h with h | h
  · exact .inl h
  · rcases infix_append_cons (a := []) hfeed h with h | h
    · exact .inl (h.trans (List.nil_infix))
    · exact .inr h

theorem infix_headed {head text : String}
    (h : sep <:+: (head ++ lineEnd ++ lineEnd ++ text).toList) :
    sep <:+: head.toList ∨ sep <:+: text.toList := by
  have hchars : (head ++ lineEnd ++ lineEnd ++ text).toList =
      head.toList ++ '\r' :: '\n' :: ([] ++ '\r' :: '\n' :: text.toList) := by
    simp [lineEnd]
  rw [hchars] at h
  rcases infix_append_lineEnd hreturn hfeed h with h | h
  · exact .inl h
  rcases infix_append_lineEnd hreturn hfeed h with h | h
  · exact .inl (h.trans List.nil_infix)
  · exact .inr h

theorem infix_frame {boundary : String} {parts : List String}
    (h : sep <:+: (frame boundary parts).toList) :
    sep <:+: (delimiter boundary).toList ∨ sep <:+: (delimiter boundary ++ "--").toList ∨
      ∃ part ∈ parts, sep <:+: part.toList := by
  induction parts with
  | nil =>
    have hchars : (frame boundary []).toList =
        (delimiter boundary ++ "--").toList ++ '\r' :: '\n' :: [] := by
      simp [frame, lineEnd]
    rw [hchars] at h
    rcases infix_append_lineEnd hreturn hfeed h with h | h
    · exact .inr (.inl h)
    · exact .inl (h.trans List.nil_infix)
  | cons part parts ih =>
    have hchars : (frame boundary (part :: parts)).toList = (delimiter boundary).toList ++
        '\r' :: '\n' :: (part.toList ++ '\r' :: '\n' :: (frame boundary parts).toList) := by
      simp [frame, lineEnd]
    rw [hchars] at h
    rcases infix_append_lineEnd hreturn hfeed h with h | h
    · exact .inl h
    rcases infix_append_lineEnd hreturn hfeed h with h | h
    · exact .inr (.inr ⟨part, List.mem_cons_self, h⟩)
    · exact (ih h).imp_right (.imp_right fun ⟨p, hp, h⟩ => ⟨p, List.mem_cons_of_mem _ hp, h⟩)

end Occurrence

theorem not_infix_lines {lines : List (List Char)} (hne : lines ≠ [])
    (h : ∀ l ∈ lines, l ≠ [] ∧ '\r' ∉ l) :
    ¬['\r', '\n', '\r', '\n'] <:+: ['\r', '\n'].intercalate lines ++ ['\r', '\n', '\r'] := by
  induction lines with
  | nil => exact absurd rfl hne
  | cons l lines ih =>
    rw [List.forall_mem_cons] at h
    obtain ⟨⟨-, hl⟩, hlines⟩ := h
    cases lines with
    | nil =>
      rw [List.intercalate_singleton]
      intro hm
      exact absurd (infix_of_append hl hm).length_le (by decide)
    | cons q qs =>
      rw [List.intercalate_cons_cons, List.append_assoc, List.append_assoc]
      intro hm
      have hrest := ih (List.cons_ne_nil _ _) hlines
      obtain ⟨⟨hq, hreturn⟩, -⟩ := List.forall_mem_cons.1 hlines
      obtain ⟨x, q, rfl⟩ := List.exists_cons_of_ne_nil hq
      have hstart : ∃ r,
          ['\r', '\n'].intercalate ((x :: q) :: qs) ++ ['\r', '\n', '\r'] = x :: r := by
        cases qs <;> simp
      obtain ⟨r, hr⟩ := hstart
      rw [hr] at hm hrest
      rcases List.infix_cons_iff.1 (infix_of_append hl hm) with hlead | hm
      · obtain ⟨-, hlead⟩ := List.cons_prefix_cons.1 hlead
        obtain ⟨-, hlead⟩ := List.cons_prefix_cons.1 hlead
        exact hreturn ((List.cons_prefix_cons.1 hlead).1 ▸ List.mem_cons_self)
      · exact hrest (infix_of_append (a := ['\n']) (by decide) hm)

/-- Lines before a blank one are read as they are, and so is what follows. -/
theorem headed?_join {lines : List String} (hne : lines ≠ []) (h : ∀ l ∈ lines, IsLine l)
    (text : String) :
    headed? (join lineEnd lines ++ lineEnd ++ lineEnd ++ text) = some (lines, text) := by
  have hchars : (join lineEnd lines).toList = ['\r', '\n'].intercalate (lines.map String.toList) :=
    String.toList_intercalate
  have hblank :
      ¬['\r', '\n', '\r', '\n'] <:+: (join lineEnd lines).toList ++ ['\r', '\n', '\r'] := by
    rw [hchars]
    refine not_infix_lines (by simpa using hne) fun l hl => ?_
    obtain ⟨s, hs, rfl⟩ := List.mem_map.1 hl
    exact ⟨by simpa using (h s hs).ne_empty, (h s hs).unbroken.not_mem_return⟩
  have hcut : cut? (lineEnd ++ lineEnd) (join lineEnd lines ++ lineEnd ++ lineEnd ++ text) =
      some (join lineEnd lines, text) := by
    have hchars : (join lineEnd lines ++ lineEnd ++ lineEnd ++ text).toList =
        (join lineEnd lines).toList ++ ['\r', '\n', '\r', '\n'] ++ text.toList := by
      simp [lineEnd]
    have hsep : (lineEnd ++ lineEnd).toList = ['\r', '\n', '\r', '\n'] := by decide
    rw [cut?, hchars, hsep, cutChars?_append_sep (by decide) hblank, Option.map_some,
      String.ofList_toList, String.ofList_toList]
  have hlines : splitOn lineEnd (join lineEnd lines) = lines := by
    have hends : ∀ p ∈ lines.map String.toList,
        ¬lineEnd.toList <:+: p ++ lineEnd.toList.dropLast := by
      intro p hp hm
      obtain ⟨s, hs, rfl⟩ := List.mem_map.1 hp
      have hfeed : '\n' ∈ s.toList ++ ['\r'] := hm.subset (by decide)
      rw [List.mem_append] at hfeed
      exact hfeed.elim (h s hs).unbroken.not_mem_feed (by decide)
    rw [splitOn, hchars]
    show (pieces lineEnd.toList (lineEnd.toList.intercalate _)).map String.ofList = lines
    rw [pieces_intercalate (by decide) (by simpa using hne) hends]
    simp
  rw [headed?, hcut, Option.map_some, hlines]

section Frame

variable {boundary : String} (hb : IsLine boundary)
include hb

theorem not_mem_delimiter :
    '\r' ∉ (delimiter boundary).toList ∧ '\n' ∉ (delimiter boundary).toList := by
  simp [delimiter, hb.unbroken.not_mem_return, hb.unbroken.not_mem_feed]

theorem not_infix_between {part : List Char} (h : ¬(delimiter boundary).toList <:+: part) :
    ¬(delimiter boundary).toList <:+:
      ['\r', '\n'] ++ part ++ ['\r', '\n'] ++ (delimiter boundary).toList.dropLast := by
  obtain ⟨hr, hf⟩ := not_mem_delimiter hb
  intro hm
  rw [List.append_assoc, List.append_assoc] at hm
  have hlong (cs : List Char) (hcs : cs.length < (delimiter boundary).toList.length) :
      ¬(delimiter boundary).toList <:+: cs := fun hm => absurd hm.length_le (by omega)
  rcases infix_append_lineEnd (a := []) hr hf hm with hm | hm
  · exact hlong _ (by simp [delimiter]) hm
  · rcases infix_append_lineEnd hr hf hm with hm | hm
    · exact h hm
    · exact hlong _ (by simp [delimiter]) hm

theorem pieces_frame {parts : List String} {before : List Char}
    (hbefore : ¬(delimiter boundary).toList <:+: before ++ (delimiter boundary).toList.dropLast)
    (h : ∀ part ∈ parts, ¬(delimiter boundary).toList <:+: part.toList) :
    pieces (delimiter boundary).toList (before ++ (frame boundary parts).toList) =
      before :: (parts.map (fun part => ['\r', '\n'] ++ part.toList ++ ['\r', '\n']) ++
        [['-', '-', '\r', '\n']]) := by
  have hne : (delimiter boundary).toList ≠ [] := by simp [delimiter]
  induction parts generalizing before with
  | nil =>
    have hchars : before ++ (frame boundary []).toList =
        before ++ (delimiter boundary).toList ++ ['-', '-', '\r', '\n'] := by
      simp [frame, lineEnd]
    have hclosing : ¬(delimiter boundary).toList <:+: ['-', '-', '\r', '\n'] := by
      intro hm
      obtain ⟨hr, hf⟩ := not_mem_delimiter hb
      rcases infix_append_lineEnd (a := ['-', '-']) hr hf hm with hm | hm
      · refine hb.ne_empty ?_
        simpa [delimiter] using hm.length_le
      · exact hne (List.infix_nil.1 hm)
    rw [hchars, pieces_append_sep hne hbefore, pieces_of_not_occurs hclosing]
    rfl
  | cons part parts ih =>
    rw [List.forall_mem_cons] at h
    have hchars : before ++ (frame boundary (part :: parts)).toList =
        before ++ (delimiter boundary).toList ++
          (['\r', '\n'] ++ part.toList ++ ['\r', '\n'] ++ (frame boundary parts).toList) := by
      simp [frame, lineEnd]
    rw [hchars, pieces_append_sep hne hbefore, ih (not_infix_between hb h.1) h.2]
    rfl

omit hb in
theorem between?_lines (part : List Char) :
    between? (['\r', '\n'] ++ part ++ ['\r', '\n']) = some part := by
  simp [between?, after?]

/-- Framed parts are taken apart again. -/
theorem framed?_frame {parts : List String}
    (h : ∀ part ∈ parts, ¬(delimiter boundary).toList <:+: part.toList) :
    framed? boundary (frame boundary parts) = some parts := by
  have hbefore : ¬(delimiter boundary).toList <:+: [] ++ (delimiter boundary).toList.dropLast :=
    fun hm => absurd hm.length_le (by simp [delimiter])
  have hpieces := pieces_frame hb hbefore h
  rw [List.nil_append] at hpieces
  have hparts : (parts.map fun part => ['\r', '\n'] ++ part.toList ++ ['\r', '\n']).mapM between? =
      some (parts.map String.toList) := by
    clear h hpieces
    induction parts with
    | nil => rfl
    | cons part parts ih =>
      rw [List.map_cons, List.mapM_cons, between?_lines, ih]
      rfl
  rw [framed?, hpieces]
  simp only [List.getLast?_concat, List.dropLast_concat, if_true, hparts]
  simp

end Frame

end EntityQuery.Batch
