import EntityQuery.Batch.Response
import EntityQuery.Proofs.Framing
import EntityQuery.Proofs.LineEnds
import EntityQuery.Proofs.SmallLetters
import Mathlib.Data.List.Nodup

/-!
# The head of a part

A part of a multipart text begins with headers on lines of their own, up to a blank line. They are
read back with names in small letters and values without blanks around them, a later one in the
place of an earlier one of the same name (`splitHead_head`). The header that says what a part holds
is found whatever headers stand beside it (`get?_received`), and so is the boundary that it
announces (`boundary?_of_announces`).
-/

namespace EntityQuery

open Text

namespace Headers

variable {hs new : Headers} {h : String × String} {name value : String}

/-- Headers with others set in order. -/
def putAll (hs new : Headers) : Headers := new.foldl (fun hs h => hs.put h.1 h.2) hs

theorem mem_put (h' : h ∈ hs.put name value) : h = (name, value) ∨ h ∈ hs := by
  induction hs with
  | nil => exact .inl (List.mem_singleton.1 h')
  | cons x hs ih =>
    rw [put] at h'
    split at h'
    · exact (List.mem_cons.1 h').imp_right (List.mem_cons_of_mem _)
    · rcases List.mem_cons.1 h' with rfl | h'
      · exact .inr List.mem_cons_self
      · exact (ih h').imp_right (List.mem_cons_of_mem _)

theorem mem_putAll (h' : h ∈ hs.putAll new) : h ∈ hs ∨ h ∈ new := by
  induction new generalizing hs with
  | nil => exact .inl h'
  | cons x new ih =>
    rcases ih h' with h' | h'
    · rcases mem_put h' with rfl | h'
      · exact .inr List.mem_cons_self
      · exact .inl h'
    · exact .inr (List.mem_cons_of_mem _ h')

theorem map_fst_put :
    (hs.put name value).map Prod.fst =
      if name ∈ hs.map Prod.fst then hs.map Prod.fst else hs.map Prod.fst ++ [name] := by
  induction hs with
  | nil => rfl
  | cons x hs ih =>
    rw [put]
    by_cases hx : x.1 = name
    · rw [if_pos hx, if_pos (by simp [hx])]
      simp [hx]
    · rw [if_neg hx, List.map_cons, ih, List.map_cons]
      have hmem : name ∈ x.1 :: hs.map Prod.fst ↔ name ∈ hs.map Prod.fst := by
        rw [List.mem_cons, or_iff_right (Ne.symm hx)]
      by_cases hname : name ∈ hs.map Prod.fst
      · rw [if_pos hname, if_pos (hmem.2 hname)]
      · rw [if_neg hname, if_neg (hmem.not.2 hname), List.cons_append]

theorem mem_map_fst_putAll :
    name ∈ (hs.putAll new).map Prod.fst ↔ name ∈ hs.map Prod.fst ∨ name ∈ new.map Prod.fst := by
  induction new generalizing hs with
  | nil => simp [putAll]
  | cons x new ih =>
    have hstep : name ∈ (hs.put x.1 x.2).map Prod.fst ↔ name = x.1 ∨ name ∈ hs.map Prod.fst := by
      rw [map_fst_put]
      split
      · rename_i hx
        exact ⟨.inr, fun h => h.elim (fun h => h ▸ hx) id⟩
      · rw [List.mem_append, List.mem_singleton, or_comm]
    show name ∈ ((hs.put x.1 x.2).putAll new).map Prod.fst ↔ _
    rw [ih, hstep, List.map_cons, List.mem_cons]
    tauto

theorem put_of_not_mem (h : name ∉ hs.map Prod.fst) :
    hs.put name value = hs ++ [(name, value)] := by
  induction hs with
  | nil => rfl
  | cons x hs ih =>
    rw [List.map_cons, List.mem_cons, not_or] at h
    rw [put, if_neg (Ne.symm h.1), ih h.2, List.cons_append]

theorem putAll_of_nodup (h : ((hs ++ new).map Prod.fst).Nodup) : hs.putAll new = hs ++ new := by
  induction new generalizing hs with
  | nil => exact (List.append_nil hs).symm
  | cons x new ih =>
    have hx : x.1 ∉ hs.map Prod.fst := by
      rw [List.map_append, List.map_cons, List.nodup_middle, List.nodup_cons, List.mem_append,
        not_or] at h
      exact h.1.1
    show (hs.put x.1 x.2).putAll new = _
    rw [put_of_not_mem hx, ih (by simpa using h), List.append_assoc, List.singleton_append]

/-- A header is found by its name where all of that name say the same. -/
theorem get?_eq_some_of_forall (hname : ∃ h ∈ hs, lower h.1 = lower name)
    (hvalue : ∀ h ∈ hs, lower h.1 = lower name → h.2 = value) : hs.get? name = some value := by
  obtain ⟨h, hh, hlower⟩ := hname
  have hsome : (hs.reverse.find? fun h => lower h.1 == lower name).isSome := by
    rw [List.find?_isSome]
    exact ⟨h, List.mem_reverse.2 hh, by simpa using hlower⟩
  obtain ⟨found, hfound⟩ := Option.isSome_iff_exists.1 hsome
  have hmem := List.mem_reverse.1 (List.mem_of_find?_eq_some hfound)
  have heq := List.find?_some hfound
  rw [get?, hfound, Option.map_some, hvalue found hmem (by simpa using heq)]

end Headers

namespace Batch

/-- A header as it stands on a line of its own. -/
structure HeaderLine where
  name : String
  value : String
  unbroken : Unbroken name ∧ Unbroken value
  separable : ':' ∉ name.toList

def HeaderLine.text (h : HeaderLine) : String := h.name ++ ": " ++ h.value

/-- The header as it is read: the name in small letters and both without blanks around them. -/
def HeaderLine.field (h : HeaderLine) : String × String := (lower (trim h.name), trim h.value)

def received (hs : List HeaderLine) : Headers := Headers.putAll [] (hs.map HeaderLine.field)

def onLines (e : LineEnding) : List String → String
  | [] => ""
  | l :: ls => l ++ e.text ++ onLines e ls

theorem HeaderLine.isLine (h : HeaderLine) : IsLine h.text where
  ne_empty := by simp [text]
  unbroken := (h.unbroken.1.append (by decide)).append h.unbroken.2

theorem headersOf_lines (hs : List HeaderLine) :
    headersOf (hs.map fun h => h.text.toList) = received hs := by
  induction hs using List.reverseRecOn with
  | nil => rfl
  | append_singleton hs h ih =>
    have hcut : cutChars? [':'] h.text.toList = some (h.name.toList, ' ' :: h.value.toList) := by
      have hchars : h.text.toList = h.name.toList ++ ':' :: ' ' :: h.value.toList := by
        simp [HeaderLine.text]
      rw [hchars, cutChars?_append h.separable]
    have hlast : received (hs ++ [h]) = (received hs).put h.field.1 h.field.2 := by
      rw [received, List.map_append, Headers.putAll, List.foldl_append]
      rfl
    rw [hlast, ← ih, List.map_append, headersOf, List.foldl_append]
    simp only [List.map_cons, List.map_nil, List.foldl_cons, List.foldl_nil, hcut]
    rfl

section Lines

variable {ls : List String} (hls : ∀ l ∈ ls, IsLine l)
include hls

theorem not_infix_blank : ¬['\n', '\n'] <:+: (join "\n" ls).toList ++ ['\n'] := by
  induction ls with
  | nil => exact fun hm => absurd hm.length_le (by decide)
  | cons l ls ih =>
    rw [List.forall_mem_cons] at hls
    obtain ⟨hl, hls⟩ := hls
    cases ls with
    | nil =>
      rw [join, String.intercalate_singleton]
      exact fun hm => absurd (infix_of_append hl.unbroken.not_mem_feed hm).length_le (by decide)
    | cons q ls =>
      have hchars : (join "\n" (l :: q :: ls)).toList ++ ['\n'] =
          l.toList ++ '\n' :: ((join "\n" (q :: ls)).toList ++ ['\n']) := by
        rw [join, String.intercalate_cons_cons]
        simp [join]
      intro hm
      rw [hchars] at hm
      rcases List.infix_cons_iff.1 (infix_of_append hl.unbroken.not_mem_feed hm) with hlead | hm
      · obtain ⟨-, hlead⟩ := List.cons_prefix_cons.1 hlead
        obtain ⟨hq, -⟩ := List.forall_mem_cons.1 hls
        obtain ⟨x, xs, hx⟩ := List.exists_cons_of_ne_nil
          (fun hnil => hq.ne_empty (String.toList_eq_nil_iff.1 hnil))
        have hstart : ∃ r, (join "\n" (q :: ls)).toList ++ ['\n'] = x :: r := by
          cases ls <;> simp [join, hx]
        obtain ⟨r, hr⟩ := hstart
        rw [hr, List.cons_prefix_cons] at hlead
        exact hq.unbroken.not_mem_feed (hx ▸ hlead.1 ▸ List.mem_cons_self)
      · exact ih hls hm

theorem splitChar_join (hne : ls ≠ []) :
    splitChar '\n' (join "\n" ls).toList = ls.map String.toList := by
  have hsplit := congrArg (List.map String.toList)
    (split_join (show "\n".toList = ['\n'] by decide) hne
      fun l hl => (hls l hl).unbroken.not_mem_feed)
  simpa [split, Function.comp_def] using hsplit

end Lines

theorem toList_onLines (ls : List String) (rest : List Char) (hne : ls ≠ []) :
    (onLines .feed ls).toList ++ rest = (join "\n" ls).toList ++ '\n' :: rest := by
  induction ls with
  | nil => exact absurd rfl hne
  | cons l ls ih =>
    cases ls with
    | nil => simp [onLines, join, LineEnding.text]
    | cons q ls =>
      have hrest := ih (List.cons_ne_nil _ _)
      rw [onLines, String.toList_append, List.append_assoc, hrest, join, join,
        String.intercalate_cons_cons]
      simp [LineEnding.text]

section Head

variable {hs : List HeaderLine}

theorem isLine_of_mem_map {l : String} (hl : l ∈ hs.map HeaderLine.text) : IsLine l := by
  obtain ⟨h, -, rfl⟩ := List.mem_map.1 hl
  exact h.isLine

theorem headersOf_join (hs : List HeaderLine) :
    headersOf (splitChar '\n' (join "\n" (hs.map HeaderLine.text)).toList) = received hs := by
  by_cases hne : hs = []
  · subst hne
    rfl
  · rw [splitChar_join (fun _ => isLine_of_mem_map) (by simpa using hne), List.map_map]
    exact headersOf_lines hs

theorem splitHead_of_cut {text head body : List Char}
    (h : cutChars? ['\n', '\n'] text = some (head, body)) :
    splitHead text = (headersOf (splitChar '\n' head), body) := by
  rw [splitHead, h]

/-- Header lines before a blank one are read, and what follows is kept as it is. -/
theorem splitHead_head (hne : hs ≠ []) (content : List Char) :
    splitHead ((onLines .feed (hs.map HeaderLine.text)).toList ++ '\n' :: content) =
      (received hs, content) := by
  have hcut : cutChars? ['\n', '\n']
      ((join "\n" (hs.map HeaderLine.text)).toList ++ ['\n', '\n'] ++ content) = _ :=
    cutChars?_append_sep (by decide) (not_infix_blank fun _ => isLine_of_mem_map)
  rw [List.append_assoc] at hcut
  rw [toList_onLines _ _ (by simpa using hne), ← headersOf_join hs]
  exact splitHead_of_cut hcut

/-- Header lines without a blank one after them are all there is. -/
theorem splitHead_lines (hs : List HeaderLine) :
    splitHead (join "\n" (hs.map HeaderLine.text)).toList = (received hs, []) := by
  have hcut : cutChars? ['\n', '\n'] (join "\n" (hs.map HeaderLine.text)).toList = none :=
    cutChars?_of_not_occurs fun hm => not_infix_blank (fun _ => isLine_of_mem_map)
      (hm.trans (List.prefix_append _ _).isInfix)
  rw [splitHead, hcut]
  exact congrArg (·, []) (headersOf_join hs)

end Head

/-- Headers that give one content type, whatever else they say. -/
structure Typed (hs : List HeaderLine) (contentType : String) : Prop where
  given : ∃ h ∈ hs, h.field.1 = "content-type"
  only : ∀ h ∈ hs, h.field.1 = "content-type" → h.field.2 = contentType

theorem Typed.ne_nil {hs : List HeaderLine} {contentType : String} (h : Typed hs contentType) :
    hs ≠ [] := by
  obtain ⟨x, hx, -⟩ := h.given
  exact List.ne_nil_of_mem hx

theorem get?_received {hs : List HeaderLine} {contentType : String} (h : Typed hs contentType) :
    (received hs).get? "content-type" = some contentType := by
  have hname : lower "content-type" = "content-type" := by decide
  have hmem {field : String × String} (hf : field ∈ received hs) :
      ∃ x ∈ hs, x.field = field := by
    simpa using Headers.mem_putAll hf
  apply Headers.get?_eq_some_of_forall
  · obtain ⟨x, hx, hfield⟩ := h.given
    have hnames : "content-type" ∈ (received hs).map Prod.fst :=
      Headers.mem_map_fst_putAll.2 (.inr (by
        rw [List.map_map, List.mem_map]
        exact ⟨x, hx, hfield⟩))
    obtain ⟨field, hf, hfst⟩ := List.mem_map.1 hnames
    exact ⟨field, hf, by rw [hfst]⟩
  · intro field hf hlower
    obtain ⟨x, hx, rfl⟩ := hmem hf
    rw [hname, HeaderLine.field, lower_lower] at hlower
    exact h.only x hx hlower

/-- The name of the parameter that gives a boundary, with the sign that its value follows. -/
def boundaryKey : List Char := "boundary=".toList

/-- A boundary that needs no quotes. -/
def IsBare (boundary : String) : Prop :=
  ∀ c ∈ boundary.toList, c ≠ '"' ∧ c ≠ ';' ∧ isBlank c = false

instance (boundary : String) : Decidable (IsBare boundary) :=
  decidable_of_iff (boundary.toList.all fun c => c != '"' && (c != ';' && !isBlank c))
    (by simp [IsBare])

/-- How a boundary stands in a content type: between quotes, or as it is up to a blank or
semicolon. -/
inductive Shows (boundary : String) : (shown rest : List Char) → Prop
  | quoted (rest : List Char) (h : '"' ∉ boundary.toList) :
    Shows boundary ('"' :: boundary.toList ++ ['"']) rest
  | bare (rest : List Char) (h : IsBare boundary)
    (hrest : ∀ c ∈ rest.head?, c = ';' ∨ isBlank c = true) :
    Shows boundary boundary.toList rest

/-- A content type for parts between a boundary, which its first parameter of that name gives. -/
structure Announces (contentType boundary : String) : Prop where
  multipart : contains "multipart/" (lower contentType) = true
  parameter : ∃ lead key shown rest, contentType.toList = lead ++ key ++ shown ++ rest ∧
    key.map Char.toLower = boundaryKey ∧ ¬boundaryKey <:+: lead.map Char.toLower ∧
    Shows boundary shown rest
  isLine : IsLine boundary

theorem boundaryValue?_of_shows {boundary : String} {shown rest : List Char}
    (hne : boundary ≠ "") (h : Shows boundary shown rest) :
    boundaryValue? (shown ++ rest) = some boundary.toList := by
  have hchars : boundary.toList ≠ [] := by simpa using hne
  cases h with
  | quoted rest hquote =>
    have htake : (boundary.toList ++ '"' :: rest).takeWhile (· != '"') = boundary.toList := by
      rw [List.takeWhile_append_of_pos fun c hc => by
        simpa using fun h : c = '"' => hquote (h ▸ hc)]
      simp
    rw [List.cons_append, List.cons_append, List.append_assoc, List.singleton_append,
      boundaryValue?]
    simp only [htake]
    rw [if_pos ⟨hchars, by simp⟩]
  | bare rest hplain hrest =>
    have htake : (boundary.toList ++ rest).takeWhile (fun c => c != ';' && !isBlank c) =
        boundary.toList := by
      rw [List.takeWhile_append_of_pos (by simpa using fun c hc => (hplain c hc).2)]
      cases rest with
      | nil => simp
      | cons c rest =>
        rw [List.takeWhile_cons_of_neg, List.append_nil]
        rcases hrest c rfl with hc | hc <;> simp [hc]
    obtain ⟨c, cs, hcs⟩ := List.exists_cons_of_ne_nil hchars
    have hquote : c ≠ '"' := (hplain c (hcs ▸ List.mem_cons_self)).1
    unfold boundaryValue?
    simp only [htake, if_neg hchars]
    rw [hcs, List.cons_append]
    split
    · rename_i heq
      exact absurd (List.cons.inj heq).1 hquote
    · rfl

/-- A text that begins with the key of the parameter in the lower of its cases has it before, since
the key has its first letter only once. -/
theorem infix_of_prefix_append {cs : List Char} (hne : cs ≠ [])
    (h : boundaryKey <+: cs ++ boundaryKey) : boundaryKey <:+: cs := by
  by_cases hlength : boundaryKey.length ≤ cs.length
  · exact (List.prefix_of_prefix_length_le h (List.prefix_append _ _) hlength).isInfix
  · have honce : ∀ n < 9, 0 < n → boundaryKey[n]? ≠ some 'b' := by decide
    have hpos := List.length_pos_iff.2 hne
    have hshort : cs.length < 9 := Nat.not_le.1 hlength
    have hget : boundaryKey[cs.length]? = (cs ++ boundaryKey)[cs.length]? := by
      obtain ⟨r, hr⟩ := h
      rw [← hr, List.getElem?_append_left hshort]
    rw [List.getElem?_append_right (Nat.le_refl _), Nat.sub_self] at hget
    exact absurd hget (honce _ hshort hpos)

theorem findBoundary?_append {lead key tail : List Char} (hkey : key.map Char.toLower = boundaryKey)
    (hlead : ¬boundaryKey <:+: lead.map Char.toLower) {value : List Char}
    (hvalue : boundaryValue? tail = some value) :
    findBoundary? (lead ++ key ++ tail) = some value := by
  have hlength : key.length = 9 := by
    have hsame := congrArg List.length hkey
    rwa [List.length_map] at hsame
  induction lead with
  | nil =>
    have hat : boundaryAt? (key ++ tail) = some value := by
      rw [boundaryAt?, ← hlength, List.take_left, List.drop_left, hkey, hvalue]
      rfl
    obtain ⟨c, cs, rfl⟩ := List.exists_cons_of_ne_nil
      (List.ne_nil_of_length_pos (by omega) : key ≠ [])
    rw [List.nil_append, List.cons_append, findBoundary?, ← List.cons_append, hat, Option.some_or]
  | cons x lead ih =>
    have hnone : boundaryAt? (x :: lead ++ key ++ tail) = none := by
      refine if_neg fun htake => hlead (infix_of_prefix_append (by simp) ?_)
      have hshort : 9 ≤ (x :: lead ++ key).length := by
        rw [List.length_append]
        omega
      rw [List.take_append_of_le_length hshort] at htake
      have hprefix := (List.take_prefix 9 (x :: lead ++ key)).map Char.toLower
      rw [htake, List.map_append, hkey] at hprefix
      exact hprefix
    rw [List.cons_append, List.cons_append, findBoundary?, ← List.cons_append, ← List.cons_append,
      hnone, Option.none_or, ih fun hm => hlead (hm.trans (List.suffix_cons _ _).isInfix)]

theorem boundary?_of_announces {contentType boundary : String}
    (h : Announces contentType boundary) : boundary? contentType = some boundary.toList := by
  obtain ⟨lead, key, shown, rest, hchars, hkey, hlead, hshows⟩ := h.parameter
  rw [boundary?, if_pos h.multipart, hchars, List.append_assoc]
  exact findBoundary?_append hkey hlead (boundaryValue?_of_shows h.isLine.ne_empty hshows)

end Batch

end EntityQuery
