import EntityQuery.Proofs.LiteralConfinement
import EntityQuery.Proofs.Numeral
import EntityQuery.Proofs.Separation

/-!
# Literals are told apart by their shape

A literal is read by its shape before its type: null first, then a text behind a tag, then a text
between quotes, and else the text as it is. A text between quotes is read as what was quoted
(`decode_quotedLiteral`), a text behind a tag by its type (`decode_tagged`), and so is a text
without quotes that is not null (`decode_bare`).
-/

namespace EntityQuery

open Number Text

/-- Halving the doubled quotes of a text gives the text back. -/
theorem unescapeLiteral_escapeLiteral (s : String) : unescapeLiteral (escapeLiteral s) = s := by
  have hpieces : pieces ['\'', '\''] (['\'', '\''].intercalate (pieces ['\''] s.toList)) =
      pieces ['\''] s.toList := by
    refine pieces_intercalate (List.cons_ne_nil _ _) (pieces_ne_nil _ _) fun p hp hm => ?_
    have hquotes : List.count '\'' (p ++ ['\'']) = 1 := by
      rw [List.count_append, List.count_eq_zero.2 (not_mem_of_mem_pieces _ p hp)]
      decide
    have hle := hm.sublist.count_le '\''
    rw [show ['\'', '\''].dropLast = ['\''] from rfl, hquotes] at hle
    exact absurd hle (by decide)
  have hescaped : (escapeLiteral s).toList = ['\'', '\''].intercalate (pieces ['\''] s.toList) :=
    String.toList_ofList
  show String.ofList (['\''].intercalate (pieces ['\'', '\''] (escapeLiteral s).toList)) = s
  rw [hescaped, hpieces, intercalate_pieces, String.ofList_toList]

theorem taggedText?_of_not_mem {cs : List Char} (h : '\'' ∉ cs) : taggedText? cs = none := by
  rw [taggedText?, List.findSome?_eq_none_iff]
  intro tag _
  split
  · rename_i r hr
    refine absurd ?_ h
    rw [after?_eq_some.1 hr]
    simp
  · rfl

theorem enclosedText?_of_not_mem {cs : List Char} (h : '\'' ∉ cs) : enclosedText? cs = none := by
  unfold enclosedText?
  split
  · exact absurd List.mem_cons_self h
  · rfl

theorem taggedText?_tagged {tag : String} (htag : tag ∈ literalTags) (s : String) :
    taggedText? (tag ++ "'" ++ s ++ "'").toList = some s.toList := by
  simp only [literalTags, List.mem_cons, List.not_mem_nil, or_false] at htag
  rcases htag with rfl | rfl | rfl | rfl | rfl | rfl | rfl <;>
    simp [taggedText?, literalTags, after?]

theorem taggedText?_enclosed (s : String) : taggedText? ("'" ++ s ++ "'").toList = none := by
  simp [taggedText?, literalTags, after?]

theorem enclosedText?_enclosed (s : String) :
    enclosedText? ("'" ++ s ++ "'").toList = some s.toList := by
  simp [enclosedText?]

theorem trimChars_enclosed {tag : String} (htag : tag ∈ "" :: literalTags) (s : String) :
    trimChars (tag ++ "'" ++ s ++ "'").toList = (tag ++ "'" ++ s ++ "'").toList := by
  have hheads : ∀ tag ∈ "" :: literalTags, (tag ++ "'").toList.head?.map isBlank = some false := by
    decide
  obtain ⟨c, hc, hblank⟩ := Option.map_eq_some_iff.1 (hheads tag htag)
  have hhead : (tag ++ "'" ++ s ++ "'").toList.head? = some c := by
    rw [String.append_assoc, String.toList_append, List.head?_append, hc]
    rfl
  have hlast : (tag ++ "'" ++ s ++ "'").toList.getLast? = some '\'' := by
    rw [String.toList_append, List.getLast?_append]
    rfl
  refine trimChars_of_ends ?_ ?_
  · rw [hhead]
    simpa using hblank
  · rw [hlast]
    rintro _ ⟨⟩
    decide

theorem isClockText_of_mem {cs : List Char} {x : Char} (h : x ∈ cs) (hdecimal : isDecimal x = false)
    (hcolon : x ≠ ':') : Codec.isClockText cs = false := by
  have hx : ¬isDecimal x = true := by simp [hdecimal]
  unfold Codec.isClockText
  split
  · exact List.all_eq_false.2 ⟨x, by simpa [hcolon] using h, hx⟩
  · exact List.all_eq_false.2 ⟨x, by simpa [hcolon] using h, hx⟩
  · rfl

namespace Codec

variable {c : Codec} {type : DataType} {declared : Option String}

/-- Reading asks for the shape of a literal first, with or without blanks around it. -/
theorem decode_eq (hc : c ≠ .plain) (literal : String) : c.decode literal type declared =
    if c = .odata4 ∧ c.hint type declared = .time ∧ isClockText (trimChars literal.toList) then
      .ok (.str (String.ofList (trimChars literal.toList)))
    else if literal = "null" then .ok .null
    else
      match taggedText? (trimChars literal.toList), enclosedText? (trimChars literal.toList) with
      | some inner, _ => ofLiteralText (c.hint type declared) (String.ofList inner)
      | none, some inner => .ok (.str (unescapeLiteral (String.ofList inner)))
      | none, none =>
        ofLiteralText (c.hint type declared) (String.ofList (trimChars literal.toList)) := by
  cases c with
  | plain => exact absurd rfl hc
  | odata2 | odata4 => rfl

/-- How a literal without blanks around it is read that is neither null nor a plain time of day. -/
theorem decode_of_trimmed (hc : c ≠ .plain) {literal : String}
    (htrim : trimChars literal.toList = literal.toList) (hnull : literal ≠ "null")
    (hclock : ¬(c = .odata4 ∧ c.hint type declared = .time ∧ isClockText literal.toList = true)) :
    c.decode literal type declared =
      match taggedText? literal.toList, enclosedText? literal.toList with
      | some inner, _ => ofLiteralText (c.hint type declared) (String.ofList inner)
      | none, some inner => .ok (.str (unescapeLiteral (String.ofList inner)))
      | none, none => ofLiteralText (c.hint type declared) literal := by
  rw [decode_eq hc, htrim, if_neg hclock, if_neg hnull, String.ofList_toList]

theorem decode_of_mem (hc : c ≠ .plain) {literal : String}
    (htrim : trimChars literal.toList = literal.toList) (hquote : '\'' ∈ literal.toList) :
    c.decode literal type declared =
      match taggedText? literal.toList, enclosedText? literal.toList with
      | some inner, _ => ofLiteralText (c.hint type declared) (String.ofList inner)
      | none, some inner => .ok (.str (unescapeLiteral (String.ofList inner)))
      | none, none => ofLiteralText (c.hint type declared) literal := by
  refine decode_of_trimmed hc htrim ?_ ?_
  · rintro rfl
    exact absurd hquote (by decide)
  · rw [isClockText_of_mem hquote (by decide) (by decide)]
    simp

/-- A quoted text is read as itself, whatever its type. -/
theorem decode_quotedLiteral (hc : c ≠ .plain) (s : String) :
    c.decode (quotedLiteral s) type declared = .ok (.str s) := by
  have htrim := trimChars_enclosed (List.mem_cons_self : "" ∈ "" :: literalTags) (escapeLiteral s)
  rw [String.empty_append] at htrim
  rw [quotedLiteral, decode_of_mem hc htrim (by simp), taggedText?_enclosed,
    enclosedText?_enclosed]
  simp only [String.ofList_toList, unescapeLiteral_escapeLiteral]

/-- A text behind a tag is read by its type, quotes and all. -/
theorem decode_tagged (hc : c ≠ .plain) {tag : String} (htag : tag ∈ literalTags) (s : String) :
    c.decode (tag ++ "'" ++ s ++ "'") type declared = ofLiteralText (c.hint type declared) s := by
  have htrim := trimChars_enclosed (List.mem_cons_of_mem _ htag) s
  rw [decode_of_mem hc htrim (by simp), taggedText?_tagged htag]
  simp only [String.ofList_toList]

/-- A text without quotes is read by its type. -/
theorem decode_bare (hc : c ≠ .plain) {s : String} (htrim : trimChars s.toList = s.toList)
    (hquote : '\'' ∉ s.toList) (hnull : s ≠ "null")
    (hclock : ¬(c = .odata4 ∧ c.hint type declared = .time ∧ isClockText s.toList = true)) :
    c.decode s type declared = ofLiteralText (c.hint type declared) s := by
  rw [decode_of_trimmed hc htrim hnull hclock, taggedText?_of_not_mem hquote,
    enclosedText?_of_not_mem hquote]

end Codec

end EntityQuery
