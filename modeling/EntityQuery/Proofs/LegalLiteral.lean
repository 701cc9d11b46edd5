import EntityQuery.Proofs.DocumentLiteral
import EntityQuery.Proofs.Framing

/-!
# Legal literals

Between the quotes of a literal there may be no end of a line, and a backslash only where it begins
an escape (`IsStringBody`). The escaping of a text leaves ends of lines as they are, and it is these
that make a literal illegal (`isStringBody_escaped_iff`). A document is legal if each of its quoted
literals is, and so if each text that is a value of an argument stands on one line.
-/

namespace EntityQuery.Graphql

open Batch (Unbroken)

/-- The characters that a backslash may stand before. -/
def escapeMarks : List Char := ['"', '\\', '/', 'b', 'f', 'n', 'r', 't']

def isHexDigit (c : Char) : Bool :=
  c.isDigit || ('a' ≤ c && c ≤ 'f') || ('A' ≤ c && c ≤ 'F')

/-- What may stand between the quotes of a literal. Which characters are allowed at all depends on
the edition of the grammar; ends of lines are allowed in none. -/
inductive IsStringBody (allowed : Char → Prop) : List Char → Prop
  | nil : IsStringBody allowed []
  | plain {c : Char} {r : List Char} (hallowed : allowed c) (hc : c ∉ ['"', '\\', '\n', '\r'])
      (h : IsStringBody allowed r) : IsStringBody allowed (c :: r)
  | escape {c : Char} {r : List Char} (hc : c ∈ escapeMarks) (h : IsStringBody allowed r) :
      IsStringBody allowed ('\\' :: c :: r)
  | unicode {hex r : List Char} (hlength : hex.length = 4) (hhex : ∀ c ∈ hex, isHexDigit c = true)
      (h : IsStringBody allowed r) : IsStringBody allowed ('\\' :: 'u' :: (hex ++ r))
  | braced {hex r : List Char} (hne : hex ≠ []) (hhex : ∀ c ∈ hex, isHexDigit c = true)
      (h : IsStringBody allowed r) :
      IsStringBody allowed ('\\' :: 'u' :: '\x7b' :: (hex ++ '\x7d' :: r))

/-- A literal in quotes. -/
def IsStringValue (allowed : Char → Prop) (t : List Char) : Prop :=
  ∃ body, t = '"' :: (body ++ ['"']) ∧ IsStringBody allowed body

variable {allowed : Char → Prop}

/-- A text that can be written between quotes as it is, its quotes and backslashes apart. -/
def IsWritable (allowed : Char → Prop) (s : String) : Prop :=
  Unbroken s ∧ ∀ c ∈ s.toList, isEscaped c = true ∨ allowed c

theorem IsStringBody.of_plain {c : Char} {r : List Char} (hc : c ≠ '\\')
    (h : IsStringBody allowed (c :: r)) :
    (allowed c ∧ c ≠ '\r' ∧ c ≠ '\n') ∧ IsStringBody allowed r := by
  cases h with
  | plain hallowed hmarks h =>
    simp only [List.mem_cons, List.not_mem_nil, or_false, not_or] at hmarks
    exact ⟨⟨hallowed, hmarks.2.2.2, hmarks.2.2.1⟩, h⟩
  | escape | unicode | braced => exact absurd rfl hc

theorem IsStringBody.of_escape {c : Char} {r : List Char} (hc : c ≠ 'u')
    (h : IsStringBody allowed ('\\' :: c :: r)) : IsStringBody allowed r := by
  cases h with
  | plain _ hmarks => exact absurd (by decide) hmarks
  | escape _ h => exact h
  | unicode | braced => exact absurd rfl hc

/-- An escaped text is legal exactly if the text itself is without the characters that it leaves as
they are and that are not allowed. -/
theorem isStringBody_escaped_iff (cs : List Char) : IsStringBody allowed (escaped cs) ↔
    ∀ c ∈ cs, isEscaped c = true ∨ (allowed c ∧ c ≠ '\r' ∧ c ≠ '\n') := by
  induction cs with
  | nil => exact iff_of_true .nil nofun
  | cons c cs ih =>
    rw [escaped_cons, List.forall_mem_cons, ← ih]
    by_cases hescaped : isEscaped c = true
    · have hmark : c ∈ escapeMarks ∧ c ≠ 'u' := by
        rcases isEscaped_iff.1 hescaped with rfl | rfl <;> decide
      rw [if_pos hescaped]
      exact ⟨fun h => ⟨.inl hescaped, h.of_escape hmark.2⟩, fun h => .escape hmark.1 h.2⟩
    · have hne := not_or.1 (mt isEscaped_iff.2 hescaped)
      rw [if_neg hescaped]
      refine ⟨fun h => (h.of_plain hne.2).imp_left .inr, fun ⟨hc, h⟩ => ?_⟩
      obtain ⟨hallowed, hbreak⟩ := hc.resolve_left hescaped
      exact .plain hallowed (by simp [hne, hbreak]) h

theorem isStringBody_escaped_iff_isWritable (s : String) :
    IsStringBody allowed (escaped s.toList) ↔ IsWritable allowed s := by
  rw [isStringBody_escaped_iff, IsWritable, Unbroken, ← forall₂_and]
  refine forall₂_congr fun c _ => ?_
  have hbreak : isEscaped c = true → c ≠ '\r' ∧ c ≠ '\n' := by
    intro h
    rcases isEscaped_iff.1 h with rfl | rfl <;> decide
  tauto

theorem isStringValue_literal_iff (s : String) :
    IsStringValue allowed (literal (.str s)).toList ↔ IsWritable allowed s := by
  rw [← isStringBody_escaped_iff_isWritable, toList_literal]
  constructor
  · rintro ⟨body, hbody, h⟩
    have hsame : escaped s.toList = body := List.append_cancel_right (List.cons.inj hbody).2
    rwa [hsame]
  · exact fun h => ⟨_, rfl, h⟩

/-- A value whose literal stands in quotes. -/
def IsQuoted : Value → Prop
  | .str _ | .list _ | .map _ => True
  | _ => False

/-- A document has literals in the places of its frame, and those in quotes are legal. -/
def Frame.IsLegal (f : Frame) (allowed : Char → Prop) (names : List String) (doc : String) : Prop :=
  ∃ parts, read? (f.layout (names.map fun name => (name, ()))) doc.toList = some parts ∧
    ∀ raw, .value (.quoted raw) ∈ parts → IsStringBody allowed raw

theorem of_eq_quoted_iff (v : Value) (raw : List Char) :
    Literal.of v = .quoted raw ↔ IsQuoted v ∧ raw = escaped v.text.toList := by
  cases v <;> simp [Literal.of, IsQuoted, eq_comm]

theorem Frame.Holds.isLegal_iff {f : Frame} {as : Row} {doc : String} (h : f.Holds as doc) :
    f.IsLegal allowed (as.map Prod.fst) doc ↔
      ∀ a ∈ as, IsQuoted a.2 → IsWritable allowed a.2.text := by
  have hread := h.read
  have hparts : f.IsLegal allowed (as.map Prod.fst) doc ↔
      ∀ raw, .value (.quoted raw) ∈ f.layout (literals as) → IsStringBody allowed raw := by
    rw [IsLegal, List.map_map, Function.comp_def, hread]
    simp
  rw [hparts]
  constructor
  · intro h a ha hquoted
    refine (isStringBody_escaped_iff_isWritable _).1 (h _ (value_mem_layout_iff.2 ?_))
    exact ⟨_, List.mem_map_of_mem ha, (of_eq_quoted_iff _ _).2 ⟨hquoted, rfl⟩⟩
  · intro h raw hraw
    obtain ⟨a, ha, hliteral⟩ := value_mem_layout_iff.1 hraw
    obtain ⟨b, hb, rfl⟩ := List.mem_map.1 ha
    obtain ⟨hquoted, rfl⟩ := (of_eq_quoted_iff _ _).1 hliteral
    exact (isStringBody_escaped_iff_isWritable _).2 (h b hb hquoted)

/-- The literal of a text is legal exactly if the text stands on one line and has no characters that
are not allowed, its quotes and backslashes apart. A query and a mutation are legal exactly if this
holds of each value of an argument that is written in quotes. -/
theorem legal_iff_writable (allowed : Char → Prop) :
    (∀ s : String, IsStringValue allowed (literal (.str s)).toList ↔ IsWritable allowed s) ∧
    ∀ (name : String) (fields : List String) (as : Row),
      ((queryFrame name fields).IsLegal allowed (as.map Prod.fst) (queryDocument name fields as) ↔
        ∀ a ∈ as, IsQuoted a.2 → IsWritable allowed a.2.text) ∧
      ((mutationFrame name fields).IsLegal allowed (as.map Prod.fst)
          (mutationDocument name as fields) ↔
        ∀ a ∈ as, IsQuoted a.2 → IsWritable allowed a.2.text) :=
  ⟨isStringValue_literal_iff, fun name fields as =>
    ⟨(holds_queryFrame name fields as).isLegal_iff,
      (holds_mutationFrame name fields as).isLegal_iff⟩⟩

/-- A text on two lines has no legal literal, even where every character is allowed, and a document
that writes it is not legal. -/
theorem not_legal_twoLines :
    ¬IsStringValue (fun _ => True) (literal (.str "a\nb")).toList ∧
    ¬(mutationFrame "updateItem" ["id"]).IsLegal (fun _ => True) ["note"]
      (mutationDocument "updateItem" [("note", .str "a\nb")] ["id"]) := by
  have hbroken : ¬IsWritable (fun _ => True) "a\nb" := fun h => absurd h.1 (by decide)
  refine ⟨mt (isStringValue_literal_iff _).1 hbroken, fun h => hbroken ?_⟩
  exact (holds_mutationFrame "updateItem" ["id"] [("note", .str "a\nb")]).isLegal_iff.1 h
    ("note", .str "a\nb") List.mem_cons_self trivial

end EntityQuery.Graphql
