import EntityQuery.Proofs.BareToken
import EntityQuery.Proofs.Outcome

/-!
# Literals that keep a value in its place

A literal is one token or a text between quotes, in which quotes stand in pairs; nothing that a
value holds can end it early. The literals of most remote types are such literals whatever text
they are made from. Those of identifiers, moments with an offset, bytes and durations hold the text
as it is, so the text itself has to be one (`confined_encode_iff`).
-/

namespace EntityQuery

open Number Text Typed

/-- Whether every quote is followed by one of its own. -/
def quotesDoubled : List Char → Bool
  | [] => true
  | '\'' :: '\'' :: r => quotesDoubled r
  | '\'' :: _ => false
  | _ :: r => quotesDoubled r

theorem quotesDoubled_cons {c : Char} (h : c ≠ '\'') (r : List Char) :
    quotesDoubled (c :: r) = quotesDoubled r := by
  rw [quotesDoubled.eq_def]
  split
  · contradiction
  · rename_i heq
    exact absurd (List.cons.inj heq).1 h
  · rename_i heq
    exact absurd (List.cons.inj heq).1 h
  · rename_i heq
    rw [(List.cons.inj heq).2]

theorem quotesDoubled_append_of_not_mem {a : List Char} (h : '\'' ∉ a) (b : List Char) :
    quotesDoubled (a ++ b) = quotesDoubled b := by
  induction a with
  | nil => rfl
  | cons c a ih =>
    rw [List.mem_cons, not_or] at h
    rw [List.cons_append, quotesDoubled_cons (Ne.symm h.1), ih h.2]

theorem quotesDoubled_of_not_mem {a : List Char} (h : '\'' ∉ a) : quotesDoubled a = true := by
  rw [← List.append_nil a, quotesDoubled_append_of_not_mem h]
  rfl

/-- Pieces without quotes are joined by pairs of quotes only. -/
theorem quotesDoubled_intercalate {pieces : List (List Char)} (h : ∀ p ∈ pieces, '\'' ∉ p) :
    quotesDoubled (['\'', '\''].intercalate pieces) = true := by
  induction pieces with
  | nil => rfl
  | cons p pieces ih =>
    rw [List.forall_mem_cons] at h
    cases pieces with
    | nil =>
      rw [List.intercalate_singleton]
      exact quotesDoubled_of_not_mem h.1
    | cons q pieces =>
      rw [List.intercalate_cons_cons, List.append_assoc, quotesDoubled_append_of_not_mem h.1]
      exact ih h.2

/-- The pieces between the occurrences of a character are without it. -/
theorem not_mem_of_mem_pieces {c : Char} (s : List Char) : ∀ p ∈ pieces [c] s, c ∉ p := by
  have hfirst {s : List Char} (hc : c ∈ s) : ∃ a b, c ∉ a ∧ cutChars? [c] s = some (a, b) := by
    obtain ⟨a, b, rfl, ha⟩ := List.eq_append_cons_of_mem hc
    exact ⟨a, b, ha, cutChars?_append ha⟩
  fun_induction pieces [c] s with
  | case1 s hcut =>
    rw [List.forall_mem_singleton]
    intro hc
    obtain ⟨a, b, -, hsome⟩ := hfirst hc
    cases hcut.symm.trans hsome
  | case2 s a b hcut hnil => cases hnil
  | case3 s a b hcut hne ih =>
    refine List.forall_mem_cons.2 ⟨?_, ih⟩
    have hc : c ∈ s := by simp [cutChars?_eq_some hcut]
    obtain ⟨a', b', ha', hsome⟩ := hfirst hc
    cases hcut.symm.trans hsome
    exact ha'

theorem quotesDoubled_escapeLiteral (s : String) :
    quotesDoubled (escapeLiteral s).toList = true := by
  rw [escapeLiteral, Text.replace, String.toList_ofList]
  exact quotesDoubled_intercalate (not_mem_of_mem_pieces s.toList)

/-- One closed literal: a text between quotes, tagged or not, that holds quotes in pairs only, or a
token. -/
def IsLiteral (s : String) : Prop :=
  (∃ tag ∈ "" :: literalTags, ∃ body : String, quotesDoubled body.toList = true ∧
    s = tag ++ "'" ++ body ++ "'") ∨
  (s ≠ "" ∧ isTokenText s = true)

theorem not_mem_of_isTokenText {s : String} (h : isTokenText s = true) : '\'' ∉ s.toList := by
  intro hm
  have hq := List.all_eq_true.1 h _ hm
  revert hq
  decide

theorem not_mem_of_mem_literalTags {tag : String} (h : tag ∈ "" :: literalTags) :
    '\'' ∉ tag.toList := by
  revert h tag
  decide

/-- A text behind a tag is a literal exactly when its quotes stand in pairs: the first quote ends
the tag. -/
theorem isLiteral_tagged_iff (tag : String) (htag : tag ∈ "" :: literalTags) (body : String) :
    IsLiteral (tag ++ "'" ++ body ++ "'") ↔ quotesDoubled body.toList = true := by
  constructor
  · rintro (⟨tag', htag', body', hbody', heq⟩ | ⟨-, htoken⟩)
    · have hcut {t b : String} (ht : t ∈ "" :: literalTags) :
          cutChars? ['\''] (t ++ "'" ++ b ++ "'").toList = some (t.toList, b.toList ++ ['\'']) := by
        have hquote : "'".toList = ['\''] := rfl
        rw [String.toList_append, String.toList_append, String.toList_append, hquote,
          List.append_assoc, List.append_assoc, List.singleton_append,
          cutChars?_append (not_mem_of_mem_literalTags ht)]
      have hparts := (hcut htag).symm.trans (heq ▸ hcut htag')
      rw [Option.some.injEq, Prod.mk.injEq] at hparts
      rwa [List.append_cancel_right hparts.2]
    · refine absurd ?_ (not_mem_of_isTokenText htoken)
      simp [String.toList_append]
  · exact fun h => .inl ⟨tag, htag, body, h, rfl⟩

theorem isLiteral_quotedLiteral (s : String) : IsLiteral (quotedLiteral s) := by
  refine .inl ⟨"", List.mem_cons_self, escapeLiteral s, quotesDoubled_escapeLiteral s, ?_⟩
  rw [String.empty_append]
  rfl

theorem isLiteral_integerText (n : Int) : IsLiteral (integerText n) :=
  .inr ⟨integerText_ne_empty n, isTokenText_integerText n⟩

theorem isLiteral_of_token {s t : String} (hs : s ≠ "") (hst : isTokenText s = true)
    (ht : isTokenText t = true) : IsLiteral (s ++ t) := by
  refine .inr ⟨fun h => hs (String.append_eq_empty_iff.1 h).1, ?_⟩
  rw [isTokenText_append, hst, ht, Bool.and_self]

theorem isLiteral_duration (t : Clock) : IsLiteral t.duration := by
  refine .inr ⟨?_, isTokenText_duration t⟩
  simp [Clock.duration, String.append_eq_empty_iff]

theorem isLiteral_untypedLiteral (s : String) :
    IsLiteral (Codec.untypedLiteral (.value (.str s))) := by
  rw [Codec.untypedLiteral]
  split
  · rename_i h
    have h : isNumeral (trimChars s.toList) = true := h
    refine .inr ⟨?_, ?_⟩
    · exact fun he => ne_nil_of_isNumeral h (String.ofList_eq_empty_iff.1 he)
    · exact (isTokenText_ofList _).trans (all_of_isNumeral h)
  · exact isLiteral_quotedLiteral _

/-- A literal, or the report that the value cannot be cast. -/
def Confined : Except CodecFault String → Prop
  | .ok s => IsLiteral s
  | .error (.cast _ _) => True
  | .error _ => False

/-- What a text has to be for its literal to be one: anything, for most remote types. A time of day
must not have infinitely many seconds, which are reported as such. -/
def Codec.Confines (c : Codec) (h : Hint) (s : String) : Prop :=
  match h with
  | .guid => if c = .odata4 then IsLiteral s else quotesDoubled s.toList = true
  | .binary => quotesDoubled s.toList = true
  | .dateTimeOffset =>
    if c = .odata4 then IsLiteral (c.offsetText (.value (.str s)))
    else quotesDoubled s.toList = true
  | .time =>
    if c ≠ .odata4 ∧ startsWith "PT" s = true then IsLiteral s
    else ∀ m, Typed.toClock (.value (.str s)) ≠ .error (.codec .infinite m)
  | _ => True

section Casting

variable {α : Type} {shown remoteType : String}

theorem cast_eq_ok_iff {x : Except Error α} {a : α} :
    cast shown remoteType x = .ok a ↔ x = .ok a := by
  unfold cast
  split <;> simp

theorem cast_of_error {e : Error} (he : ∀ m, e ≠ .codec .infinite m) :
    (cast shown remoteType (.error e) : Except CodecFault α) = .error (.cast shown remoteType) := by
  unfold cast
  split
  · contradiction
  · rename_i m heq
    cases heq
    exact absurd rfl (he m)
  · rfl

theorem cast_bind_pure {β : Type} (shown remoteType : String) (x : Except Error α) (f : α → β) :
    cast shown remoteType (x >>= fun a => pure (f a)) =
      cast shown remoteType x >>= fun a => pure (f a) := by
  cases x with
  | ok a => rfl
  | error e =>
    by_cases he : ∃ m, e = .codec .infinite m
    · obtain ⟨m, rfl⟩ := he
      rfl
    · rw [cast_of_error (not_exists.1 he)]
      exact cast_of_error (not_exists.1 he)

/-- A cast fails in its own fault only. -/
theorem eq_of_cast_error {x : Except Error α}
    {e : CodecFault} (hx : ∀ m, x ≠ .error (.codec .infinite m))
    (h : cast shown remoteType x = .error e) : e = .cast shown remoteType := by
  cases x with
  | ok a => cases h
  | error e' =>
    rw [cast_of_error fun m he => hx m (he ▸ rfl)] at h
    exact (Except.error.inj h).symm

/-- A value that cannot be cast is reported as such, unless a number is infinite. -/
theorem confined_cast_iff {x : Except Error α} {f : α → String}
    (hf : ∀ a, x = .ok a → IsLiteral (f a)) :
    Confined (cast shown remoteType x >>= fun a => pure (f a)) ↔
      ∀ m, x ≠ .error (.codec .infinite m) := by
  cases x with
  | ok a => exact iff_of_true (hf a rfl) fun m => nofun
  | error e =>
    by_cases he : ∃ m, e = .codec .infinite m
    · obtain ⟨m, rfl⟩ := he
      exact iff_of_false id fun h => h m rfl
    · rw [cast_of_error fun m h => he ⟨m, h⟩]
      exact iff_of_true trivial fun m h => he ⟨m, Except.error.inj h⟩

/-- What is no integer is never infinite either. -/
theorem toInteger_ne_infinite (v : Typed) (m : String) :
    v.toInteger ≠ .error (.codec .infinite m) := by
  unfold Typed.toInteger
  split
  · simp
  · simp
  · split <;> simp
  · split <;> simp

theorem numberText_ne_infinite (v : Typed) (m : String) :
    v.numberText ≠ .error (.codec .infinite m) := by
  unfold Typed.numberText
  split
  · simp
  · simp
  · split <;> simp

/-- The 64-bit number of a value is finite unless it is an integer beyond all of them. -/
theorem toFloat_ne_infinite {v : Value}
    (hv : ∀ n negative, v = .int n → Binary64.ofInt n ≠ .infinite negative) (m : String) :
    Typed.toFloat (.value v) ≠ .error (.codec .infinite m) := by
  unfold Typed.toFloat
  cases v with
  | int n =>
    dsimp only
    split
    · rename_i negative heq
      exact absurd heq (hv n negative rfl)
    · exact nofun
  | str s =>
    dsimp only
    split <;> simp
  | null | bool _ | float _ | list _ | map _ => exact nofun

variable (s m : String)

theorem toMoment_ne_infinite :
    Typed.toMoment (.value (.str s)) ≠ .error (.codec .infinite m) := by
  unfold Typed.toMoment
  dsimp only
  split <;> simp

theorem toBool_ne_infinite : Typed.toBool (.value (.str s)) ≠ .error (.codec .infinite m) := by
  unfold Typed.toBool
  dsimp only
  split
  · simp
  · split <;> simp

/-- The numeral of a text. -/
theorem exists_decimal_of_numberText {s t : String}
    (h : Typed.numberText (.value (.str s)) = .ok t) : ∃ d : Decimal, t = d.text := by
  unfold Typed.numberText at h
  dsimp only at h
  split at h
  · exact ⟨_, (Except.ok.inj h).symm⟩
  · cases h

end Casting

/-- A numeral, with or without a mark of its type. -/
theorem confined_numberText (mark : String) (hmark : isTokenText mark = true)
    (shown remoteType s : String) :
    Confined (cast shown remoteType (Typed.numberText (.value (.str s))) >>= fun t =>
      pure (t ++ mark)) := by
  refine (confined_cast_iff fun t ht => ?_).2 (numberText_ne_infinite _)
  obtain ⟨d, rfl⟩ := exists_decimal_of_numberText ht
  exact isLiteral_of_token (decimalText_ne_empty d) (isTokenText_decimalText d) hmark

theorem confined_encodeTime_iff (shown remoteType s : String) :
    Confined (cast shown remoteType (encodeTime (.value (.str s)))) ↔
      if startsWith "PT" s = true then IsLiteral s
      else ∀ m, Typed.toClock (.value (.str s)) ≠ .error (.codec .infinite m) := by
  unfold encodeTime
  dsimp only
  split
  · rfl
  · rw [← bind_pure (cast _ _ _), confined_cast_iff]
    · cases Typed.toClock (.value (.str s)) with
      | ok t => exact iff_of_true (fun m => nofun) fun m => nofun
      | error e =>
        constructor
        · intro h m heq
          cases heq
          exact h m rfl
        · intro h m heq
          cases heq
          exact h m rfl
    · intro l hl
      obtain ⟨t, -, ht⟩ := Except.bind_eq_ok_iff.1 hl
      cases ht
      exact isLiteral_duration t

theorem confined_odataLiteral_iff (c : Codec) (h : Hint) (s : String) :
    Confined (c.odataLiteral h (.value (.str s))) ↔ c.Confines h s := by
  cases h with
  | guid =>
    simp only [Codec.odataLiteral, Codec.Confines]
    split
    · rfl
    · exact isLiteral_tagged_iff "guid" (by decide) s
  | int64 =>
    have hinteger := toInteger_ne_infinite (.value (.str s))
    simp only [Codec.odataLiteral]
    generalize Typed.toInteger (.value (.str s)) = x at hinteger ⊢
    refine iff_of_true ((confined_cast_iff fun n _ => ?_).2 hinteger) trivial
    refine isLiteral_of_token (integerText_ne_empty n) (isTokenText_integerText n) ?_
    split <;> decide
  | int32 | int16 | byte | sbyte =>
    have hinteger := toInteger_ne_infinite (.value (.str s))
    simp only [Codec.odataLiteral]
    generalize Typed.toInteger (.value (.str s)) = x at hinteger ⊢
    exact iff_of_true ((confined_cast_iff fun n _ => isLiteral_integerText n).2 hinteger) trivial
  | decimal =>
    have hnumber := confined_numberText "" rfl (Value.shown (.str s)) Hint.decimal.name s
    simp only [String.append_empty, bind_pure] at hnumber
    exact iff_of_true hnumber trivial
  | single | double =>
    refine iff_of_true (confined_numberText _ ?_ _ _ s) trivial
    split <;> decide
  | boolean =>
    have hword (b : Bool) : IsLiteral (if b then "true" else "false") := by
      right
      cases b <;> decide
    simp only [Codec.odataLiteral, Codec.Confines]
    rw [confined_cast_iff fun b _ => hword b]
    exact iff_of_true (toBool_ne_infinite s) trivial
  | dateTime =>
    refine iff_of_true ((confined_cast_iff fun t _ => ?_).2 (toMoment_ne_infinite s)) trivial
    exact (isLiteral_tagged_iff "datetime" (by decide) _).2
      (quotesDoubled_of_not_mem (not_mem_of_isTokenText (isTokenText_shortText t)))
  | dateTimeOffset =>
    by_cases hc : c = .odata4
    · simp only [Codec.odataLiteral, Codec.Confines, if_pos hc, Confined]
    · have htext : c.offsetText (.value (.str s)) = s := by
        unfold Codec.offsetText
        split
        · contradiction
        · contradiction
        · contradiction
        · rfl
      simp only [Codec.odataLiteral, Codec.Confines, if_neg hc, Confined, htext]
      exact isLiteral_tagged_iff "datetimeoffset" (by decide) s
  | time =>
    by_cases hc : c = .odata4
    · simp only [Codec.odataLiteral, Codec.Confines, if_pos hc]
      rw [if_neg fun h => h.1 hc]
      refine confined_cast_iff fun t _ => isLiteral_of_token ?_ ?_ (isTokenText_paddedText ..)
      · simp [String.append_eq_empty_iff]
      · simp only [isTokenText_append, isTokenText_paddedText]
        rfl
    · simp only [Codec.odataLiteral, Codec.Confines, if_neg hc]
      rw [confined_encodeTime_iff]
      simp only [ne_eq, hc, not_false_eq_true, true_and]
  | binary => exact isLiteral_tagged_iff "binary" (by decide) s
  | string => exact iff_of_true (isLiteral_quotedLiteral s) trivial
  | none | other name => exact iff_of_true (isLiteral_untypedLiteral s) trivial

/-- The literal of a text keeps the text in its place exactly when `Codec.Confines` says so. -/
theorem confined_encode_iff {c : Codec} (hc : c ≠ .plain) (s : String) (type : DataType)
    (declared : Option String) :
    Confined (c.encode (.value (.str s)) type declared) ↔ c.Confines (c.hint type declared) s := by
  rw [← confined_odataLiteral_iff]
  cases c with
  | plain => exact absurd rfl hc
  | odata2 | odata4 => rfl

theorem confined_encode_iff_string :
    Confined (Codec.odata2.encode (.value (.str "x' or 'a' eq 'a")) .string none) :=
  (confined_encode_iff (by decide) _ .string none).2 trivial

/-- An identifier that holds a quote ends its literal and goes on with conditions of its own. -/
theorem not_confined_encode_guid : ¬Confined
    (Codec.odata2.encode (.value (.str "x' or 'a' eq 'a")) .string (some "Edm.Guid")) := by
  have hhint : Codec.odata2.hint .string (some "Edm.Guid") = .guid := by decide
  show ¬Confined (Codec.odata2.odataLiteral (Codec.odata2.hint .string (some "Edm.Guid")) _)
  rw [hhint, confined_odataLiteral_iff]
  show quotesDoubled "x' or 'a' eq 'a".toList ≠ true
  decide

end EntityQuery
