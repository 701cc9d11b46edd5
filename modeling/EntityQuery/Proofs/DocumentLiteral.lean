import EntityQuery.Graphql.Document
import EntityQuery.Proofs.LineEnds
import EntityQuery.Proofs.LiteralRoundTrip
import EntityQuery.Proofs.NumberText

/-!
# Literals within a document

The literal of a text escapes the two characters that could end it early, and so what follows it
begins exactly behind its last quote (`scanQuoted?_escaped`). A document is laid out by its names
alone: own text, and one place for each value of an argument (`Frame.layout`). Read in this layout
(`read?_written`) it has one literal in each place, and read without it (`segments?_written`) the
same literals, so that no value reaches the text around it.
-/

namespace EntityQuery.Graphql

open Number Text

/-- The text up to the quote that ends a literal, and what follows that quote. A backslash takes the
next character along. -/
def scanQuoted? : List Char → Option (List Char × List Char)
  | [] => none
  | '"' :: r => some ([], r)
  | '\\' :: c :: r => (scanQuoted? r).map fun (raw, rest) => ('\\' :: c :: raw, rest)
  | c :: r => (scanQuoted? r).map fun (raw, rest) => (c :: raw, rest)

/-- The text that is meant between two quotes, where a backslash takes the next character as it
is. -/
def unescaped : List Char → List Char
  | '\\' :: c :: r => c :: unescaped r
  | c :: r => c :: unescaped r
  | [] => []

/-- Characters that are escaped. -/
def isEscaped (c : Char) : Bool := c == '"' || c == '\\'

/-- A text with a backslash before each of its quotes and backslashes. -/
def escaped (cs : List Char) : List Char :=
  cs.flatMap fun c => if isEscaped c then ['\\', c] else [c]

theorem isEscaped_iff {c : Char} : isEscaped c = true ↔ c = '"' ∨ c = '\\' := by
  simp [isEscaped]

theorem escaped_cons (c : Char) (cs : List Char) :
    escaped (c :: cs) = (if isEscaped c then ['\\', c] else [c]) ++ escaped cs :=
  List.flatMap_cons

/-- Quotes and backslashes are escaped in two runs, of which the second leaves the backslashes of
the first alone. -/
theorem toList_stringLiteral (s : String) :
    (stringLiteral s).toList = '"' :: (escaped s.toList ++ ['"']) := by
  have hruns : (replace "\"" "\\\"" (replace "\\" "\\\\" s)).toList = escaped s.toList := by
    rw [toList_replace, toList_replace]
    show substituted ['"'] ['\\', '"'] (substituted ['\\'] ['\\', '\\'] s.toList) = _
    rw [substituted_singleton, substituted_singleton, List.flatMap_assoc]
    refine List.flatMap_congr fun c _ => ?_
    by_cases hslash : c = '\\'
    · subst hslash
      rfl
    · by_cases hquote : c = '"' <;> simp [isEscaped, hslash, hquote]
  rw [stringLiteral, String.toList_append, String.toList_append, hruns]
  rfl

/-- Of a text that is escaped, every quote comes behind a backslash, and every backslash comes with
the character that it escapes. -/
theorem scanQuoted?_escaped (cs rest : List Char) :
    scanQuoted? (escaped cs ++ '"' :: rest) = some (escaped cs, rest) := by
  induction cs with
  | nil => rfl
  | cons c cs ih =>
    rw [escaped_cons]
    by_cases h : isEscaped c = true
    · rw [if_pos h]
      simp [scanQuoted?, ih]
    · have hne := not_or.1 (mt isEscaped_iff.2 h)
      rw [if_neg h]
      simp [scanQuoted?, ih, hne]

theorem unescaped_escaped (cs : List Char) : unescaped (escaped cs) = cs := by
  induction cs with
  | nil => rfl
  | cons c cs ih =>
    rw [escaped_cons]
    by_cases h : isEscaped c = true
    · rw [if_pos h]
      simp [unescaped, ih]
    · have hne := not_or.1 (mt isEscaped_iff.2 h)
      rw [if_neg h]
      simp [unescaped, ih, hne]

/-- A literal: a name or a number, or what stands between two quotes. -/
inductive Literal where
  | word (cs : List Char)
  | quoted (raw : List Char)
  deriving DecidableEq, Repr

/-- A character of a name or of a number. -/
def isWordChar (c : Char) : Bool := c.isAlpha || isDecimal c || ['_', '.', '+', '-'].contains c

/-- The literal at the start of a text, and what follows it. -/
def Literal.read? : List Char → Option (Literal × List Char)
  | '"' :: r => (scanQuoted? r).map fun (raw, rest) => (.quoted raw, rest)
  | cs =>
    let word := cs.takeWhile isWordChar
    if word = [] then none else some (.word word, cs.dropWhile isWordChar)

/-- A literal stands for a value: a word for null, a truth value or a number, a quoted text for
every other value, of which it spells the text. -/
def Literal.Denotes : Literal → Value → Prop
  | .word w, .null => w = "null".toList
  | .word w, .bool b => w = (if b then "true" else "false").toList
  | .word w, .int n => w = (integerText n).toList
  | .word w, .float x => w = x.text.toList
  | .quoted raw, .str s => unescaped raw = s.toList
  | .quoted raw, .list vs => unescaped raw = (Value.list vs).text.toList
  | .quoted raw, .map r => unescaped raw = (Value.map r).text.toList
  | _, _ => False

/-- The literal that a value is written as. -/
def Literal.of : Value → Literal
  | .null => .word "null".toList
  | .bool b => .word (if b then "true" else "false").toList
  | .int n => .word (integerText n).toList
  | .float x => .word x.text.toList
  | v => .quoted (escaped v.text.toList)

/-- How a literal is written. -/
def Literal.text : Literal → List Char
  | .word w => w
  | .quoted raw => '"' :: (raw ++ ['"'])

/-- Where a literal ends can be told from the literal, whatever follows a closing quote. -/
def Literal.IsClosed : Literal → Prop
  | .word w => w ≠ [] ∧ ∀ c ∈ w, isWordChar c = true
  | .quoted raw => ∀ rest, scanQuoted? (raw ++ '"' :: rest) = some (raw, rest)

theorem Literal.denotes_of (v : Value) : (Literal.of v).Denotes v := by
  cases v <;> first | rfl | exact unescaped_escaped _

theorem isWordChar_of_mem_numeral {cs : List Char} (h : isNumeral cs = true) :
    ∀ c ∈ cs, isWordChar c = true := by
  have hmarks : ∀ c ∈ numeralMarks, isWordChar c = true :=
    List.forall_iff_forall_mem.1 (by decide)
  intro c hc
  rcases mem_numeral h hc with hdecimal | hmark
  · simp [isWordChar, hdecimal]
  · exact hmarks c hmark

theorem Literal.isClosed_of (v : Value) : (Literal.of v).IsClosed := by
  have hword {w : String} (hne : w ≠ "") (hall : ∀ c ∈ w.toList, isWordChar c = true) :
      (Literal.word w.toList).IsClosed :=
    ⟨fun h => hne (String.toList_eq_nil_iff.1 h), hall⟩
  cases v with
  | null => exact hword (by decide) (List.forall_iff_forall_mem.1 (by decide))
  | bool b =>
    cases b <;> exact hword (by decide) (List.forall_iff_forall_mem.1 (by decide))
  | int n =>
    refine hword (integerText_ne_empty n) fun c hc => ?_
    rcases Codec.mem_integerText hc with hdigit | rfl
    · simp [isWordChar, isDecimal_of_isDigit_ascii hdigit]
    · decide
  | float x =>
    cases x with
    | nan => exact hword (by decide) (List.forall_iff_forall_mem.1 (by decide))
    | infinite negative =>
      cases negative <;> exact hword (by decide) (List.forall_iff_forall_mem.1 (by decide))
    | finite negative m e h =>
      have hnumeral := isNumeral_text negative m e h
      refine hword (fun hempty => ne_nil_of_isNumeral hnumeral ?_)
        (isWordChar_of_mem_numeral hnumeral)
      rw [hempty]
      rfl
  | str _ | list _ | map _ => exact scanQuoted?_escaped _

theorem toList_literal (v : Value) : (literal v).toList = (Literal.of v).text := by
  cases v with
  | null | int _ | float _ => rfl
  | bool b => cases b <;> rfl
  | str _ | list _ | map _ => exact toList_stringLiteral _

theorem Literal.read?_quoted {raw : List Char} (h : (Literal.quoted raw).IsClosed)
    (rest : List Char) :
    Literal.read? ((Literal.quoted raw).text ++ rest) = some (.quoted raw, rest) := by
  have hscan := h rest
  simp [Literal.text, Literal.read?, hscan]

/-- A literal is read up to its end if no name and no number goes on behind it. -/
theorem Literal.IsClosed.read?_text {l : Literal} (h : l.IsClosed) {rest : List Char}
    (hrest : ∀ c ∈ rest.head?, isWordChar c = false) :
    Literal.read? (l.text ++ rest) = some (l, rest) := by
  cases l with
  | quoted raw => exact Literal.read?_quoted h rest
  | word w =>
    obtain ⟨hne, hall⟩ := h
    have hquote : ∀ r, w ++ rest ≠ '"' :: r := by
      rintro r hr
      obtain ⟨c, cs, rfl⟩ := List.exists_cons_of_ne_nil hne
      obtain ⟨rfl, -⟩ := List.cons.inj hr
      exact absurd (hall _ List.mem_cons_self) (by decide)
    obtain ⟨htake, hdrop⟩ := takeWhile_dropWhile_append hall hrest
    rw [Literal.text, Literal.read?]
    · rw [htake, hdrop]
      exact if_neg hne
    · exact hquote

variable {α β : Type}

/-- A part of a document: own text, or the place of a value. -/
inductive Part (α : Type) where
  | own (text : String)
  | value (a : α)

/-- Another value in the same place. -/
def Part.map (f : α → β) : Part α → Part β
  | .own t => .own t
  | .value a => .value (f a)

/-- A document without its arguments, and what their list is written with. -/
structure Frame where
  keyword : String
  name : String
  fields : List String
  opening : String
  sep : String
  closing : String

def queryFrame (name : String) (fields : List String) : Frame :=
  ⟨"query", name, fields, "(", ", ", ")"⟩

def mutationFrame (name : String) (fields : List String) : Frame :=
  ⟨"mutation", name, fields, " (" ++ lineBreak, lineBreak, "\n" ++ indent ++ ")"⟩

namespace Frame

def argument (lead : String) (a : String × α) : List (Part α) :=
  [.own (lead ++ a.1 ++ ": "), .value a.2]

/-- The list of arguments, of which each has a name and a place for its value. -/
def arguments (f : Frame) : List (String × α) → List (Part α)
  | [] => []
  | a :: r => argument f.opening a ++ r.flatMap (argument f.sep) ++ [.own f.closing]

/-- The parts of a document. A value is put in its place and changes nothing else. -/
def layout (f : Frame) (as : List (String × α)) : List (Part α) :=
  .own (f.keyword ++ " \x7b\n" ++ indent ++ f.name) :: (f.arguments as ++
    [.own (" \x7b" ++ lineBreak ++ join lineBreak (distinct f.fields) ++ "\n" ++ indent ++
      "\x7d\n\x7d")])

theorem layout_map (f : Frame) (g : α → β) (as : List (String × α)) :
    f.layout (as.map fun a => (a.1, g a.2)) = (f.layout as).map (Part.map g) := by
  have hargument (lead : String) (a : String × α) :
      argument lead (a.1, g a.2) = (argument lead a).map (Part.map g) := rfl
  cases as with
  | nil => rfl
  | cons a r => simp [layout, arguments, hargument, Part.map, List.flatMap_map, List.map_flatMap]

end Frame

/-- How a part is written. -/
def Part.text : Part Literal → List Char
  | .own t => t.toList
  | .value l => l.text

/-- A document of given parts. -/
def written (parts : List (Part Literal)) : List Char := parts.flatMap Part.text

/-- The arguments as they are written. -/
def literals (as : Row) : List (String × Literal) := as.map fun a => (a.1, Literal.of a.2)

theorem toList_join_cons (sep s : String) (ss : List String) : (join sep (s :: ss)).toList =
    s.toList ++ ss.flatMap fun t => sep.toList ++ t.toList := by
  rw [join, String.toList_intercalate]
  induction ss generalizing s with
  | nil => simp
  | cons t ss ih =>
    rw [List.map_cons, List.map_cons, List.intercalate_cons_cons, ← List.map_cons, ih]
    simp

theorem written_arguments_cons (f : Frame) (a : String × Value) (as : Row) :
    written (f.arguments (literals (a :: as))) =
      (f.opening ++ join f.sep ((a :: as).map argument) ++ f.closing).toList := by
  have hargument (lead : String) (a : String × Value) :
      (Frame.argument lead (a.1, Literal.of a.2)).flatMap Part.text =
        lead.toList ++ (argument a).toList := by
    simp [Frame.argument, Part.text, argument, toList_literal]
  rw [String.toList_append, String.toList_append, List.map_cons, toList_join_cons]
  simp [written, literals, Frame.arguments, hargument, List.flatMap_assoc, List.flatMap_map,
    Part.text]

theorem written_layout {f : Frame} {as : Row} {text : String}
    (h : written (f.arguments (literals as)) = text.toList) :
    written (f.layout (literals as)) = (document f.keyword f.name text f.fields).toList := by
  rw [written] at h
  simp [written, Frame.layout, document, Part.text, h]

theorem written_queryFrame (name : String) (fields : List String) (as : Row) :
    written ((queryFrame name fields).layout (literals as)) =
      (queryDocument name fields as).toList := by
  refine written_layout ?_
  cases as with
  | nil => rfl
  | cons a as => exact written_arguments_cons _ a as

theorem written_mutationFrame (name : String) (fields : List String) (as : Row) :
    written ((mutationFrame name fields).layout (literals as)) =
      (mutationDocument name as fields).toList := by
  refine written_layout ?_
  cases as with
  | nil => rfl
  | cons a as =>
    refine (written_arguments_cons _ a as).trans ?_
    simp [mutationFrame, blockArguments]

/-- The literals in the places of a document, where its own text is as expected. -/
def read? : List (Part Unit) → List Char → Option (List (Part Literal))
  | [], cs => if cs = [] then some [] else none
  | .own t :: parts, cs => do
    let parts ← read? parts (← after? t.toList cs)
    pure (.own t :: parts)
  | .value () :: parts, cs => do
    let (l, rest) ← Literal.read? cs
    let parts ← read? parts rest
    pure (.value l :: parts)

/-- Own text with which no name and no number goes on. -/
def Part.Stops : Part α → Prop
  | .own t => ∃ c ∈ t.toList.head?, isWordChar c = false
  | .value _ => False

/-- Behind each value stands own text that stops it. -/
def IsSeparated : List (Part α) → Prop
  | [] => True
  | .own _ :: parts => IsSeparated parts
  | .value _ :: parts => (∃ p ∈ parts.head?, p.Stops) ∧ IsSeparated parts

theorem head?_written {parts : List (Part Literal)} (h : ∃ p ∈ parts.head?, p.Stops) :
    ∀ c ∈ (written parts).head?, isWordChar c = false := by
  obtain ⟨p, hp, hstops⟩ := h
  obtain ⟨parts, rfl⟩ := List.head?_eq_some_iff.1 hp
  cases p with
  | value _ => exact hstops.elim
  | own t =>
    obtain ⟨c, hc, hword⟩ := hstops
    obtain ⟨cs, hcs⟩ := List.head?_eq_some_iff.1 hc
    rw [written, List.flatMap_cons, Part.text, hcs]
    rintro _ ⟨⟩
    exact hword

/-- Read in their layout, parts are found again. -/
theorem read?_written {parts : List (Part Literal)} (hclosed : ∀ l, .value l ∈ parts → l.IsClosed)
    (h : IsSeparated parts) :
    read? (parts.map (Part.map fun _ => ())) (written parts) = some parts := by
  fun_induction IsSeparated parts with
  | case1 => rfl
  | case2 t parts ih =>
    have ih := ih (fun l hl => hclosed l (List.mem_cons_of_mem _ hl)) h
    have hafter : after? t.toList (t.toList ++ written parts) = some (written parts) :=
      after?_eq_some.2 rfl
    rw [List.map_cons, Part.map, read?, written, List.flatMap_cons, Part.text, ← written, hafter,
      Option.bind_eq_bind, Option.bind_some, ih]
    rfl
  | case3 l parts ih =>
    have ih := ih (fun l hl => hclosed l (List.mem_cons_of_mem _ hl)) h.2
    have hread := (hclosed l List.mem_cons_self).read?_text (head?_written h.1)
    rw [List.map_cons, Part.map, read?, written, List.flatMap_cons, Part.text, ← written, hread,
      Option.bind_eq_bind, Option.bind_some]
    dsimp only
    rw [ih]
    rfl

/-- No name and no number goes on behind a value, neither before another argument nor before the end
of the list. -/
def Frame.Delimits (f : Frame) : Prop :=
  ∀ t ∈ [f.sep, f.closing], ∃ c ∈ t.toList.head?, isWordChar c = false

theorem delimits_queryFrame (name : String) (fields : List String) :
    (queryFrame name fields).Delimits := by
  intro t ht
  rcases List.mem_pair.1 ht with rfl | rfl
  · exact ⟨',', by simp [queryFrame], by decide⟩
  · exact ⟨')', by simp [queryFrame], by decide⟩

theorem delimits_mutationFrame (name : String) (fields : List String) :
    (mutationFrame name fields).Delimits := by
  intro t ht
  rcases List.mem_pair.1 ht with rfl | rfl <;>
    exact ⟨'\n', by simp [mutationFrame, lineBreak], by decide⟩

theorem Frame.Delimits.isSeparated_layout {f : Frame} (h : f.Delimits) (as : List (String × α)) :
    IsSeparated (f.layout as) := by
  have hclosing : ∃ c ∈ f.closing.toList.head?, isWordChar c = false :=
    h f.closing (List.mem_cons_of_mem _ List.mem_cons_self)
  have hrest (as : List (String × α)) (t : String) :
      let parts := as.flatMap (argument f.sep) ++ [.own f.closing, .own t]
      (∃ p ∈ parts.head?, p.Stops) ∧ IsSeparated parts := by
    induction as with
    | nil => exact ⟨⟨_, rfl, hclosing⟩, trivial⟩
    | cons a as ih =>
      refine ⟨⟨_, rfl, ?_⟩, ih⟩
      obtain ⟨c, hc, hword⟩ := h f.sep List.mem_cons_self
      obtain ⟨cs, hcs⟩ := List.head?_eq_some_iff.1 hc
      exact ⟨c, by simp [hcs], hword⟩
  cases as with
  | nil => trivial
  | cons a as =>
    rw [layout, arguments, List.append_assoc, List.append_assoc]
    exact hrest as _

/-- A character outside of quotes, or what stands between two quotes. -/
inductive Segment where
  | char (c : Char)
  | quoted (raw : List Char)
  deriving DecidableEq, Repr

theorem length_scanQuoted? {cs raw rest : List Char} (h : scanQuoted? cs = some (raw, rest)) :
    rest.length < cs.length := by
  fun_induction scanQuoted? cs generalizing raw with
  | case1 => cases h
  | case2 r =>
    cases h
    exact Nat.lt_succ_self _
  | case3 c r ih =>
    obtain ⟨p, hp, hpair⟩ := Option.map_eq_some_iff.1 h
    cases hpair
    have := ih hp
    simp only [List.length_cons]
    omega
  | case4 c r _ _ ih =>
    obtain ⟨p, hp, hpair⟩ := Option.map_eq_some_iff.1 h
    cases hpair
    have := ih hp
    simp only [List.length_cons]
    omega

/-- The segments of a text whose quotes are all closed. -/
def segments? : List Char → Option (List Segment)
  | [] => some []
  | c :: r =>
    if c = '"' then
      match h : scanQuoted? r with
      | some (raw, rest) =>
        have := length_scanQuoted? h
        (segments? rest).map (.quoted raw :: ·)
      | none => none
    else (segments? r).map (.char c :: ·)
termination_by cs => cs.length

/-- The segments of a literal. -/
def Literal.segments : Literal → List Segment
  | .word w => w.map .char
  | .quoted raw => [.quoted raw]

/-- The segments of a part. -/
def Part.segments : Part Literal → List Segment
  | .own t => t.toList.map .char
  | .value l => l.segments

theorem segments?_append {cs : List Char} (h : '"' ∉ cs) (rest : List Char) :
    segments? (cs ++ rest) = (segments? rest).map (cs.map .char ++ ·) := by
  induction cs with
  | nil => simp
  | cons c cs ih =>
    obtain ⟨hc, hcs⟩ := not_or.1 (mt List.mem_cons.2 h)
    rw [List.cons_append, segments?, if_neg (Ne.symm hc), ih hcs, Option.map_map]
    rfl

theorem segments?_quoted {raw : List Char} (h : (Literal.quoted raw).IsClosed) (rest : List Char) :
    segments? ((Literal.quoted raw).text ++ rest) = (segments? rest).map (.quoted raw :: ·) := by
  have hscan := h rest
  rw [Literal.text, List.cons_append, List.append_assoc, segments?, if_pos rfl]
  split
  · rename_i hsome
    cases hsome.symm.trans hscan
    rfl
  · rename_i hnone
    cases hnone.symm.trans hscan

theorem Literal.IsClosed.segments?_text {l : Literal} (h : l.IsClosed) (rest : List Char) :
    segments? (l.text ++ rest) = (segments? rest).map (l.segments ++ ·) := by
  cases l with
  | quoted raw => exact segments?_quoted h rest
  | word w =>
    refine segments?_append (fun hmem => ?_) rest
    exact absurd (h.2 _ hmem) (by decide)

/-- Whatever literals stand in the places of a document, they are found again, and outside of them
there is nothing but own text. -/
theorem segments?_written {parts : List (Part Literal)}
    (hclosed : ∀ l, .value l ∈ parts → l.IsClosed) (hown : ∀ t, .own t ∈ parts → '"' ∉ t.toList) :
    segments? (written parts) = some (parts.flatMap Part.segments) := by
  induction parts with
  | nil => simp [written, segments?]
  | cons p parts ih =>
    have ih := ih (fun l hl => hclosed l (List.mem_cons_of_mem _ hl))
      fun t ht => hown t (List.mem_cons_of_mem _ ht)
    rw [written, List.flatMap_cons, ← written, List.flatMap_cons]
    cases p with
    | own t =>
      rw [Part.text, segments?_append (hown t List.mem_cons_self), ih]
      rfl
    | value l =>
      rw [Part.text, (hclosed l List.mem_cons_self).segments?_text, ih]
      rfl

/-- No name in a document has a quote. -/
structure Frame.IsPlain (f : Frame) (names : List String) : Prop where
  name : '"' ∉ f.name.toList
  fields : ∀ t ∈ f.fields, '"' ∉ t.toList
  names : ∀ t ∈ names, '"' ∉ t.toList

/-- What a document is written with has no quote. -/
def Frame.IsUnquoted (f : Frame) : Prop :=
  ∀ t ∈ [f.keyword, f.opening, f.sep, f.closing], '"' ∉ t.toList

theorem isUnquoted_queryFrame (name : String) (fields : List String) :
    (queryFrame name fields).IsUnquoted := by
  simp [Frame.IsUnquoted, queryFrame]

theorem isUnquoted_mutationFrame (name : String) (fields : List String) :
    (mutationFrame name fields).IsUnquoted := by
  simp [Frame.IsUnquoted, mutationFrame, lineBreak, indent]

theorem mem_of_mem_distinct {fields : List String} {t : String} (h : t ∈ distinct fields) :
    t ∈ fields := by
  suffices hfold : ∀ (fields done : List String), t ∈ fields.foldl (fun done f =>
      if f = "" ∨ f ∈ done then done else done ++ [f]) done → t ∈ done ∨ t ∈ fields by
    simpa using hfold fields [] h
  intro fields
  induction fields with
  | nil => exact fun done ht => .inl ht
  | cons f fields ih =>
    intro done ht
    rcases ih _ ht with hdone | hfields
    · dsimp only at hdone
      split_ifs at hdone with hold
      · exact .inl hdone
      · rcases List.mem_append.1 hdone with hdone | hnew
        · exact .inl hdone
        · exact .inr (List.mem_cons.2 (.inl (List.mem_singleton.1 hnew)))
    · exact .inr (List.mem_cons_of_mem _ hfields)

namespace Frame

theorem mem_arguments {f : Frame} {as : List (String × α)} {p : Part α} (h : p ∈ f.arguments as) :
    p = .own f.closing ∨ ∃ lead ∈ [f.opening, f.sep], ∃ a ∈ as, p ∈ argument lead a := by
  cases as with
  | nil => cases h
  | cons a as =>
    simp only [arguments, List.mem_append, List.mem_flatMap, List.mem_singleton] at h
    rcases h with (h | ⟨b, hb, h⟩) | h
    · exact .inr ⟨_, List.mem_cons_self, a, List.mem_cons_self, h⟩
    · exact .inr ⟨_, List.mem_cons_of_mem _ List.mem_cons_self, b, List.mem_cons_of_mem _ hb, h⟩
    · exact .inl h

theorem value_mem_layout_iff {f : Frame} {as : List (String × α)} {v : α} :
    .value v ∈ f.layout as ↔ ∃ a ∈ as, a.2 = v := by
  have hlayout : .value v ∈ f.layout as ↔ .value v ∈ f.arguments as := by simp [layout]
  rw [hlayout]
  constructor
  · intro h
    rcases mem_arguments h with h | ⟨lead, -, a, ha, h⟩
    · cases h
    · exact ⟨a, ha, by simpa [argument, eq_comm] using h⟩
  · rintro ⟨a, ha, rfl⟩
    have hvalue (lead : String) : .value a.2 ∈ argument lead a := by simp [argument]
    cases as with
    | nil => cases ha
    | cons b as =>
      rcases List.mem_cons.1 ha with rfl | ha
      · exact List.mem_append_left _ (List.mem_append_left _ (hvalue _))
      · exact List.mem_append_left _
          (List.mem_append_right _ (List.mem_flatMap.2 ⟨a, ha, hvalue _⟩))

theorem IsPlain.quote_not_mem {f : Frame} {as : List (String × α)}
    (h : f.IsPlain (as.map Prod.fst)) (hf : f.IsUnquoted) {t : String} (ht : .own t ∈ f.layout as) :
    '"' ∉ t.toList := by
  simp only [layout, List.mem_cons, List.mem_append, Part.own.injEq, List.not_mem_nil,
    or_false] at ht
  rcases ht with rfl | ht | rfl
  · simp [hf f.keyword (by simp), h.name, indent]
  · rcases mem_arguments ht with ht | ⟨lead, hlead, a, ha, ht⟩
    · exact Part.own.inj ht ▸ hf f.closing (by simp)
    · have hlead : '"' ∉ lead.toList := by
        rcases List.mem_pair.1 hlead with rfl | rfl <;> exact hf _ (by simp)
      simp only [argument, List.mem_cons, Part.own.injEq, reduceCtorEq, List.not_mem_nil,
        or_false] at ht
      rw [ht]
      simp [hlead, h.names a.1 (List.mem_map_of_mem ha)]
  · have hfields : '"' ∉ (join lineBreak (distinct f.fields)).toList := by
      intro hmem
      rcases mem_join hmem with hmem | ⟨s, hs, hmem⟩
      · exact absurd hmem (by decide)
      · exact h.fields s (mem_of_mem_distinct hs) hmem
    have hbreak : '"' ∉ lineBreak.toList := by decide
    simp [hfields, hbreak, indent]

end Frame

/-- A document of a frame and arguments: its own text is that of the frame and of their names, and
one literal stands in the place of each value, behind the name of its argument. Where no name has a
quote, the literals can be told without the names. -/
structure Frame.Holds (f : Frame) (as : Row) (doc : String) : Prop where
  read : read? (f.layout (as.map fun a => (a.1, ()))) doc.toList = some (f.layout (literals as))
  segments : f.IsPlain (as.map Prod.fst) →
    segments? doc.toList = some ((f.layout (literals as)).flatMap Part.segments)

theorem Frame.holds {f : Frame} (hd : f.Delimits) (hq : f.IsUnquoted) {as : Row} {doc : String}
    (h : written (f.layout (literals as)) = doc.toList) : f.Holds as doc := by
  have hclosed : ∀ l, .value l ∈ f.layout (literals as) → l.IsClosed := by
    intro l hl
    obtain ⟨a, ha, rfl⟩ := value_mem_layout_iff.1 hl
    obtain ⟨b, -, rfl⟩ := List.mem_map.1 ha
    exact Literal.isClosed_of b.2
  refine ⟨?_, fun hplain => ?_⟩
  · have hnames : as.map (fun a => (a.1, ())) = (literals as).map fun a => (a.1, ()) := by
      simp [literals]
    rw [← h, hnames, layout_map f fun _ => ()]
    exact read?_written hclosed (hd.isSeparated_layout _)
  · rw [← h]
    have hnames : (literals as).map Prod.fst = as.map Prod.fst := by simp [literals]
    rw [← hnames] at hplain
    exact segments?_written hclosed fun t => hplain.quote_not_mem hq

theorem holds_queryFrame (name : String) (fields : List String) (as : Row) :
    (queryFrame name fields).Holds as (queryDocument name fields as) :=
  Frame.holds (delimits_queryFrame name fields) (isUnquoted_queryFrame name fields)
    (written_queryFrame name fields as)

theorem holds_mutationFrame (name : String) (fields : List String) (as : Row) :
    (mutationFrame name fields).Holds as (mutationDocument name as fields) :=
  Frame.holds (delimits_mutationFrame name fields) (isUnquoted_mutationFrame name fields)
    (written_mutationFrame name fields as)

/-- The literal of a text is read from its opening quote exactly up to its last character, whatever
follows, and spells the text. So in a query or a mutation there is one literal behind the name of
each argument, which stands for its value, and all other text is that of the names. -/
theorem literals_confined :
    (∀ s : String, ∃ raw, unescaped raw = s.toList ∧
      ∀ rest, Literal.read? ((literal (.str s)).toList ++ rest) = some (.quoted raw, rest)) ∧
    (∀ v, (Literal.of v).Denotes v) ∧
    ∀ (name : String) (fields : List String) (as : Row),
      (queryFrame name fields).Holds as (queryDocument name fields as) ∧
      (mutationFrame name fields).Holds as (mutationDocument name as fields) := by
  refine ⟨fun s => ⟨escaped s.toList, unescaped_escaped _, fun rest => ?_⟩, Literal.denotes_of,
    fun name fields as => ⟨holds_queryFrame name fields as, holds_mutationFrame name fields as⟩⟩
  rw [toList_literal]
  exact Literal.read?_quoted (scanQuoted?_escaped _) rest

/-- A text that means to close its quotes, the arguments and the selection stays within its
quotes. -/
theorem literals_confined_closing :
    ∃ ss, segments? (queryDocument "orders" ["id"]
        [("status", .str "\\\") \x7b id \x7d \\"), ("total", .int 5)]).toList = some ss ∧
      ss.filter (· matches .quoted _) =
        [.quoted "\\\\\\\") \x7b id \x7d \\\\".toList] := by
  refine ⟨_, ((literals_confined.2.2 "orders" ["id"] _).1.segments ⟨?_, ?_, ?_⟩), ?_⟩ <;>
    decide

end EntityQuery.Graphql
