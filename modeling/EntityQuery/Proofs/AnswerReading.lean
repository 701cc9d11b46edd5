import EntityQuery.Proofs.AnswerDocument

/-!
# Answers are read

However a batch response ends its lines and nests its parts, it is split into one answer for each
that was written, in order (`parse_document`). The blank lines that trimming takes from the end of a
part come after its status line, so every status is read as it was written, and a failure among the
answers is noticed (`statuses_of_parse`).
-/

namespace EntityQuery

open Text Number

/-- What is stripped off the end of a text is stripped off whatever follows its last character that
is kept. -/
theorem Text.rdropWhile_append {drop : Char → Bool} {base : List Char}
    (hlast : ∃ c ∈ base.getLast?, drop c = false) (t : List Char) :
    (base ++ t).rdropWhile drop = base ++ t.rdropWhile drop := by
  obtain ⟨c, hc, hdrop⟩ := hlast
  induction t using List.reverseRecOn with
  | nil =>
    rw [List.append_nil, List.rdropWhile_nil, List.append_nil, List.rdropWhile_eq_self_iff]
    intro hne
    rw [List.getLast?_eq_some_getLast hne, Option.mem_some] at hc
    simp [hc, hdrop]
  | append_singleton t x ih =>
    rw [← List.append_assoc, List.rdropWhile_concat, List.rdropWhile_concat]
    split
    · exact ih
    · exact List.append_assoc ..

theorem Text.stripChars_append {drop : Char → Bool} {lead base : List Char}
    (hlead : ∀ c ∈ lead, drop c = true) (hhead : ∃ c ∈ base.head?, drop c = false)
    (hlast : ∃ c ∈ base.getLast?, drop c = false) (t : List Char) :
    stripChars drop (lead ++ base ++ t) = base ++ t.rdropWhile drop := by
  obtain ⟨c, hc, hdrop⟩ := hhead
  obtain ⟨base, rfl⟩ := List.head?_eq_some_iff.1 hc
  have hkept : (c :: base ++ t).dropWhile drop = c :: base ++ t :=
    List.dropWhile_cons_of_neg (by simp [hdrop])
  rw [List.append_assoc, stripChars, List.dropWhile_append_of_pos hlead, hkept]
  exact rdropWhile_append hlast t

namespace Batch

/-- A status line up to its status. -/
def StatusLine.base (l : StatusLine) : String :=
  "HTTP/" ++ l.version ++ " " ++ paddedText 3 l.code

theorem exists_three {n : Nat} (h : n < 1000) :
    ∃ a b c, (paddedText 3 n).toList = [a, b, c] ∧ Spells [a, b, c] n := by
  have hwidth := (Nat.length_toDigits_le_iff (b := 10) (k := 3) (by decide) (by decide)).2 h
  have hsigned : ¬((n : Int) < 0) := by omega
  have hlength : (paddedText 3 n).toList.length = 3 := by
    rw [paddedText, String.toList_ofList]
    simp [hsigned]
    omega
  obtain ⟨a, b, c, habc⟩ := List.length_eq_three.1 hlength
  exact ⟨a, b, c, habc, habc ▸ spells_paddedText 3 n⟩

theorem status?_base (l : StatusLine) (t : List Char) :
    status? (l.base.toList ++ t) = some l.code := by
  obtain ⟨a, b, c, habc, hspells⟩ := exists_three l.code_lt
  obtain ⟨ha, hb, hc⟩ : a.isDigit = true ∧ b.isDigit = true ∧ c.isDigit = true := by
    simpa using hspells.digits
  have hvalue : ofDigits [a.toNat - 48, b.toNat - 48, c.toNat - 48] = l.code := hspells.value
  have hchars : l.base.toList ++ t =
      "HTTP/".toList ++ (l.version.toList ++ ' ' :: a :: b :: c :: t) := by
    simp [StatusLine.base, habc]
  have hblank : isBlank ' ' = true := by decide
  have hdrop : (a :: b :: c :: t).dropWhile isBlank = a :: b :: c :: t :=
    List.dropWhile_cons_of_neg (by simp [isBlank_of_isDigit_ascii ha])
  have hdigits := And.intro (decimalValue?_of_isDigit_ascii ha)
    (And.intro (decimalValue?_of_isDigit_ascii hb) (decimalValue?_of_isDigit_ascii hc))
  rw [status?, after?_eq_some.2 hchars]
  rcases l.isVersion with ⟨x, hx, hversion⟩ | ⟨x, y, hx, hy, hversion⟩ <;> rw [hversion]
  · simp [isDecimal_of_isDigit_ascii hx, hblank, hdrop, hdigits, hvalue]
  · simp [isDecimal_of_isDigit_ascii hx, isDecimal_of_isDigit_ascii hy, hblank, hdrop, hdigits,
      hvalue]

theorem StatusLine.text_eq (l : StatusLine) :
    l.text = l.base ++ (l.phrase.map (" " ++ ·)).getD "" := rfl

theorem status?_text (l : StatusLine) : status? (trimChars l.text.toList) = some l.code := by
  obtain ⟨a, b, c, habc, hspells⟩ := exists_three l.code_lt
  have hhead : ∃ x ∈ l.base.toList.head?, isBlank x = false :=
    ⟨'H', by simp [StatusLine.base], by decide⟩
  have hlast : ∃ x ∈ l.base.toList.getLast?, isBlank x = false := by
    refine ⟨c, ?_, isBlank_of_isDigit_ascii (hspells.digits c (by simp))⟩
    rw [StatusLine.base, String.toList_append, habc, List.getLast?_append_of_ne_nil _ (by simp)]
    rfl
  have htrim := stripChars_append (List.forall_mem_nil _) hhead hlast
    ((l.phrase.map (" " ++ ·)).getD "").toList
  rw [StatusLine.text_eq, String.toList_append]
  exact (congrArg status? htrim).trans (status?_base l _)

/-- What follows the status line of an answer once it is taken from its place. -/
def Answer.rest (e : LineEnding) (a : Answer) : List Char :=
  ((("\n" ++ headText .feed a.headers ++ e.settled a.body).toList ++ ['\n']).rdropWhile
    (· == '\n')).drop 1

/-- An answer as it is read. -/
def Answer.received (e : LineEnding) (a : Answer) : PartResponse where
  status := a.status.code
  headers := (splitHead (a.rest e)).1
  body := String.ofList (trimChars (splitHead (a.rest e)).2)

theorem head?_rdropWhile {rest : List Char} (h : ∀ c ∈ rest.head?, c = '\n') :
    ∀ c ∈ ((rest ++ ['\n']).rdropWhile (· == '\n')).head?, c = '\n' := by
  intro c hc
  obtain ⟨t, ht⟩ := List.head?_eq_some_iff.1 hc
  obtain ⟨r, hr⟩ := List.rdropWhile_prefix (· == '\n') (l := rest ++ ['\n'])
  rw [ht] at hr
  cases rest with
  | nil => exact (List.cons.inj hr).1
  | cons x rest => exact (List.cons.inj hr).1.trans (h x rfl)

theorem exists_getLast?_line {l : String} (hl : IsLine l) :
    ∃ c ∈ l.toList.getLast?, (c == '\n') = false := by
  have hne : l.toList ≠ [] := fun hnil => hl.ne_empty (String.toList_eq_nil_iff.1 hnil)
  have hfeed := (hl.unbroken _ (List.getLast_mem hne)).2
  exact ⟨_, List.getLast?_eq_some_getLast hne, by simpa using hfeed⟩

theorem exists_head?_headText {head : List HeaderLine} (hne : head ≠ []) (t : String) :
    ∃ c ∈ (headText .feed head ++ t).toList.head?, (c == '\n') = false := by
  obtain ⟨h, head, rfl⟩ := List.exists_cons_of_ne_nil hne
  obtain ⟨x, xs, hx⟩ := List.exists_cons_of_ne_nil
    (fun hnil => h.isLine.ne_empty (String.toList_eq_nil_iff.1 hnil))
  have hfeed : x ≠ '\n' := (h.isLine.unbroken x (by simp [hx])).2
  refine ⟨x, ?_, by simpa using hfeed⟩
  rw [headText, List.map_cons, onLines]
  simp [hx]

/-- A part with a head is taken from its place up to where its last line begins, and from there
without the ends of lines that follow. -/
theorem taken_append {head : List HeaderLine} (hne : head ≠ []) {base : String}
    (hlast : ∃ c ∈ base.toList.getLast?, (c == '\n') = false) (t : String) :
    taken (headText .feed head ++ base ++ t) =
      (headText .feed head).toList ++
        (base.toList ++ (t.toList ++ ['\n']).rdropWhile (· == '\n')) := by
  have hbase : base.toList ≠ [] := by
    obtain ⟨c, hc, -⟩ := hlast
    exact List.ne_nil_of_mem (List.mem_of_getLast? hc)
  have hchars : '\n' :: (headText .feed head ++ base ++ t).toList ++ ['\n'] =
      ['\n'] ++ (headText .feed head ++ base).toList ++ (t.toList ++ ['\n']) := by
    simp
  rw [taken, hchars, stripLines, stripChars_append (by simp) (exists_head?_headText hne base),
    String.toList_append, List.append_assoc]
  rwa [String.toList_append, List.getLast?_append_of_ne_nil _ hbase]

theorem splitHead_headText {head : List HeaderLine} (hne : head ≠ []) (content : List Char) :
    splitHead ((headText .feed head).toList ++ content) = (received head, content) := by
  have hchars : (headText .feed head).toList ++ content =
      (onLines .feed (head.map HeaderLine.text)).toList ++ '\n' :: content := by
    simp [headText, LineEnding.text]
  rw [hchars, splitHead_head hne]

/-- A part that begins with a status line is read as an answer with that status. -/
theorem partResponse_line (l : StatusLine) {tail : List Char} (htail : ∀ c ∈ tail.head?, c = '\n') :
    partResponse (l.text.toList ++ tail) =
      .ok ⟨l.code, (splitHead (tail.drop 1)).1,
        String.ofList (trimChars (splitHead (tail.drop 1)).2)⟩ := by
  have hline : (l.text.toList ++ tail).takeWhile (· != '\n') = l.text.toList := by
    rw [List.takeWhile_append_of_pos fun c hc => by simpa using (l.isLine.unbroken c hc).2]
    cases tail with
    | nil => simp
    | cons c tail => rw [List.takeWhile_cons_of_neg (by simp [htail c rfl]), List.append_nil]
  rw [partResponse, hline]
  simp only [status?_text, List.drop_length_add_append]

def outcome (part : List Char) : Except BatchFault (List PartResponse) :=
  match nested? part with
  | some m => m.responses
  | none => (partResponse (splitHead part).2).map ([·])

theorem responses_eq (m : Multipart) : m.responses = collect (m.parts.map outcome) := by
  have hpart (part : { p // p ∈ m.parts }) : (partAnswers part.1 fun inner _ => inner.responses) =
      outcome part.1 := by
    unfold partAnswers outcome
    split <;> simp_all
  rw [Multipart.responses]
  simp only [hpart]
  rw [List.attach_map_val]

section Reading

variable {e : LineEnding}

theorem boundary?_application : boundary? "application/http" = none := by decide

theorem outcome_answer (a : Answer) :
    outcome (taken (e.settled (a.text e))) = .ok [a.received e] := by
  have hne := a.typed.ne_nil
  have hchars : e.settled (a.text e) = headText .feed a.head ++ a.status.text ++
      ("\n" ++ headText .feed a.headers ++ e.settled a.body) := by
    rw [settled_answer, Answer.lead, LineEnding.text]
    simp only [String.append_assoc]
  have hline : ∀ c ∈ ("\n" ++ headText .feed a.headers ++ e.settled a.body).toList.head?,
      c = '\n' := by simp
  have htail := head?_rdropWhile hline
  have hnested : nested? (taken (e.settled (a.text e))) = none := by
    rw [nested?, hchars, taken_append hne (exists_getLast?_line a.status.isLine),
      splitHead_headText hne]
    simp only [get?_received a.typed, Option.getD_some, boundary?_application, Option.map_none]
  rw [outcome, hnested, hchars, taken_append hne (exists_getLast?_line a.status.isLine),
    splitHead_headText hne]
  simp only [partResponse_line a.status htail]
  rfl

theorem exists_getLast?_front (v : Envelope) (parts : List String) :
    ∃ c ∈ (v.front e parts).toList.getLast?, (c == '\n') = false := by
  obtain ⟨cs, hcs⟩ := exists_delimited_eq .feed v.boundary (parts.map e.settled)
  refine ⟨'-', ?_, by decide⟩
  rw [Envelope.front, String.toList_append, hcs]
  simp

/-- A multipart text in a part is found with all its parts. -/
theorem outcome_multipart {head : List HeaderLine} {v : Envelope}
    (htyped : Typed head v.contentType) {parts : List String} (h : v.Separates parts) :
    outcome (taken (e.settled (headText e head ++ v.text e parts))) =
      collect (parts.map fun t => outcome (taken (e.settled t))) := by
  have hne := htyped.ne_nil
  obtain ⟨rest, hrest, hsettled⟩ := settled_envelope e v parts
  have hchars : e.settled (headText e head ++ v.text e parts) =
      headText .feed head ++ v.front e parts ++ String.ofList rest := by
    rw [settled_headText, ← String.toList_inj]
    simp [hsettled]
  have htail := head?_rdropWhile hrest
  have hnested : nested? (taken (e.settled (headText e head ++ v.text e parts))) =
      some ⟨v.boundary.toList, (v.front e parts).toList ++
        (rest ++ ['\n']).rdropWhile (· == '\n')⟩ := by
    rw [nested?, hchars, taken_append hne (exists_getLast?_front v parts), splitHead_headText hne,
      String.toList_ofList]
    simp only [get?_received htyped, Option.getD_some, boundary?_of_announces v.announces,
      Option.map_some]
  rw [outcome, hnested]
  simp only [responses_eq, parts_front h htail, List.map_map, Function.comp_def]

mutual

theorem outcome_part (p : Part) (h : p.Separated e) :
    outcome (taken (e.settled (p.text e))) = .ok (p.answers.map (Answer.received e)) := by
  cases p with
  | answer a => exact outcome_answer a
  | multipart head v typed parts =>
    rw [Part.text, outcome_multipart typed h.1]
    exact collect_parts parts h.2

theorem collect_parts (ps : List Part) (h : AllSeparated e ps) :
    collect ((partTexts e ps).map fun t => outcome (taken (e.settled t))) =
      .ok ((answersOf ps).map (Answer.received e)) := by
  cases ps with
  | nil => rfl
  | cons p ps =>
    rw [partTexts, List.map_cons, outcome_part p h.1, collect, collect_parts ps h.2, answersOf,
      List.map_append]
    rfl

end

end Reading

/-- A response is read as its answers, in order; one without answers is not read. -/
theorem parse_document {d : Document} (h : d.Separated) :
    parse d.text (some d.envelope.contentType) =
      if d.answers = [] then .error .empty else .ok (d.answers.map (Answer.received d.ending)) := by
  obtain ⟨rest, hrest, hunified⟩ :=
    unified_envelope d.ending d.envelope (partTexts d.ending d.parts)
  have hparts : (Multipart.mk d.envelope.boundary.toList
      (replace "\r\n" "\n" d.text).toList).responses =
        .ok (d.answers.map (Answer.received d.ending)) := by
    rw [toList_replace_lineEnd, Document.text, hunified, responses_eq, parts_front h.1 hrest,
      List.map_map, Function.comp_def, collect_parts d.parts h.2, Document.answers]
  rw [parse, Option.getD_some, boundary?_of_announces d.envelope.announces]
  simp only [hparts]
  cases d.answers with
  | nil => rw [if_pos rfl, List.map_nil]
  | cons a answers => rw [if_neg (List.cons_ne_nil _ _), List.map_cons]

/-- A response with some answer, no part of which holds a delimiter that it stands between. -/
structure Document.WellFramed (d : Document) : Prop where
  answered : d.answers ≠ []
  separated : d.Separated

theorem firstFailure?_eq_none {answers : List PartResponse} :
    firstFailure? answers = none ↔ ∀ s ∈ answers.map PartResponse.status, s < 400 := by
  simp [firstFailure?, PartResponse.ok]

/-- The error of a changeset carries the first status of a failure. -/
theorem exists_firstFailure?_eq_some {answers : List PartResponse} {s : Nat} :
    (∃ body, firstFailure? answers = some (.changeset s body)) ↔
      (answers.map PartResponse.status).find? (400 ≤ ·) = some s := by
  have hfind : (answers.find? fun p => !p.ok) = answers.find? ((400 ≤ ·) ∘ PartResponse.status) :=
    congrArg (List.find? · answers) (funext fun p => by simp [PartResponse.ok, ← decide_not])
  rw [firstFailure?, hfind, List.find?_map, Option.map_eq_some_iff]
  constructor
  · rintro ⟨body, h⟩
    obtain ⟨p, hp, herror⟩ := Option.map_eq_some_iff.1 h
    cases herror
    exact ⟨p, hp, rfl⟩
  · rintro ⟨p, hp, rfl⟩
    exact ⟨p.body, by rw [hp]; rfl⟩

/-- A well-framed response is read as one answer for each that was written, in order and with its
status, so a failure among them is noticed, and the first one is told. -/
theorem statuses_of_parse (d : Document) (h : d.WellFramed) :
    ∃ answers, parse d.text (some d.envelope.contentType) = .ok answers ∧
      answers.map PartResponse.status = d.answers.map (·.status.code) ∧
      (firstFailure? answers = none ↔ ∀ a ∈ d.answers, a.status.code < 400) ∧
      ∀ s, (∃ body, firstFailure? answers = some (.changeset s body)) ↔
        (d.answers.map (·.status.code)).find? (400 ≤ ·) = some s := by
  have hstatuses : (d.answers.map (Answer.received d.ending)).map PartResponse.status =
      d.answers.map (·.status.code) := by
    rw [List.map_map]
    rfl
  refine ⟨_, (parse_document h.separated).trans (if_neg h.answered), hstatuses, ?_, fun s => ?_⟩
  · rw [firstFailure?_eq_none, hstatuses, List.forall_mem_map]
  · rw [exists_firstFailure?_eq_some, hstatuses]

theorem separable_location : ':' ∉ "Location".toList := by decide

/-- A response with a changeset, one request of which failed, and an answer after it. -/
def failedChangeset : Document where
  ending := .returnFeed
  envelope := {
    contentType := "multipart/mixed; boundary=\"batch 1\""
    boundary := "batch 1"
    announces := {
      multipart := by decide
      parameter := ⟨"multipart/mixed; ".toList, "boundary=".toList, "\"batch 1\"".toList, [],
        by decide, by decide, by decide, .quoted [] (by decide)⟩
      isLine := ⟨by decide, by decide⟩ }
    preamble := some "Answers follow."
    epilogue := some "No more." }
  parts := [
    .multipart [⟨"content-type", "multipart/mixed; boundary=changeset", by decide, by decide⟩] {
        contentType := "multipart/mixed; boundary=changeset"
        boundary := "changeset"
        announces := {
          multipart := by decide
          parameter := ⟨"multipart/mixed; ".toList, "boundary=".toList, "changeset".toList, [],
            by decide, by decide, by decide, .bare [] (by decide) nofun⟩
          isLine := ⟨by decide, by decide⟩ } }
      ⟨⟨_, List.mem_singleton_self _, by decide⟩, by decide⟩ [
        .answer ⟨[answerType], typed_answerType,
          ⟨"1.1", 201, some "Created", isVersion_oneOne, by decide, by decide⟩,
          [⟨"Location", "items/7", by decide, separable_location⟩], "\x7b\"id\": 7\x7d"⟩,
        .answer ⟨[answerType], typed_answerType,
          ⟨"1.1", 404, none, isVersion_oneOne, by decide, by decide⟩, [], "No such item"⟩],
    .answer ⟨[answerType], typed_answerType, ⟨"2", 500, none,
      .inl ⟨'2', by decide, by decide⟩, by decide, by decide⟩, [], ""⟩]

theorem wellFramed_failedChangeset : failedChangeset.WellFramed where
  answered := List.cons_ne_nil _ _
  separated := by
    refine ⟨?_, ⟨?_, trivial, trivial, trivial⟩, trivial, trivial⟩
    · simp only [Envelope.Separates, failedChangeset, partTexts, Part.text, Answer.text,
        Answer.lead, headText, Envelope.text, delimited, List.forall_mem_cons,
        List.forall_mem_append, String.toList_append]
      decide +kernel
    · simp only [Envelope.Separates, partTexts, Part.text, Answer.text, Answer.lead, headText,
        List.forall_mem_cons, List.forall_mem_append, String.toList_append]
      decide +kernel

theorem statuses_of_parse_failedChangeset :
    ∃ answers,
      parse failedChangeset.text (some failedChangeset.envelope.contentType) = .ok answers ∧
      answers.map PartResponse.status = [201, 404, 500] ∧
      ∃ body, firstFailure? answers = some (.changeset 404 body) := by
  obtain ⟨answers, hparse, hstatuses, -, hfirst⟩ :=
    statuses_of_parse failedChangeset wellFramed_failedChangeset
  exact ⟨answers, hparse, hstatuses, (hfirst 404).2 (by decide)⟩

end Batch

end EntityQuery
