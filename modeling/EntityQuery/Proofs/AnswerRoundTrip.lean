import EntityQuery.Proofs.AnswerReading
import Mathlib.Data.List.Perm.Subperm

/-!
# Answers that are given back

An answer is read after its status line was cut off, so the first blank line that is found there
ends its headers. Where it has a header, that is the blank line before its body, whatever the body
holds (`rest_of_body`, `rest_of_empty`). Where it has none, the blank line went with the status
line: lines of the body are taken for headers, and the body is never given back
(`body_of_headerless`). A response is given back exactly if that befalls none of its answers
(`parse_gives_back_iff`).
-/

namespace EntityQuery

open Text

theorem Text.getLast?_of_trimChars_eq {cs : List Char} (h : trimChars cs = cs) :
    ∀ c ∈ cs.getLast?, isBlank c = false := by
  intro c hc
  have hne := List.ne_nil_of_mem (List.mem_of_getLast? hc)
  have hkept : (cs.dropWhile isBlank).rdropWhile isBlank = cs := h
  have hlast := List.rdropWhile_last_not isBlank (cs.dropWhile isBlank) (by rwa [hkept])
  simp only [hkept] at hlast
  rw [List.getLast?_eq_some_getLast hne, Option.mem_some] at hc
  simpa [hc] using hlast

theorem Text.length_trimChars_le (cs : List Char) : (trimChars cs).length ≤ cs.length :=
  (List.rdropWhile_prefix isBlank _).length_le.trans (List.length_dropWhile_le _ _)

namespace Headers

variable {hs new : Headers}

theorem nodup_map_fst_putAll (h : (hs.map Prod.fst).Nodup) :
    ((hs.putAll new).map Prod.fst).Nodup := by
  induction new generalizing hs with
  | nil => exact h
  | cons x new ih =>
    refine ih ?_
    rw [map_fst_put]
    split
    · exact h
    · exact List.concat_eq_append ▸ h.concat ‹_›

theorem nodup_of_length_putAll (h : (putAll [] new).length = new.length) :
    (new.map Prod.fst).Nodup := by
  have hnodup : ((putAll [] new).map Prod.fst).Nodup := nodup_map_fst_putAll List.nodup_nil
  have hsubset : (putAll [] new).map Prod.fst ⊆ new.map Prod.fst := fun name hname =>
    (mem_map_fst_putAll.1 hname).resolve_left List.not_mem_nil
  have hperm := (List.subperm_of_subset hnodup hsubset).perm_of_length_le (by simp [h])
  exact hperm.nodup_iff.1 hnodup

end Headers

namespace Batch

/-- An answer as it is meant: header names in small letters, header values without blanks around
them, and the body. -/
def Answer.sent (a : Answer) : PartResponse where
  status := a.status.code
  headers := a.headers.map fun h => (lower h.name, trim h.value)
  body := a.body

/-- A body that is on its own whatever stands around it. -/
structure Answer.Plain (a : Answer) : Prop where
  unreturned : '\r' ∉ a.body.toList
  trimmed : trim a.body = a.body

instance (a : Answer) : Decidable a.Plain :=
  decidable_of_iff ('\r' ∉ a.body.toList ∧ trim a.body = a.body)
    ⟨fun h => ⟨h.1, h.2⟩, fun h => ⟨h.1, h.2⟩⟩

/-- An answer with a header before its body, if it has one, and header names that are told apart
once they are read. -/
structure Answer.Legible (a : Answer) : Prop where
  headed : a.headers = [] → a.body = ""
  distinct : (a.headers.map fun h => h.field.1).Nodup
  named : ∀ h ∈ a.headers, h.field.1 = lower h.name

instance (a : Answer) : Decidable a.Legible :=
  decidable_of_iff ((a.headers = [] → a.body = "") ∧ (a.headers.map fun h => h.field.1).Nodup ∧
      ∀ h ∈ a.headers, h.field.1 = lower h.name)
    ⟨fun h => ⟨h.1, h.2.1, h.2.2⟩, fun h => ⟨h.1, h.2, h.3⟩⟩

section Rest

variable {e : LineEnding} {a : Answer}

theorem Answer.Plain.trimChars_eq (h : a.Plain) : trimChars a.body.toList = a.body.toList := by
  have htrim := congrArg String.toList h.trimmed
  rwa [trim, String.toList_ofList] at htrim

theorem rest_of_body (h : a.Plain) (hbody : a.body ≠ "") :
    a.rest e = (headText .feed a.headers ++ a.body).toList := by
  have hne : a.body.toList ≠ [] := by simpa using hbody
  have hlast : ∃ c ∈ ("\n" ++ headText .feed a.headers ++ a.body).toList.getLast?,
      (c == '\n') = false := by
    refine ⟨a.body.toList.getLast hne, ?_, ?_⟩
    · rw [String.toList_append, List.getLast?_append_of_ne_nil _ hne,
        List.getLast?_eq_some_getLast hne]
      rfl
    · have hblank := getLast?_of_trimChars_eq h.trimChars_eq _ (List.getLast?_eq_some_getLast hne)
      rw [beq_eq_false_iff_ne]
      rintro hfeed
      rw [hfeed] at hblank
      exact absurd hblank (by decide)
  rw [Answer.rest, LineEnding.settled_of_not_mem h.unreturned, rdropWhile_append hlast]
  simp

theorem exists_getLast?_join {ls : List String} (hne : ls ≠ []) (hls : ∀ l ∈ ls, IsLine l) :
    ∃ c ∈ (join "\n" ls).toList.getLast?, (c == '\n') = false := by
  induction ls with
  | nil => exact absurd rfl hne
  | cons l ls ih =>
    rw [List.forall_mem_cons] at hls
    cases ls with
    | nil =>
      rw [join, String.intercalate_singleton]
      exact exists_getLast?_line hls.1
    | cons q ls =>
      obtain ⟨c, hc, hfeed⟩ := ih (List.cons_ne_nil _ _) hls.2
      refine ⟨c, ?_, hfeed⟩
      rw [join, String.intercalate_cons_cons, String.toList_append]
      exact List.mem_getLast?_append_of_mem_getLast? hc

theorem rest_of_empty (hbody : a.body = "") :
    a.rest e = (join "\n" (a.headers.map HeaderLine.text)).toList := by
  have hsettled : e.settled "" = "" := LineEnding.settled_of_not_mem (by simp)
  rw [Answer.rest, hbody, hsettled]
  by_cases hne : a.headers = []
  · rw [hne]
    rfl
  · have hlines : a.headers.map HeaderLine.text ≠ [] := by simpa using hne
    obtain ⟨c, hc, hfeed⟩ := exists_getLast?_join hlines fun _ => isLine_of_mem_map
    have hchars : ("\n" ++ headText .feed a.headers ++ "").toList ++ ['\n'] =
        (['\n'] ++ (join "\n" (a.headers.map HeaderLine.text)).toList) ++ ['\n', '\n', '\n'] := by
      have hjoined := toList_onLines _ ['\n', '\n'] hlines
      simpa [headText, LineEnding.text] using hjoined
    rw [hchars, rdropWhile_append ⟨c, List.mem_getLast?_append_of_mem_getLast? hc, hfeed⟩]
    simp

/-- The body of an answer without headers is not given back unless it is empty. -/
theorem body_of_headerless (h : a.Plain) (hheaders : a.headers = []) (hbody : a.body ≠ "") :
    (a.received e).body ≠ a.body := by
  have hrest : a.rest e = '\n' :: a.body.toList := by
    rw [rest_of_body h hbody, hheaders]
    simp [headText, onLines, LineEnding.text]
  have hshort : (splitHead (a.rest e)).2.length < a.body.toList.length := by
    rw [hrest, splitHead]
    split
    · rename_i head content hcut
      have hlength := cutChars?_length hcut
      simp only [List.length_cons, List.length_nil] at hlength
      show content.length < _
      omega
    · exact List.length_pos_iff.2 (by simpa using hbody)
  intro hsame
  have hlength := congrArg (fun s => s.toList.length) hsame
  simp only [Answer.received, String.toList_ofList] at hlength
  have hle := length_trimChars_le (splitHead (a.rest e)).2
  omega

/-- The headers of an answer are read, and its body is kept, where a header stands before it. -/
theorem splitHead_rest (h : a.Plain) (hheaded : a.headers = [] → a.body = "") :
    splitHead (a.rest e) = (received a.headers, a.body.toList) := by
  by_cases hbody : a.body = ""
  · rw [rest_of_empty hbody, splitHead_lines, hbody]
    rfl
  · have hne : a.headers ≠ [] := fun hnil => hbody (hheaded hnil)
    rw [rest_of_body h hbody, String.toList_append, splitHead_headText hne]

theorem received_eq_sent_iff (h : a.Plain) : a.received e = a.sent ↔ a.Legible := by
  constructor
  · intro hsame
    have hheaded : a.headers = [] → a.body = "" := fun hnil => by
      by_contra hbody
      exact body_of_headerless h hnil hbody (congrArg PartResponse.body hsame)
    have hheaders : received a.headers = a.sent.headers := by
      rw [← hsame, Answer.received, splitHead_rest h hheaded]
    have hnodup : ((a.headers.map HeaderLine.field).map Prod.fst).Nodup := by
      refine Headers.nodup_of_length_putAll ?_
      have hlength := congrArg List.length hheaders
      simpa [received, Answer.sent] using hlength
    have hkept : received a.headers = a.headers.map HeaderLine.field :=
      Headers.putAll_of_nodup hnodup
    refine ⟨hheaded, by simpa [Function.comp_def] using hnodup, ?_⟩
    rw [hkept, Answer.sent] at hheaders
    exact fun x hx => congrArg Prod.fst (List.map_inj_left.1 hheaders x hx)
  · intro hlegible
    have hnodup : ((a.headers.map HeaderLine.field).map Prod.fst).Nodup := by
      simpa [Function.comp_def] using hlegible.distinct
    have hkept : received a.headers = a.headers.map HeaderLine.field :=
      Headers.putAll_of_nodup hnodup
    have hheaders : received a.headers = a.sent.headers := by
      rw [hkept, Answer.sent]
      exact List.map_congr_left fun x hx => Prod.ext (hlegible.named x hx) rfl
    rw [Answer.received, splitHead_rest h hlegible.headed, h.trimChars_eq, hheaders]
    simp [Answer.sent]

end Rest

/-- A response with plain bodies is given back exactly if it has an answer and all its answers are
legible. -/
theorem parse_gives_back_iff (d : Document) (h : d.Separated) (hplain : ∀ a ∈ d.answers, a.Plain) :
    parse d.text (some d.envelope.contentType) = .ok (d.answers.map Answer.sent) ↔
      d.answers ≠ [] ∧ ∀ a ∈ d.answers, a.Legible := by
  rw [parse_document h]
  by_cases hnil : d.answers = []
  · rw [if_pos hnil]
    simp [hnil]
  · rw [if_neg hnil, Except.ok.injEq, List.map_inj_left, and_iff_right hnil]
    exact forall₂_congr fun a ha => received_eq_sent_iff (hplain a ha)

/-- A response with the given answers between delimiters of one letter. -/
def mixed (answers : List Answer) : Document where
  ending := .returnFeed
  envelope := {
    contentType := "multipart/mixed; boundary=b"
    boundary := "b"
    announces := {
      multipart := by decide
      parameter := ⟨"multipart/mixed; ".toList, "boundary=".toList, "b".toList, [],
        by decide, by decide, by decide, .bare [] (by decide) nofun⟩
      isLine := ⟨by decide, by decide⟩ } }
  parts := answers.map .answer

def okLine : StatusLine :=
  ⟨"1.1", 200, some "OK", isVersion_oneOne, by decide, by decide⟩

theorem separated_mixed {answers : List Answer}
    (h : ∀ a ∈ answers, ¬(delimiter "b").toList <:+: (a.text .returnFeed).toList) :
    (mixed answers).Separated := by
  have htexts (answers : List Answer) :
      partTexts .returnFeed (answers.map .answer) = answers.map (Answer.text .returnFeed) := by
    induction answers with
    | nil => rfl
    | cons a answers ih => rw [List.map_cons, partTexts, ih, Part.text, List.map_cons]
  have hparts (answers : List Answer) : AllSeparated .returnFeed (answers.map .answer) := by
    induction answers with
    | nil => trivial
    | cons a answers ih => exact ⟨trivial, ih⟩
  refine ⟨fun t ht => ?_, hparts answers⟩
  obtain ⟨a, ha, rfl⟩ := List.mem_map.1 (htexts answers ▸ ht)
  exact h a ha

theorem answers_mixed (answers : List Answer) : (mixed answers).answers = answers := by
  show answersOf (answers.map .answer) = answers
  induction answers with
  | nil => rfl
  | cons a answers ih => rw [List.map_cons, answersOf, ih, Part.answers, List.singleton_append]

theorem parse_mixed {answers : List Answer} (hne : answers ≠ [])
    (h : ∀ a ∈ answers, ¬(delimiter "b").toList <:+: (a.text .returnFeed).toList) :
    parse (mixed answers).text (some "multipart/mixed; boundary=b") =
      .ok (answers.map (Answer.received .returnFeed)) := by
  have hparse := parse_document (separated_mixed h)
  rwa [answers_mixed, if_neg hne] at hparse

/-- Answers whose lines could be taken for something else. -/
def manyLines : Document := mixed [
  ⟨[answerType], typed_answerType, okLine, [⟨"ETag", " W/7", by decide, by decide⟩,
    ⟨"X", "", by decide, by decide⟩], "a: 1\n\nb\nc:"⟩,
  ⟨[answerType], typed_answerType, okLine, [], ""⟩]

theorem parse_gives_back_manyLines :
    manyLines.Separated ∧ (∀ a ∈ manyLines.answers, a.Plain) ∧
    parse manyLines.text (some "multipart/mixed; boundary=b") =
      .ok [⟨200, [("etag", "W/7"), ("x", "")], "a: 1\n\nb\nc:"⟩, ⟨200, [], ""⟩] := by
  have hseparated : manyLines.Separated := separated_mixed (by decide +kernel)
  have hplain : ∀ a ∈ manyLines.answers, a.Plain := by decide +kernel
  have hlegible : ∀ a ∈ manyLines.answers, a.Legible := by decide +kernel
  have hsent : manyLines.answers.map Answer.sent =
      [⟨200, [("etag", "W/7"), ("x", "")], "a: 1\n\nb\nc:"⟩, ⟨200, [], ""⟩] := by decide +kernel
  have hparse := (parse_gives_back_iff manyLines hseparated hplain).2
    ⟨List.cons_ne_nil _ _, hlegible⟩
  rw [hsent] at hparse
  exact ⟨hseparated, hplain, hparse⟩

/-- An answer with a body and no headers. -/
def headerless : Document :=
  mixed [⟨[answerType], typed_answerType, okLine, [], "\x7b\"id\":1\x7d"⟩]

theorem parse_headerless :
    headerless.Separated ∧ (∀ a ∈ headerless.answers, a.Plain) ∧
    headerless.answers.map Answer.sent = [⟨200, [], "\x7b\"id\":1\x7d"⟩] ∧
    parse headerless.text (some "multipart/mixed; boundary=b") =
      .ok [⟨200, [("\x7b\"id\"", "1\x7d")], ""⟩] := by
  have hapart : ∀ a ∈ headerless.answers,
      ¬(delimiter "b").toList <:+: (a.text .returnFeed).toList := by decide +kernel
  have hreceived : headerless.answers.map (Answer.received .returnFeed) =
      [⟨200, [("\x7b\"id\"", "1\x7d")], ""⟩] := by decide +kernel
  exact ⟨separated_mixed hapart, by decide +kernel, by decide +kernel,
    (parse_mixed (List.cons_ne_nil _ _) hapart).trans (congrArg Except.ok hreceived)⟩

end Batch

end EntityQuery
