import EntityQuery.Proofs.Numeral
import EntityQuery.Proofs.PartHead
import Mathlib.Data.List.DropRight

/-!
# Documents of answers

A batch response is a multipart text whose parts are answers to single requests, or multipart texts
of their own. The ends of its lines are made the same first, which leaves every delimiter where it
was written and spells no new one (`settled_envelope`). So its parts are taken apart as they were
put together, whatever stands before the first delimiter and after the last (`parts_front`).
-/

namespace EntityQuery.Batch

open Text Number

/-- The version in a status line: a digit, or two with a dot between them. -/
def IsVersion (s : String) : Prop :=
  (∃ a, a.isDigit = true ∧ s.toList = [a]) ∨
    ∃ a b, a.isDigit = true ∧ b.isDigit = true ∧ s.toList = [a, '.', b]

theorem isVersion_oneOne : IsVersion "1.1" := .inr ⟨'1', '1', by decide, by decide, by decide⟩

/-- The first line of an answer, with a status of three digits. -/
structure StatusLine where
  version : String
  code : Nat
  phrase : Option String
  isVersion : IsVersion version
  code_lt : code < 1000
  unbroken : ∀ p ∈ phrase, Unbroken p

def StatusLine.text (l : StatusLine) : String :=
  "HTTP/" ++ l.version ++ " " ++ paddedText 3 l.code ++ (l.phrase.map (" " ++ ·)).getD ""

/-- The answer to a request as a part of its own. -/
structure Answer where
  head : List HeaderLine
  typed : Typed head "application/http"
  status : StatusLine
  headers : List HeaderLine
  body : String

/-- The header that an answer has at least. -/
def answerType : HeaderLine where
  name := "Content-Type"
  value := "application/http"
  unbroken := by decide
  separable := by decide

theorem typed_answerType : Typed [answerType] "application/http" where
  given := ⟨answerType, List.mem_singleton_self _, by decide⟩
  only := by decide

/-- What surrounds the parts of a multipart text. -/
structure Envelope where
  contentType : String
  boundary : String
  announces : Announces contentType boundary
  preamble : Option String := none
  epilogue : Option String := none

/-- A part of a response: an answer, or a multipart text with parts of its own. -/
inductive Part where
  | answer (a : Answer)
  | multipart (head : List HeaderLine) (v : Envelope) (typed : Typed head v.contentType)
    (parts : List Part)

/-- The head of a part with the blank line after it. -/
def headText (e : LineEnding) (head : List HeaderLine) : String :=
  onLines e (head.map HeaderLine.text) ++ e.text

/-- An answer up to its body. -/
def Answer.lead (e : LineEnding) (a : Answer) : String :=
  headText e a.head ++ a.status.text ++ e.text ++ headText e a.headers

def Answer.text (e : LineEnding) (a : Answer) : String := a.lead e ++ a.body

/-- Parts between delimiters, up to the closing one. -/
def delimited (e : LineEnding) (boundary : String) : List String → String
  | [] => delimiter boundary ++ "--"
  | p :: ps => delimiter boundary ++ e.text ++ p ++ e.text ++ delimited e boundary ps

def Envelope.text (e : LineEnding) (v : Envelope) (parts : List String) : String :=
  (v.preamble.map (· ++ e.text)).getD "" ++ delimited e v.boundary parts ++
    (v.epilogue.map (e.text ++ ·)).getD ""

mutual

/-- A part as it is written. -/
def Part.text (e : LineEnding) : Part → String
  | .answer a => a.text e
  | .multipart head v _ parts => headText e head ++ v.text e (partTexts e parts)

def partTexts (e : LineEnding) : List Part → List String
  | [] => []
  | p :: ps => p.text e :: partTexts e ps

end

mutual

/-- The answers in a part, in order. -/
def Part.answers : Part → List Answer
  | .answer a => [a]
  | .multipart _ _ _ parts => answersOf parts

def answersOf : List Part → List Answer
  | [] => []
  | p :: ps => p.answers ++ answersOf ps

end

/-- No text between the delimiters of an envelope holds the delimiter. -/
def Envelope.Separates (v : Envelope) (parts : List String) : Prop :=
  ∀ t ∈ v.preamble.toList ++ parts, ¬(delimiter v.boundary).toList <:+: t.toList

mutual

/-- No part of a part holds a delimiter that it stands between. -/
def Part.Separated (e : LineEnding) : Part → Prop
  | .answer _ => True
  | .multipart _ v _ parts => v.Separates (partTexts e parts) ∧ AllSeparated e parts

def AllSeparated (e : LineEnding) : List Part → Prop
  | [] => True
  | p :: ps => p.Separated e ∧ AllSeparated e ps

end

/-- A response as a service writes it. -/
structure Document where
  ending : LineEnding
  envelope : Envelope
  parts : List Part

def Document.text (d : Document) : String := d.envelope.text d.ending (partTexts d.ending d.parts)

def Document.answers (d : Document) : List Answer := answersOf d.parts

def Document.Separated (d : Document) : Prop :=
  d.envelope.Separates (partTexts d.ending d.parts) ∧ AllSeparated d.ending d.parts

section Settled

variable {e : LineEnding}

theorem unbroken_toList_paddedText (n : Nat) : Unbroken (paddedText 3 n) := by
  intro c hc
  have hdigit := (spells_paddedText 3 n).digits c hc
  constructor <;> rintro rfl <;> exact absurd hdigit (by decide)

theorem StatusLine.isLine (l : StatusLine) : IsLine l.text := by
  have hversion : Unbroken l.version := by
    intro c hc
    have hchar : c.isDigit = true ∨ c = '.' := by
      rcases l.isVersion with ⟨a, ha, hl⟩ | ⟨a, b, ha, hb, hl⟩ <;> rw [hl] at hc
      · exact .inl (List.mem_singleton.1 hc ▸ ha)
      · simp only [List.mem_cons, List.not_mem_nil, or_false] at hc
        rcases hc with rfl | rfl | rfl
        · exact .inl ha
        · exact .inr rfl
        · exact .inl hb
    rcases hchar with h | rfl
    · constructor <;> rintro rfl <;> exact absurd h (by decide)
    · decide
  have hphrase : Unbroken ((l.phrase.map (" " ++ ·)).getD "") := by
    cases hp : l.phrase with
    | none => exact fun _ hc => absurd hc List.not_mem_nil
    | some p => exact Unbroken.append (by decide) (l.unbroken p hp)
  refine ⟨by simp [text], ?_⟩
  exact (((Unbroken.append (by decide) hversion).append (by decide)).append
    (unbroken_toList_paddedText _)).append hphrase

theorem settled_lineOf {l : String} (hl : Unbroken l) (t : String) :
    e.settled (l ++ e.text ++ t) = l ++ "\n" ++ e.settled t := by
  rw [LineEnding.settled_line, LineEnding.settled_of_not_mem hl.not_mem_return]

theorem settled_onLines {ls : List String} (hls : ∀ l ∈ ls, IsLine l) (t : String) :
    e.settled (onLines e ls ++ t) = onLines .feed ls ++ e.settled t := by
  induction ls with
  | nil => simp [onLines]
  | cons l ls ih =>
    rw [List.forall_mem_cons] at hls
    rw [onLines, onLines, String.append_assoc, settled_lineOf hls.1.unbroken, ih hls.2]
    simp only [LineEnding.text, String.append_assoc]

theorem settled_headText (head : List HeaderLine) (t : String) :
    e.settled (headText e head ++ t) = headText .feed head ++ e.settled t := by
  have hblank := settled_lineOf (e := e) (l := "") nofun t
  rw [headText, String.append_assoc, settled_onLines fun _ => isLine_of_mem_map]
  rw [String.empty_append] at hblank
  rw [hblank, headText, LineEnding.text]
  simp only [String.append_assoc, String.empty_append]

theorem settled_answer (a : Answer) :
    e.settled (a.text e) = a.lead .feed ++ e.settled a.body := by
  have hchars : a.text e =
      headText e a.head ++ (a.status.text ++ e.text ++ (headText e a.headers ++ a.body)) := by
    simp only [Answer.text, Answer.lead, String.append_assoc]
  rw [hchars, settled_headText, settled_lineOf a.status.isLine.unbroken, settled_headText]
  simp only [Answer.lead, LineEnding.text, String.append_assoc]

theorem unbroken_delimiter {boundary : String} (hb : IsLine boundary) :
    Unbroken (delimiter boundary) :=
  Unbroken.append (by decide) hb.unbroken

theorem settled_delimited {boundary : String} (hb : IsLine boundary) (ps : List String)
    (t : String) :
    e.settled (delimited e boundary ps ++ t) =
      delimited .feed boundary (ps.map e.settled) ++ e.settled t := by
  induction ps with
  | nil =>
    exact LineEnding.settled_append_of_not_mem
      ((unbroken_delimiter hb).append (by decide)).not_mem_return t
  | cons p ps ih =>
    have hchars : delimited e boundary (p :: ps) ++ t =
        delimiter boundary ++ e.text ++ (p ++ e.text ++ (delimited e boundary ps ++ t)) := by
      simp only [delimited, String.append_assoc]
    rw [hchars, settled_lineOf (unbroken_delimiter hb), LineEnding.settled_line, ih, List.map_cons,
      delimited]
    simp only [LineEnding.text, String.append_assoc]

end Settled

/-- An envelope up to its closing delimiter, with lines that end the same way. -/
def Envelope.front (e : LineEnding) (v : Envelope) (parts : List String) : String :=
  (v.preamble.map (e.settled · ++ "\n")).getD "" ++
    delimited .feed v.boundary (parts.map e.settled)

theorem settled_front (e : LineEnding) (v : Envelope) (parts : List String) (t : String) :
    e.settled ((v.preamble.map (· ++ e.text)).getD "" ++ delimited e v.boundary parts ++ t) =
      v.front e parts ++ e.settled t := by
  unfold Envelope.front
  cases v.preamble with
  | none => simpa using settled_delimited v.announces.isLine parts t
  | some p =>
    simp only [Option.map_some, Option.getD_some]
    rw [String.append_assoc, LineEnding.settled_line, settled_delimited v.announces.isLine]
    simp only [String.append_assoc]

theorem exists_delimited_eq (e : LineEnding) (boundary : String) (ps : List String) :
    ∃ cs, (delimited e boundary ps).toList = cs ++ ['-'] := by
  induction ps with
  | nil => exact ⟨(delimiter boundary).toList ++ ['-'], by simp [delimited]⟩
  | cons p ps ih =>
    obtain ⟨cs, hcs⟩ := ih
    exact ⟨_, by rw [delimited, String.toList_append, hcs, ← List.append_assoc]⟩

/-- What follows the closing delimiter is another line, if anything. -/
theorem settled_envelope (e : LineEnding) (v : Envelope) (parts : List String) :
    ∃ rest : List Char, (∀ c ∈ rest.head?, c = '\n') ∧
      (e.settled (v.text e parts)).toList = (v.front e parts).toList ++ rest := by
  have hline (t : String) : e.settled (e.text ++ t) = "\n" ++ e.settled t := by
    have hsplit := settled_lineOf (e := e) (l := "") nofun t
    simpa only [String.empty_append] using hsplit
  rw [Envelope.text, settled_front, String.toList_append]
  refine ⟨_, ?_, rfl⟩
  cases v.epilogue with
  | none =>
    have hnone : e.settled "" = "" := LineEnding.settled_of_not_mem (by simp)
    simp [hnone]
  | some t => simp [hline]

theorem unified_envelope (e : LineEnding) (v : Envelope) (parts : List String) :
    ∃ rest : List Char, (∀ c ∈ rest.head?, c = '\n') ∧
      unified (v.text e parts).toList = (v.front e parts).toList ++ rest := by
  obtain ⟨cs, hcs⟩ := exists_delimited_eq e v.boundary parts
  have hlast : ((v.preamble.map (· ++ e.text)).getD "" ++
      delimited e v.boundary parts).toList.getLast? ≠ some '\r' := by
    rw [String.toList_append, hcs]
    simp
  have hfront : unified ((v.preamble.map (· ++ e.text)).getD "" ++
      delimited e v.boundary parts).toList = (v.front e parts).toList := by
    have hsettled := settled_front e v parts ""
    rw [LineEnding.settled_append hlast, String.append_left_inj] at hsettled
    rw [← hsettled, String.toList_ofList]
  rw [Envelope.text, String.toList_append, unified_append hlast, hfront]
  refine ⟨_, ?_, rfl⟩
  cases v.epilogue with
  | none => simp [unified]
  | some t =>
    have hline := LineEnding.unified_line e "" t.toList
    simp only [String.toList_empty, List.nil_append] at hline
    rw [Option.map_some, Option.getD_some, String.toList_append, hline]
    simp [LineEnding.settled_of_not_mem]

section Pieces

variable {boundary : String} (hb : IsLine boundary)
include hb

theorem mem_delimiter_ne {c : Char} (hc : c ∈ (delimiter boundary).toList) :
    c ≠ '\r' ∧ c ≠ '\n' := unbroken_delimiter hb c hc

/-- Nothing that follows the closing delimiter on another line is taken for a delimiter before it
ends. -/
theorem exists_pieces_closing {rest : List Char} (hrest : ∀ c ∈ rest.head?, c = '\n') :
    ∃ r ps, pieces (delimiter boundary).toList ('-' :: '-' :: rest) = ('-' :: '-' :: r) :: ps := by
  have hne : (delimiter boundary).toList ≠ [] := by simp [delimiter]
  obtain ⟨x, xs, hx⟩ := List.exists_cons_of_ne_nil
    (fun hnil => hb.ne_empty (String.toList_eq_nil_iff.1 hnil))
  have hchars : (delimiter boundary).toList = '-' :: '-' :: x :: xs := by simp [delimiter, hx]
  cases hcut : cutChars? (delimiter boundary).toList ('-' :: '-' :: rest) with
  | none => exact ⟨_, _, pieces_of_cut_eq_none hcut⟩
  | some p =>
    obtain ⟨a, b⟩ := p
    rw [pieces_of_cut hne hcut]
    have hsplit := cutChars?_eq_some hcut
    rw [hchars] at hsplit
    rcases a with _ | ⟨c, _ | ⟨d, a⟩⟩
    · obtain ⟨-, hsplit⟩ := List.cons.inj hsplit
      obtain ⟨-, rfl⟩ := List.cons.inj hsplit
      exact absurd (hrest x rfl) (mem_delimiter_ne hb (by simp [hchars])).2
    · obtain ⟨-, hsplit⟩ := List.cons.inj hsplit
      obtain ⟨-, rfl⟩ := List.cons.inj hsplit
      exact absurd (hrest '-' rfl) (by decide)
    · obtain ⟨hc, hsplit⟩ := List.cons.inj hsplit
      obtain ⟨hd, -⟩ := List.cons.inj hsplit
      exact ⟨a, _, by rw [← hc, ← hd]⟩

theorem not_infix_line {part : List Char} (h : ¬(delimiter boundary).toList <:+: part) :
    ¬(delimiter boundary).toList <:+: part ++ '\n' :: (delimiter boundary).toList.dropLast := by
  intro hm
  rcases infix_append_cons (unbroken_delimiter hb).not_mem_feed hm with hm | hm
  · exact h hm
  · exact absurd hm.length_le (by simp [delimiter])

theorem pieces_delimited {parts : List String} {before rest : List Char}
    (hbefore : ¬(delimiter boundary).toList <:+: before ++ (delimiter boundary).toList.dropLast)
    (h : ∀ t ∈ parts, ¬(delimiter boundary).toList <:+: t.toList)
    (hrest : ∀ c ∈ rest.head?, c = '\n') :
    ∃ r ps, pieces (delimiter boundary).toList
        (before ++ (delimited .feed boundary parts).toList ++ rest) =
      before :: (parts.map (fun t => '\n' :: t.toList ++ ['\n']) ++ ('-' :: '-' :: r) :: ps) := by
  have hne : (delimiter boundary).toList ≠ [] := by simp [delimiter]
  induction parts generalizing before with
  | nil =>
    obtain ⟨r, ps, hclosing⟩ := exists_pieces_closing hb hrest
    have hchars : before ++ (delimited .feed boundary []).toList ++ rest =
        before ++ (delimiter boundary).toList ++ ('-' :: '-' :: rest) := by
      simp [delimited]
    exact ⟨r, ps, by rw [hchars, pieces_append_sep hne hbefore, hclosing]; rfl⟩
  | cons t parts ih =>
    rw [List.forall_mem_cons] at h
    have hchars : before ++ (delimited .feed boundary (t :: parts)).toList ++ rest =
        before ++ (delimiter boundary).toList ++
          ('\n' :: t.toList ++ ['\n'] ++ (delimited .feed boundary parts).toList ++ rest) := by
      simp [delimited, LineEnding.text]
    have hnext : ¬(delimiter boundary).toList <:+:
        '\n' :: t.toList ++ ['\n'] ++ (delimiter boundary).toList.dropLast := by
      intro hm
      rw [List.append_assoc, List.singleton_append, List.cons_append] at hm
      rcases infix_append_cons (a := []) (unbroken_delimiter hb).not_mem_feed hm with hm | hm
      · exact hne (List.infix_nil.1 hm)
      · exact not_infix_line hb h.1 hm
    obtain ⟨r, ps, hpieces⟩ := ih hnext h.2
    exact ⟨r, ps, by rw [hchars, pieces_append_sep hne hbefore, hpieces]; rfl⟩

end Pieces

/-- A part as it is taken from between two delimiters. -/
def taken (t : String) : List Char := stripLines ('\n' :: t.toList ++ ['\n'])

theorem parts_front {e : LineEnding} {v : Envelope} {parts : List String}
    (h : v.Separates parts) {rest : List Char} (hrest : ∀ c ∈ rest.head?, c = '\n') :
    (Multipart.mk v.boundary.toList ((v.front e parts).toList ++ rest)).parts =
      parts.map fun t => taken (e.settled t) := by
  have hb := v.announces.isLine
  have hreturn := (unbroken_delimiter hb).not_mem_return
  have hfeed := (unbroken_delimiter hb).not_mem_feed
  have hparts : ∀ t ∈ parts.map e.settled, ¬(delimiter v.boundary).toList <:+: t.toList := by
    intro t ht hm
    obtain ⟨u, hu, rfl⟩ := List.mem_map.1 ht
    exact h u (List.mem_append_right _ hu) (LineEnding.infix_of_infix_settled hreturn hfeed hm)
  have hbefore : ¬(delimiter v.boundary).toList <:+:
      ((v.preamble.map (e.settled · ++ "\n")).getD "").toList ++
        (delimiter v.boundary).toList.dropLast := by
    cases hp : v.preamble with
    | none => exact fun hm => absurd hm.length_le (by simp [delimiter])
    | some p =>
      intro hm
      have hchars : ((some p).map (e.settled · ++ "\n")).getD "" = e.settled p ++ "\n" := rfl
      rw [hchars, String.toList_append, List.append_assoc] at hm
      refine not_infix_line hb (fun hm => h p ?_ ?_) hm
      · simp [hp]
      · exact LineEnding.infix_of_infix_settled hreturn hfeed hm
  obtain ⟨r, ps, hpieces⟩ := pieces_delimited hb hbefore hparts hrest
  have hdelimiter : (delimiter v.boundary).toList = '-' :: '-' :: v.boundary.toList := by
    simp [delimiter]
  have hchars : (v.front e parts).toList ++ rest =
      ((v.preamble.map (e.settled · ++ "\n")).getD "").toList ++
        (delimited .feed v.boundary (parts.map e.settled)).toList ++ rest := by
    rw [Envelope.front, String.toList_append]
  rw [Multipart.parts, hchars, ← hdelimiter, hpieces, List.drop_one, List.tail_cons,
    List.takeWhile_append_of_pos]
  · simp [after?, taken, Function.comp_def]
  · intro chunk hchunk
    obtain ⟨t, -, rfl⟩ := List.mem_map.1 hchunk
    rfl

end EntityQuery.Batch
