import EntityQuery.Response
import EntityQuery.Error

/-!
# Batch responses

A multipart response, split at its boundary into the answers to single requests. A part that is
multipart itself is split in turn, which ends because a part is shorter than the text it comes
from.
-/

namespace EntityQuery.Batch

open Text

/-- The answer to one request of a batch. Header names are in lower case. -/
structure PartResponse where
  status : Nat
  headers : Headers := []
  body : String := ""
  deriving DecidableEq, Repr, Inhabited

/-- Whether the request succeeded. -/
def PartResponse.ok (p : PartResponse) : Bool := p.status < 400

/-- The value of the body; a blank body is null. -/
def PartResponse.json (p : PartResponse) : Except Error Value :=
  if trim p.body = "" then .ok .null else decodeJson p.body

/-- The value of a boundary parameter at the start of a text: quoted, or up to a blank or
semicolon. -/
def boundaryValue? (cs : List Char) : Option (List Char) :=
  let plain := cs.takeWhile fun c => c != ';' && !isBlank c
  let bare := if plain = [] then none else some plain
  match cs with
  | '"' :: r =>
    let inner := r.takeWhile (· != '"')
    if inner ≠ [] ∧ inner.length < r.length then some inner else bare
  | _ => bare

/-- The boundary that a parameter at the start of a text names. -/
def boundaryAt? (cs : List Char) : Option (List Char) :=
  if (cs.take 9).map Char.toLower = "boundary=".toList then boundaryValue? (cs.drop 9) else none

/-- The boundary that the first well-formed parameter of a content type names. -/
def findBoundary? : List Char → Option (List Char)
  | [] => none
  | c :: r => (boundaryAt? (c :: r)).or (findBoundary? r)

/-- The boundary of a multipart content type. -/
def boundary? (contentType : String) : Option (List Char) :=
  if contains "multipart/" (lower contentType) then findBoundary? contentType.toList else none

/-- The headers of lines; lines without a colon do not count. -/
def headersOf (lines : List (List Char)) : Headers :=
  lines.foldl (fun hs line =>
    match cutChars? [':'] line with
    | some (name, value) =>
      Headers.put hs (lower (String.ofList (trimChars name))) (String.ofList (trimChars value))
    | none => hs) []

/-- Headers and body of a part, which an empty line separates. -/
def splitHead (text : List Char) : Headers × List Char :=
  match cutChars? ['\n', '\n'] text with
  | some (head, body) => (headersOf (splitChar '\n' head), body)
  | none => (headersOf (splitChar '\n' text), [])

/-- The text without line breaks at both ends. -/
def stripLines (cs : List Char) : List Char := stripChars (· == '\n') cs

/-- A multipart text with its boundary. -/
structure Multipart where
  boundary : List Char
  text : List Char

/-- The parts of a multipart text: what follows each delimiter, up to the closing one. -/
def Multipart.parts (m : Multipart) : List (List Char) :=
  (((pieces ('-' :: '-' :: m.boundary) m.text).drop 1).takeWhile fun chunk =>
    (after? ['-', '-'] chunk).isNone).map stripLines

theorem length_dropWhile_le {α : Type} (p : α → Bool) (xs : List α) :
    (xs.dropWhile p).length ≤ xs.length := by
  induction xs with
  | nil => simp
  | cons a xs ih =>
    simp only [List.dropWhile_cons]
    split
    · simp only [List.length_cons]; omega
    · simp

theorem length_stripLines_le (cs : List Char) : (stripLines cs).length ≤ cs.length := by
  have h₁ := length_dropWhile_le (· == '\n') cs
  have h₂ := length_dropWhile_le (· == '\n') (cs.dropWhile (· == '\n')).reverse
  simp only [stripLines, stripChars, List.length_reverse] at *
  omega

theorem length_pieces_le (sep s p : List Char) (h : p ∈ pieces sep s) : p.length ≤ s.length := by
  fun_induction pieces sep s with
  | case1 s hs => simp_all
  | case2 s a b hs => simp_all
  | case3 s a b hs _ ih =>
    have := cutChars?_length hs
    rcases List.mem_cons.1 h with rfl | h
    · omega
    · have := ih h
      omega

theorem length_lt_of_mem_drop_pieces (sep s p : List Char) (hsep : sep ≠ [])
    (h : p ∈ (pieces sep s).drop 1) : p.length < s.length := by
  unfold pieces at h
  split at h
  · simp at h
  · rename_i a b hs
    have := cutChars?_length hs
    have : sep.length ≠ 0 := by simpa using hsep
    simp only [if_neg hsep, List.drop_succ_cons, List.drop_zero] at h
    have := length_pieces_le sep b p h
    omega

theorem Multipart.length_lt_of_mem_parts (m : Multipart) (p : List Char) (h : p ∈ m.parts) :
    p.length < m.text.length := by
  obtain ⟨chunk, hc, rfl⟩ := List.mem_map.1 h
  have := length_stripLines_le chunk
  have := length_lt_of_mem_drop_pieces _ _ _ (by simp) ((List.takeWhile_sublist _).mem hc)
  omega

theorem length_splitHead_le (text : List Char) : (splitHead text).2.length ≤ text.length := by
  unfold splitHead
  split
  · rename_i head body h
    have := cutChars?_length h
    simp only; omega
  · simp

/-- The status in a status line. -/
def status? (line : List Char) : Option Nat := do
  let r ← after? "HTTP/".toList line
  let r ← match r with
    | c :: r => if isDecimal c then some r else none
    | [] => none
  let r := match r with
    | '.' :: d :: r' => if isDecimal d then r' else r
    | r => r
  match r with
  | c :: r =>
    if isBlank c then
      match (r.dropWhile isBlank).take 3 with
      | [a, b, c] => do
        pure (Number.ofDigits [← decimalValue? a, ← decimalValue? b, ← decimalValue? c])
      | _ => none
    else none
  | [] => none

/-- How much of a status line a message shows. -/
def lineLength : Nat := 200

/-- The answer in a part that is not multipart. -/
def partResponse (body : List Char) : Except BatchFault PartResponse :=
  let line := body.takeWhile (· != '\n')
  let rest := body.drop (line.length + 1)
  match status? (trimChars line) with
  | none => .error (.unexpectedPart (String.ofList (line.take lineLength)))
  | some status =>
    let (headers, content) := splitHead rest
    .ok ⟨status, headers, String.ofList (trimChars content)⟩

/-- The multipart text in the body of a part, if it is one. -/
def nested? (part : List Char) : Option Multipart :=
  let (headers, body) := splitHead part
  (boundary? ((headers.get? "content-type").getD "")).map fun b => ⟨b, body⟩

theorem length_nested_le (part : List Char) (m : Multipart) (h : nested? part = some m) :
    m.text.length ≤ part.length := by
  unfold nested? at h
  simp only [Option.map_eq_some_iff] at h
  obtain ⟨b, _, rfl⟩ := h
  exact length_splitHead_le part

/-- All answers in order, or the first fault. -/
def collect : List (Except BatchFault (List PartResponse)) → Except BatchFault (List PartResponse)
  | [] => .ok []
  | .error e :: _ => .error e
  | .ok answers :: rest => (collect rest).map (answers ++ ·)

/-- The answers in a part, given those of the multipart text that it may hold. -/
def partAnswers (part : List Char)
    (inner :
      (m : Multipart) → m.text.length ≤ part.length → Except BatchFault (List PartResponse)) :
    Except BatchFault (List PartResponse) :=
  match h : nested? part with
  | some m => inner m (length_nested_le part m h)
  | none => (partResponse (splitHead part).2).map ([·])

/-- The answers in a multipart text, in order. -/
def Multipart.responses (m : Multipart) : Except BatchFault (List PartResponse) :=
  collect (m.parts.attach.map fun part =>
    partAnswers part.1 fun inner h =>
      have : inner.text.length < m.text.length :=
        Nat.lt_of_le_of_lt h (m.length_lt_of_mem_parts part.1 part.2)
      inner.responses)
termination_by m.text.length

/-- The answers in a batch response, in order. -/
def parse (text : String) (contentType : Option String) : Except BatchFault (List PartResponse) :=
  match boundary? (contentType.getD "") with
  | none => .error (.notMultipart contentType)
  | some boundary =>
    match (Multipart.mk boundary (Text.replace "\r\n" "\n" text).toList).responses with
    | .ok [] => .error .empty
    | r => r

/-- The error of the first request that failed. -/
def firstFailure? (answers : List PartResponse) : Option Error :=
  (answers.find? (!·.ok)).map fun p => .changeset p.status p.body

end EntityQuery.Batch
