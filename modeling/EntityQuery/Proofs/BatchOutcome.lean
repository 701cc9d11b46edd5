import EntityQuery.Proofs.AnswerReading
import EntityQuery.Proofs.NumberReading

/-!
# A parse that nothing stops

A batch response is split at its boundary, and a part that is multipart itself is split in turn, at
whatever boundary it names, be it one that it stands between. Apart from a fault of the response,
three things could stop this: a separator without characters, digits of a status that are no
numeral, and texts nested deeper than there is room for. `Multipart.attempt` is the parse that stops
at each of them. It meets none if there is room for as many texts as the response has characters,
since a nested text is shorter than the one around it (`attempt_eq_responses`). So every response
ends in answers, at least one, or in a fault (`parse_ends`).
-/

namespace EntityQuery.Batch

open Number Text

/-- Why a parse stops: for a fault of the response, at a separator without characters, at digits
that are no numeral, or for want of room for another nested text. -/
inductive Stop where
  | fault (f : BatchFault)
  | separator
  | numeral
  | depth
  deriving DecidableEq, Repr

/-- The pieces of a text between the occurrences of a separator that has to have characters. -/
def piecesAt (sep s : List Char) : Except Stop (List (List Char)) :=
  if sep = [] then .error .separator else .ok (pieces sep s)

/-- The parts of a multipart text. -/
def Multipart.attemptParts (m : Multipart) : Except Stop (List (List Char)) := do
  let chunks ← piecesAt ('-' :: '-' :: m.boundary) m.text
  pure (((chunks.drop 1).takeWhile fun chunk => (after? ['-', '-'] chunk).isNone).map stripLines)

/-- What follows the version in a status line. Its second number may be missing. -/
def afterVersion? : List Char → Option (List Char)
  | major :: '.' :: minor :: r =>
    if isDecimal major then some (if isDecimal minor then r else '.' :: minor :: r) else none
  | major :: r => if isDecimal major then some r else none
  | [] => none

/-- The three digits that follow blanks. -/
def digitsBehind? : List Char → Option (List Char)
  | blank :: r =>
    let digits := (r.dropWhile isBlank).take 3
    if isBlank blank && digits.length = 3 && digits.all isDecimal then some digits else none
  | [] => none

/-- The digits of the status in a status line. -/
def statusDigits? (line : List Char) : Option (List Char) := do
  digitsBehind? (← afterVersion? (← after? "HTTP/".toList line))

/-- The number that digits stand for, if they are a numeral. -/
def statusOf (digits : List Char) : Except Stop Nat :=
  match integerOfChars? digits with
  | some n => .ok n.toNat
  | none => .error .numeral

/-- The answer in a part that is not multipart. -/
def attemptResponse (body : List Char) : Except Stop PartResponse :=
  let line := body.takeWhile (· != '\n')
  match statusDigits? (trimChars line) with
  | none => .error (.fault (.unexpectedPart (String.ofList (line.take lineLength))))
  | some digits => do
    let status ← statusOf digits
    let (headers, content) := splitHead (body.drop (line.length + 1))
    pure ⟨status, headers, String.ofList (trimChars content)⟩

/-- The answers in a multipart text, with room for so many texts in one another. -/
def Multipart.attempt : Nat → Multipart → Except Stop (List PartResponse)
  | 0, _ => .error .depth
  | depth + 1, m => do
    let answers ← (← m.attemptParts).mapM fun part =>
      match nested? part with
      | some inner => inner.attempt depth
      | none => do pure [← attemptResponse (splitHead part).2]
    pure answers.flatten

/-- The answers in a batch response, with room for so many texts in one another. -/
def attempt (depth : Nat) (text : String) (contentType : Option String) :
    Except Stop (List PartResponse) :=
  match boundary? (contentType.getD "") with
  | none => .error (.fault (.notMultipart contentType))
  | some boundary => do
    match ← (Multipart.mk boundary (Text.replace "\r\n" "\n" text).toList).attempt depth with
    | [] => .error (.fault .empty)
    | answers => pure answers

theorem attemptParts_eq (m : Multipart) : m.attemptParts = .ok m.parts := by
  rw [Multipart.attemptParts, piecesAt, if_neg (List.cons_ne_nil _ _)]
  rfl

/-- Three decimal digits, of whatever script, are a numeral. -/
theorem integerOfChars?_three {a b c : Char} {x y z : Nat} (ha : decimalValue? a = some x)
    (hb : decimalValue? b = some y) (hc : decimalValue? c = some z) :
    integerOfChars? [a, b, c] = some (ofDigits [x, y, z] : Int) := by
  have hdigits : IsDigits [a, b, c] := by
    refine ⟨List.cons_ne_nil _ _, ?_⟩
    simp [isDecimal, ha, hb, hc]
  have hscore (d : Char) (hd : d ∈ [b, c]) : d ≠ '_' := by
    rintro rfl
    exact absurd (hdigits.2 _ (List.mem_cons_of_mem _ hd)) (by decide)
  have hrun : digitRun? [a, b, c] = some [x, y, z] := by
    rw [digitRun?, digitRun?, digitRun?, ha, hb, hc]
    · rfl
    all_goals simp [hscore]
  rw [integerOfChars?, trimMargins_of_forall fun d hd => isBlank_of_isDecimal (hdigits.2 d hd),
    takeSign_of_head hdigits.ne_sign]
  dsimp only
  rw [hrun]
  rfl

/-- What is taken for the digits of a status is always a numeral. -/
theorem exists_statusOf_of_digits {line digits : List Char} (h : statusDigits? line = some digits) :
    ∃ status, statusOf digits = .ok status := by
  obtain ⟨r, -, h⟩ := Option.bind_eq_some_iff.1 h
  obtain ⟨r, -, h⟩ := Option.bind_eq_some_iff.1 h
  cases r with
  | nil => cases h
  | cons blank r =>
    obtain ⟨hall, hdigits⟩ := Option.ite_none_right_eq_some.1 h
    simp only [Bool.and_eq_true, decide_eq_true_eq] at hall
    rw [Option.some.inj hdigits] at hall
    obtain ⟨a, b, c, rfl⟩ := List.length_eq_three.1 hall.1.2
    simp only [isDecimal, List.all_cons, List.all_nil, Bool.and_true, Bool.and_eq_true,
      Option.isSome_iff_exists] at hall
    obtain ⟨-, ⟨x, ha⟩, ⟨y, hb⟩, ⟨z, hc⟩⟩ := hall
    rw [statusOf, integerOfChars?_three ha hb hc]
    exact ⟨_, rfl⟩

/-- The number that three characters stand for is that of the numeral they are, if they are one. -/
theorem value_of_three (cs : List Char) :
    (match cs with
      | [a, b, c] => do
        pure (ofDigits [← decimalValue? a, ← decimalValue? b, ← decimalValue? c])
      | _ => none) = (if cs.length = 3 ∧ cs.all isDecimal = true then some cs else none).bind
        fun digits => (integerOfChars? digits).map Int.toNat := by
  split
  · rename_i a b c
    cases ha : decimalValue? a <;> cases hb : decimalValue? b <;> cases hc : decimalValue? c <;>
      simp [isDecimal, *, integerOfChars?_three]
  · rename_i hthree
    have hlength : cs.length ≠ 3 := by
      intro h
      obtain ⟨a, b, c, rfl⟩ := List.length_eq_three.1 h
      exact hthree a b c rfl
    rw [if_neg fun h => hlength h.1]
    rfl

/-- The status in a line is the number that its digits stand for. -/
theorem status?_eq (line : List Char) : status? line =
    (statusDigits? line).bind fun digits => (integerOfChars? digits).map Int.toNat := by
  have hbehind (r : List Char) : (match r with
      | c :: r =>
        if isBlank c then
          match (r.dropWhile isBlank).take 3 with
          | [a, b, c] => do
            pure (ofDigits [← decimalValue? a, ← decimalValue? b, ← decimalValue? c])
          | _ => none
        else none
      | [] => none) =
        (digitsBehind? r).bind fun digits => (integerOfChars? digits).map Int.toNat := by
    cases r with
    | nil => rfl
    | cons blank r =>
      dsimp only [digitsBehind?]
      rw [value_of_three]
      cases isBlank blank <;> simp
  unfold status? statusDigits?
  cases after? "HTTP/".toList line with
  | none => rfl
  | some r =>
    rcases r with _ | ⟨major, r⟩
    · rfl
    by_cases hmajor : isDecimal major = true
    · rcases r with _ | ⟨point, _ | ⟨minor, r⟩⟩
      · simp [afterVersion?, hmajor, digitsBehind?]
      · simp [afterVersion?, hmajor, digitsBehind?]
      · by_cases hpoint : point = '.'
        · subst hpoint
          cases hminor : isDecimal minor with
          | true =>
            simp only [Option.bind_eq_bind, Option.bind_some, afterVersion?, hmajor, hminor,
              if_true]
            exact hbehind r
          | false =>
            simp only [Option.bind_eq_bind, Option.bind_some, afterVersion?, hmajor, hminor,
              if_true, Bool.false_eq_true, if_false]
            exact hbehind ('.' :: minor :: r)
        · simp only [Option.bind_eq_bind, Option.bind_some, afterVersion?, hmajor, if_true,
            List.cons.injEq, hpoint, false_and, imp_self, implies_true]
          exact hbehind (point :: minor :: r)
    · have hnone : afterVersion? (major :: r) = none := by
        unfold afterVersion?
        split <;> simp_all
      simp [hmajor, hnone]

theorem attemptResponse_eq (body : List Char) :
    attemptResponse body = (partResponse body).mapError Stop.fault := by
  unfold attemptResponse partResponse
  dsimp only
  rw [status?_eq]
  cases hdigits : statusDigits? (trimChars (body.takeWhile (· != '\n'))) with
  | none => rfl
  | some digits =>
    obtain ⟨status, hstatus⟩ := exists_statusOf_of_digits hdigits
    have hread : (integerOfChars? digits).map Int.toNat = some status := by
      rw [statusOf] at hstatus
      cases hn : integerOfChars? digits with
      | none => rw [hn] at hstatus; cases hstatus
      | some n => rw [hn] at hstatus; exact congrArg some (Except.ok.inj hstatus)
    dsimp only [Option.bind_some]
    rw [hread, Except.bind_of_ok _ hstatus]
    rfl

theorem collect_map (outcome : List Char → Except BatchFault (List PartResponse))
    (parts : List (List Char)) :
    collect (parts.map outcome) = (parts.mapM outcome).map List.flatten := by
  induction parts with
  | nil => rfl
  | cons part parts ih =>
    rw [List.map_cons, List.mapM_cons]
    cases outcome part with
    | error fault => rfl
    | ok answers =>
      rw [collect, ih]
      cases parts.mapM outcome <;> rfl

/-- Where there is room for as many texts in one another as a multipart text has characters, the
parse stops for faults only. -/
theorem attempt_eq_responses {m : Multipart} {depth : Nat} (h : m.text.length < depth) :
    m.attempt depth = m.responses.mapError Stop.fault := by
  induction depth generalizing m with
  | zero => exact absurd h (Nat.not_lt_zero _)
  | succ depth ih =>
    have houtcome : ∀ part ∈ m.parts, (match nested? part with
        | some inner => inner.attempt depth
        | none => do pure [← attemptResponse (splitHead part).2]) =
          (outcome part).mapError Stop.fault := by
      intro part hpart
      have hshorter := m.length_lt_of_mem_parts part hpart
      unfold outcome
      cases hnested : nested? part with
      | some inner =>
        have hinner := length_nested_le part inner hnested
        exact ih (by omega)
      | none =>
        dsimp only
        rw [attemptResponse_eq]
        cases partResponse (splitHead part).2 <;> rfl
    rw [Multipart.attempt, attemptParts_eq, Except.bind_of_ok _ rfl, responses_eq, collect_map,
      List.mapM_eq_mapError houtcome]
    cases m.parts.mapM outcome <;> rfl

theorem length_unified_le (cs : List Char) : (unified cs).length ≤ cs.length := by
  fun_induction unified cs with
  | case1 r ih => simp only [List.length_cons]; omega
  | case2 c r _ ih => simp only [List.length_cons]; omega
  | case3 => exact Nat.le_refl _

theorem attempt_eq_parse {text : String} {depth : Nat} (h : text.length < depth)
    (contentType : Option String) :
    attempt depth text contentType = (parse text contentType).mapError Stop.fault := by
  unfold attempt parse
  cases boundary? (contentType.getD "") with
  | none => rfl
  | some boundary =>
    have hlength : (replace "\r\n" "\n" text).toList.length < depth := by
      rw [toList_replace_lineEnd]
      exact Nat.lt_of_le_of_lt (length_unified_le _) h
    dsimp only
    rw [attempt_eq_responses hlength]
    cases (Multipart.mk boundary (replace "\r\n" "\n" text).toList).responses with
    | error fault => rfl
    | ok answers => cases answers <;> rfl

/-- Whatever a response holds and however its type is written, its parse ends, in answers, of which
there is at least one, or in a fault of the response. Nothing else stops it where there is room for
as many texts in one another as the response has characters. -/
theorem parse_ends (text : String) (contentType : Option String) :
    (∃ answers, answers ≠ [] ∧ parse text contentType = .ok answers ∧
      ∀ depth, text.length < depth → attempt depth text contentType = .ok answers) ∨
    ∃ fault, parse text contentType = .error fault ∧
      ∀ depth, text.length < depth → attempt depth text contentType = .error (.fault fault) := by
  cases hparse : parse text contentType with
  | error fault =>
    refine .inr ⟨fault, rfl, fun depth h => ?_⟩
    rw [attempt_eq_parse h, hparse]
    rfl
  | ok answers =>
    refine .inl ⟨answers, ?_, rfl, fun depth h => ?_⟩
    · rintro rfl
      unfold parse at hparse
      split at hparse
      · cases hparse
      · split at hparse
        · cases hparse
        · rename_i hresponses
          exact hresponses hparse
    · rw [attempt_eq_parse h, hparse]
      rfl

end EntityQuery.Batch
