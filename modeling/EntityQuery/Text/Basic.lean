import EntityQuery.Text.Digit

/-!
# Trimming, cutting and splitting text

All operations work on the characters of a text; the functions on `String` only convert.
`splitChar_append` and `intercalate_splitChar` tie splitting to joining, `cutChars?_eq_some` says
that cutting loses nothing but the separator, and `cutChars?_append` where it cuts.
-/

namespace EntityQuery.Text

/-- The characters without any of `drop` at both ends. -/
def stripChars (drop : Char → Bool) (cs : List Char) : List Char :=
  ((cs.dropWhile drop).reverse.dropWhile drop).reverse

/-- The characters without the blanks at both ends. -/
def trimChars (cs : List Char) : List Char := stripChars isBlank cs

/-- The text without the blanks at both ends. -/
def trim (s : String) : String := String.ofList (trimChars s.toList)

/-- What follows `lead` in a text that begins with it. -/
def after? : (lead : List Char) → List Char → Option (List Char)
  | [], s => some s
  | _ :: _, [] => none
  | a :: lead, c :: s => if a = c then after? lead s else none

/-- The text before and after the first occurrence of `sep`. -/
def cutChars? (sep : List Char) : List Char → Option (List Char × List Char)
  | [] => if sep = [] then some ([], []) else none
  | c :: r =>
    match after? sep (c :: r) with
    | some rest => some ([], rest)
    | none => (cutChars? sep r).map fun p => (c :: p.1, p.2)

/-- The pieces of a text between the occurrences of one character. -/
def splitChar (sep : Char) : List Char → List (List Char)
  | [] => [[]]
  | c :: r =>
    if c = sep then [] :: splitChar sep r
    else
      match splitChar sep r with
      | [] => [[c]]
      | p :: ps => (c :: p) :: ps

theorem after?_eq_some {lead s r : List Char} : after? lead s = some r ↔ s = lead ++ r := by
  induction lead generalizing s with
  | nil => simp [after?]
  | cons a lead ih =>
    cases s with
    | nil => simp [after?]
    | cons c s =>
      by_cases h : a = c
      · subst h; simp [after?, ih]
      · simp [after?, h, Ne.symm h]

theorem cutChars?_eq_some {sep s a b : List Char} (h : cutChars? sep s = some (a, b)) :
    s = a ++ sep ++ b := by
  induction s generalizing a with
  | nil =>
    simp only [cutChars?] at h
    split at h <;> simp_all
  | cons c r ih =>
    simp only [cutChars?] at h
    split at h
    · rename_i rest hr
      simp only [Option.some.injEq, Prod.mk.injEq] at h
      obtain ⟨rfl, rfl⟩ := h
      simpa using after?_eq_some.1 hr
    · obtain ⟨⟨a', b'⟩, hp, he⟩ := Option.map_eq_some_iff.1 h
      simp only [Prod.mk.injEq] at he
      obtain ⟨rfl, rfl⟩ := he
      simp [ih hp]

theorem cutChars?_length {sep s a b : List Char} (h : cutChars? sep s = some (a, b)) :
    s.length = a.length + sep.length + b.length := by
  rw [cutChars?_eq_some h]; simp [Nat.add_assoc]

theorem cutChars?_of_not_mem {c : Char} {s : List Char} (h : c ∉ s) : cutChars? [c] s = none := by
  induction s with
  | nil => rfl
  | cons a s ih =>
    rw [List.mem_cons, not_or] at h
    rw [cutChars?, after?, if_neg h.1, ih h.2, Option.map_none]

theorem cutChars?_append {c : Char} {a b : List Char} (h : c ∉ a) :
    cutChars? [c] (a ++ c :: b) = some (a, b) := by
  induction a with
  | nil => rw [List.nil_append, cutChars?, after?, if_pos rfl, after?]
  | cons x a ih =>
    rw [List.mem_cons, not_or] at h
    rw [List.cons_append, cutChars?, after?, if_neg h.1, ih h.2, Option.map_some]

/-- The pieces of a text between the occurrences of a separator, found from the left. An empty
separator leaves the text whole. -/
def pieces (sep : List Char) (s : List Char) : List (List Char) :=
  match _h : cutChars? sep s with
  | none => [s]
  | some (a, b) => if sep = [] then [s] else a :: pieces sep b
termination_by s.length
decreasing_by
  rename_i hs
  have := cutChars?_length _h
  have : sep.length ≠ 0 := by simpa using hs
  omega

theorem splitChar_ne_nil (sep : Char) (s : List Char) : splitChar sep s ≠ [] := by
  cases s with
  | nil => simp [splitChar]
  | cons c r =>
    simp only [splitChar]
    split
    · simp
    · split <;> simp

theorem splitChar_append (sep : Char) (a b : List Char) (h : sep ∉ a) :
    splitChar sep (a ++ sep :: b) = a :: splitChar sep b := by
  induction a with
  | nil => simp [splitChar]
  | cons c r ih =>
    simp only [List.mem_cons, not_or] at h
    simp only [List.cons_append, splitChar, if_neg (Ne.symm h.1), ih h.2]

theorem splitChar_of_not_mem (sep : Char) (a : List Char) (h : sep ∉ a) :
    splitChar sep a = [a] := by
  induction a with
  | nil => simp [splitChar]
  | cons c r ih =>
    simp only [List.mem_cons, not_or] at h
    simp only [splitChar, if_neg (Ne.symm h.1), ih h.2]

theorem intercalate_splitChar (sep : Char) (s : List Char) :
    List.intercalate [sep] (splitChar sep s) = s := by
  induction s with
  | nil => simp [splitChar, List.intercalate]
  | cons c r ih =>
    obtain ⟨p, ps, hp⟩ := List.exists_cons_of_ne_nil (splitChar_ne_nil sep r)
    by_cases h : c = sep
    · subst h
      simp only [splitChar, if_true, hp]
      rw [hp] at ih
      cases ps <;> simp_all [List.intercalate]
    · simp only [splitChar, if_neg h, hp]
      rw [hp] at ih
      cases ps <;> simp_all [List.intercalate]

/-! ## On strings -/

/-- The text before and after the first occurrence of `sep`. -/
def cut? (sep s : String) : Option (String × String) :=
  (cutChars? sep.toList s.toList).map fun p => (String.ofList p.1, String.ofList p.2)

/-- The pieces of a text between the occurrences of one character. -/
def split (sep : Char) (s : String) : List String :=
  (splitChar sep s.toList).map String.ofList

/-- The pieces of a text between the occurrences of a separator. -/
def splitOn (sep s : String) : List String :=
  (pieces sep.toList s.toList).map String.ofList

/-- Every occurrence of `old` replaced, from the left. -/
def replace (old new s : String) : String :=
  String.ofList (List.intercalate new.toList (pieces old.toList s.toList))

/-- Whether a text begins with `lead`. -/
def startsWith (lead s : String) : Bool := (after? lead.toList s.toList).isSome

/-- Whether `part` occurs in a text. -/
def contains (part s : String) : Bool := (cutChars? part.toList s.toList).isSome

/-- The texts joined by a separator. -/
def join (sep : String) (parts : List String) : String := String.intercalate sep parts

/-- The first `n` characters. -/
def take (n : Nat) (s : String) : String := String.ofList (s.toList.take n)

/-- The words of a text, where blanks separate. -/
def wordsOf : List Char → List Char → List (List Char)
  | word, [] => if word = [] then [] else [word.reverse]
  | word, c :: r =>
    if isBlank c then (if word = [] then wordsOf [] r else word.reverse :: wordsOf [] r)
    else wordsOf (c :: word) r

/-- The words of a text, where blanks separate. -/
def words (s : String) : List String := (wordsOf [] s.toList).map String.ofList

/-- The text without the given character at its end. -/
def trimEndChar (c : Char) (s : String) : String :=
  String.ofList (s.toList.reverse.dropWhile (· == c)).reverse

/-- The text without the given character at its start. -/
def trimStartChar (c : Char) (s : String) : String :=
  String.ofList (s.toList.dropWhile (· == c))

end EntityQuery.Text

namespace EntityQuery

/-- A set text that is not empty. -/
def nonEmpty? (s : Option String) : Option String := s.filter (· != "")

end EntityQuery
