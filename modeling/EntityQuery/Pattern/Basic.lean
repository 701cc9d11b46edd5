import EntityQuery.Text.Word
import EntityQuery.Text.Digit
import EntityQuery.Text.Casing

/-!
# Patterns

Regular expressions with captures, references, assertions and three kinds of repetition. Flags are
resolved while reading: a node says itself whether case, line ends or scripts matter to it.
-/

namespace EntityQuery

open Text

namespace Pattern

/-- The named classes of characters. -/
inductive CharKind where
  | decimal
  | blank
  | word
  deriving DecidableEq, Repr

/-- A member of a character set. -/
inductive SetItem where
  | char (c : Char)
  | range (first last : Char)
  | kind (k : CharKind) (negated ascii : Bool)
  deriving DecidableEq, Repr

/-- A test of one character. `fold` makes it blind to case. -/
inductive CharTest where
  | literal (c : Char) (fold : Bool)
  | any (newline : Bool)
  | set (negated : Bool) (items : List SetItem) (fold : Bool)
  deriving DecidableEq, Repr

/-- A condition on a place in the text. -/
inductive Assertion where
  | start
  | startOfLine
  | finish
  | finishOfLine
  | lastFinish
  | wordEdge (ascii negated : Bool)
  deriving DecidableEq, Repr

/-- How a repetition gives way: as many as possible first, as few as possible first, or as many as
possible with no way back. -/
inductive Greed where
  | greedy
  | lazy
  | possessive
  deriving DecidableEq, Repr

end Pattern

open Pattern in
/-- A regular expression. Looking behind and references carry the number of characters that they
match, a reference only where it is always the same. -/
inductive Pattern where
  | empty
  | one (test : CharTest)
  | assertion (a : Assertion)
  | seq (first second : Pattern)
  | alt (first second : Pattern)
  | rep (least : Nat) (most : Option Nat) (greed : Greed) (body : Pattern)
  | group (index : Nat) (body : Pattern)
  | same (index : Nat) (fold : Bool) (width : Option Nat)
  | ahead (negated : Bool) (body : Pattern)
  | behind (negated : Bool) (width : Nat) (body : Pattern)
  | atomic (body : Pattern)
  | ifGroup (index : Nat) (yes no : Pattern)
  deriving Repr

namespace Pattern

/-- The number of characters that every match has, if all have as many. -/
def width? : Pattern → Option Nat
  | .empty | .assertion _ | .ahead .. | .behind .. => some 0
  | .one _ => some 1
  | .seq a b => do pure ((← a.width?) + (← b.width?))
  | .alt a b | .ifGroup _ a b => do
    let n ← a.width?
    let m ← b.width?
    if n = m then pure n else none
  | .rep least most _ body => do
    let n ← body.width?
    if most = some least then pure (least * n) else if n = 0 then pure 0 else none
  | .group _ body | .atomic body => body.width?
  | .same _ _ width => width

/-! ## Matching -/

/-- A place in a text: what lies before it, last character first, what follows, and the texts that
groups captured, latest first. -/
structure Place where
  before : List Char
  rest : List Char
  captured : List (Nat × List Char) := []

/-- One character in lower case, when that is one character. -/
def lowerChar (c : Char) : Char :=
  match lower (String.ofList [c]) |>.toList with
  | [d] => d
  | _ => c

/-- One character in upper case, when that is one character. -/
def upperChar (c : Char) : Char :=
  match upper (String.ofList [c]) |>.toList with
  | [d] => d
  | _ => c

/-- Whether two characters differ in case only. -/
def sameLetter (c d : Char) : Bool := lowerChar c == lowerChar d || upperChar c == upperChar d

/-- Whether a class holds a character. -/
def CharKind.holds (k : CharKind) (ascii : Bool) (c : Char) : Bool :=
  if ascii && 0x80 ≤ c.toNat then false
  else match k with
    | .decimal => isDecimal c
    | .blank => isBlank c && !(ascii && 0x1C ≤ c.toNat && c.toNat ≤ 0x1F)
    | .word => isWord c

/-- Whether a member of a set stands for a character. -/
def SetItem.holds (c : Char) : SetItem → Bool
  | .char d => c == d
  | .range a b => a ≤ c && c ≤ b
  | .kind k negated ascii => k.holds ascii c != negated

/-- Whether a test accepts a character. -/
def CharTest.accepts (c : Char) : CharTest → Bool
  | .literal d fold => c == d || (fold && sameLetter c d)
  | .any newline => newline || c != '\n'
  | .set negated items fold =>
    let holds (c : Char) : Bool := items.any (SetItem.holds c)
    (holds c || (fold && (holds (lowerChar c) || holds (upperChar c)))) != negated

/-- Whether a condition holds at a place. An empty text has neither word edges nor other places. -/
def Assertion.holds (p : Place) : Assertion → Bool
  | .start => p.before.isEmpty
  | .startOfLine => p.before.head? == none || p.before.head? == some '\n'
  | .finish => p.rest == [] || p.rest == ['\n']
  | .finishOfLine => p.rest.head? == none || p.rest.head? == some '\n'
  | .lastFinish => p.rest.isEmpty
  | .wordEdge ascii negated =>
    let inWord (c : Option Char) : Bool := (c.map (CharKind.word.holds ascii)).getD false
    !(p.before.isEmpty && p.rest.isEmpty) &&
      ((inWord p.before.head? != inWord p.rest.head?) != negated)

/-- The place after `n` more characters. -/
def Place.advance (p : Place) (n : Nat) : Place :=
  { p with before := (p.rest.take n).reverse ++ p.before, rest := p.rest.drop n }

/-- Repeats `body` before going on with `next`. After a repetition that moved nowhere there is no
further one. -/
def repeated (body : Place → (Place → Option Place) → Option Place) (lazy : Bool) :
    (least : Nat) → (most : Option Nat) → (fuel : Nat) → Place →
      (next : Place → Option Place) → Option Place
  | _, _, 0, p, next => next p
  | least + 1, most, fuel + 1, p, next =>
    body p fun q => repeated body lazy least (most.map (· - 1)) fuel q next
  | 0, some 0, _ + 1, p, next => next p
  | 0, most, fuel + 1, p, next =>
    let again (_ : Unit) : Option Place :=
      body p fun q =>
        if q.rest.length = p.rest.length then next q
        else repeated body lazy 0 (most.map (· - 1)) fuel q next
    if lazy then (next p).orElse again else (again ()).orElse fun _ => next p

/-- Matches a pattern at a place and goes on with `next`, trying the ways to match in order until
`next` succeeds. -/
def run : Pattern → Place → (next : Place → Option Place) → Option Place
  | .empty, p, next => next p
  | .one test, p, next =>
    match p.rest with
    | [] => none
    | c :: _ => if test.accepts c then next (p.advance 1) else none
  | .assertion a, p, next => if a.holds p then next p else none
  | .seq a b, p, next => a.run p fun q => b.run q next
  | .alt a b, p, next => (a.run p next).orElse fun _ => b.run p next
  | .rep least most greed body, p, next =>
    let fuel := least + p.rest.length + 2
    match greed with
    | .greedy => repeated body.run false least most fuel p next
    | .lazy => repeated body.run true least most fuel p next
    | .possessive => (repeated body.run false least most fuel p some).bind next
  | .group index body, p, next =>
    body.run p fun q =>
      next { q with
        captured := (index, p.rest.take (p.rest.length - q.rest.length)) :: q.captured }
  | .same index fold _, p, next =>
    match p.captured.lookup index with
    | none => none
    | some text =>
      let here := p.rest.take text.length
      let equal := here.length == text.length &&
        (here.zip text).all fun (c, d) => c == d || (fold && sameLetter c d)
      if equal then next (p.advance text.length) else none
  | .ahead negated body, p, next =>
    match body.run p some with
    | some q => if negated then none else next { p with captured := q.captured }
    | none => if negated then next p else none
  | .behind negated width body, p, next =>
    let found :=
      if p.before.length < width then none
      else
        let start : Place :=
          ⟨p.before.drop width, (p.before.take width).reverse ++ p.rest, p.captured⟩
        body.run start fun q => if q.rest.length = p.rest.length then some q else none
    match found with
    | some q => if negated then none else next { p with captured := q.captured }
    | none => if negated then next p else none
  | .atomic body, p, next => (body.run p some).bind next
  | .ifGroup index yes no, p, next =>
    if (p.captured.lookup index).isSome then yes.run p next else no.run p next

end Pattern

end EntityQuery
