import EntityQuery.Html.NamedCharacter
import EntityQuery.Text.Encoding
import EntityQuery.Text.Quoted

/-!
# Character references

What an ampersand in an HTML text stands for: a character by its number, characters by their name,
or itself. `resolve` replaces the references of a text. In the value of an attribute a name without
semicolon counts only where no letter, digit or equals sign follows it, so that links keep their
parameters.
-/

namespace EntityQuery.Html

open Text

/-- The characters that separate. -/
def isSpace (c : Char) : Bool := c = ' ' || c = '\t' || c = '\n' || c = '\x0c' || c = '\r'

/-- The text without separators at its start. -/
def skip (cs : List Char) : List Char := cs.dropWhile isSpace

/-- The character with a number, read as Windows does; numbers of no character give the one that
stands for what is missing. -/
def numberedCharacter (n : Nat) : Char :=
  match windowsCharacters.lookup n with
  | some c => c
  | none => if n = 0 ∨ ¬ n.isValidChar then '\uFFFD' else Char.ofNat n

/-- Beyond the numbers of all characters. -/
def numberLimit : Nat := 0x110000

/-- The number in digits of a base; it does not grow beyond `numberLimit`. -/
def numeral (base : Nat) (cs : List Char) : Nat :=
  cs.foldl (fun n c => min numberLimit (n * base + (hexDigit? c).getD 0)) 0

/-- Whether the character is a digit of a base. -/
def isBaseDigit (base : Nat) (c : Char) : Bool :=
  match hexDigit? c with
  | some d => decide (d < base)
  | none => false

/-- What a number in a base stands for, and what follows it and its semicolon. -/
def numbered? (base : Nat) (cs : List Char) : Option (List Char × List Char) :=
  let digits := cs.takeWhile (isBaseDigit base)
  if digits = [] then none
  else
    let rest := match cs.drop digits.length with
      | ';' :: r => r
      | r => r
    some ([numberedCharacter (numeral base digits)], rest)

/-- Whether a name without semicolon counts in the value of an attribute, by what follows it. -/
def endsBareName (rest : List Char) : Bool :=
  match rest with
  | c :: _ => !(c = '=' || c.isAlphanum)
  | [] => true

/-- What the longest name at the start of a text stands for, and what follows it. -/
def named? (inValue : Bool) (cs : List Char) : Option (List Char × List Char) :=
  let run := cs.takeWhile Char.isAlphanum
  match cs.drop run.length, namedText? (String.ofList run) with
  | ';' :: r, some content => some (content.toList, r)
  | _, _ => do
    let name ← bareNames.find? fun n => n.toList.isPrefixOf run
    let content ← namedText? name
    let rest := cs.drop name.length
    if inValue && !endsBareName rest then none else pure (content.toList, rest)

/-- What an ampersand stands for, given the text behind it, and what follows. -/
def reference (inValue : Bool) (cs : List Char) : List Char × List Char :=
  let found := match cs with
    | '#' :: 'x' :: r => numbered? 16 r
    | '#' :: 'X' :: r => numbered? 16 r
    | '#' :: r => numbered? 10 r
    | _ => named? inValue cs
  found.getD (['&'], cs)

/-- A text with its references resolved. -/
def resolve (inValue : Bool) : (fuel : Nat) → List Char → List Char
  | 0, cs => cs
  | _ + 1, [] => []
  | fuel + 1, '&' :: r =>
    let (content, rest) := reference inValue r
    content ++ resolve inValue fuel rest
  | fuel + 1, c :: r => c :: resolve inValue fuel r

/-- A text outside of tags with its references resolved. -/
def textOf (cs : List Char) : String := String.ofList (resolve false (cs.length + 1) cs)

/-- The value of an attribute with its references resolved. -/
def valueOf (cs : List Char) : String := String.ofList (resolve true (cs.length + 1) cs)

end EntityQuery.Html
