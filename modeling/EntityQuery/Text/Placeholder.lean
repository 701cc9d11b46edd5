import EntityQuery.Text.Basic
import EntityQuery.Text.Word

/-!
# Placeholders

An address may name values to be filled in, as `[#name#]` or as `{name}`. `Piece.scan` cuts a text
into plain parts and placeholders, and `fill?` puts all values in at once.
-/

namespace EntityQuery.Text

/-- A part of a text with placeholders; a placeholder keeps the characters that it was written
with. -/
inductive Piece where
  | plain (c : Char)
  | placeholder (name written : List Char)
  deriving DecidableEq, Repr

namespace Piece

/-- The name of a placeholder in brackets at the start of a text, and what follows it. -/
def bracketed? (cs : List Char) : Option (List Char × List Char) :=
  match cs with
  | '[' :: '#' :: r =>
    let name := r.takeWhile fun c => c != '#' && c != ']'
    match name, r.drop name.length with
    | _ :: _, '#' :: ']' :: rest => some (name, rest)
    | _, _ => none
  | _ => none

/-- Whether a name in braces may begin with a character. -/
def isNameStart (c : Char) : Bool := c.isAlpha || c == '_' || c == '~'

/-- Whether a name in braces may go on with a character. -/
def isNamePart (c : Char) : Bool := isWord c || c == '~' || c == '.' || c == '-'

/-- The name of a placeholder in braces at the start of a text, and what follows it. -/
def braced? (cs : List Char) : Option (List Char × List Char) :=
  match cs with
  | '\x7b' :: c :: r =>
    if isNameStart c then
      let name := c :: r.takeWhile isNamePart
      match (c :: r).drop name.length with
      | '\x7d' :: rest => some (name, rest)
      | _ => none
    else none
  | _ => none

/-- The placeholder at the start of a text, and what follows it. -/
def placeholder? (cs : List Char) : Option (List Char × List Char) :=
  (bracketed? cs).or (braced? cs)

/-- The pieces of a text; `fuel` bounds the pieces, none of which is empty. -/
def scanChars : (fuel : Nat) → List Char → List Piece
  | 0, _ => []
  | _, [] => []
  | fuel + 1, c :: r =>
    match placeholder? (c :: r) with
    | some (name, rest) =>
      .placeholder name ((c :: r).take ((c :: r).length - rest.length)) :: scanChars fuel rest
    | none => .plain c :: scanChars fuel r

/-- The pieces of a text. -/
def scan (s : String) : List Piece := scanChars s.toList.length s.toList

/-- The characters that a piece was written with. -/
def written : Piece → List Char
  | .plain c => [c]
  | .placeholder _ w => w

/-- The name of a placeholder. -/
def name? : Piece → Option String
  | .plain _ => none
  | .placeholder name _ => some (String.ofList name)

/-- What a piece becomes when its value is known. -/
def fill? (resolve : String → Option String) : Piece → Option (List Char)
  | .plain c => some [c]
  | .placeholder name _ => (resolve (String.ofList name)).map String.toList

end Piece

/-- The names of the placeholders of a text in order. -/
def placeholders (s : String) : List String := (Piece.scan s).filterMap Piece.name?

/-- The text with every placeholder replaced by its value; nothing when a value is missing. -/
def fillPlaceholders? (resolve : String → Option String) (s : String) : Option String :=
  ((Piece.scan s).mapM (Piece.fill? resolve)).map fun parts => String.ofList parts.flatten

end EntityQuery.Text
