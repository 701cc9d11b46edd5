import EntityQuery.Markup.Node
import EntityQuery.Text.Quoted

/-!
# XML tokens

The tags, texts, comments and processing instructions of an XML text, with references resolved and
attribute values normalised. A text that is not well formed has no tokens.
-/

namespace EntityQuery.Xml

open Text Markup

/-- A token of an XML text. -/
inductive Token where
  | opening (name : String) (attributes : Attributes) (closed : Bool)
  | closing (name : String)
  | text (content : String)
  | comment (content : String)
  | instruction (content : String)
  deriving DecidableEq, Repr, Inhabited

/-- The characters that separate. -/
def isSpace (c : Char) : Bool := c = ' ' || c = '\t' || c = '\n' || c = '\r'

/-- The text without separators at its start. -/
def skip (cs : List Char) : List Char := cs.dropWhile isSpace

/-- The characters that a text may hold. -/
def isAllowed (c : Char) : Bool :=
  c = '\t' || c = '\n' || c = '\r' || (0x20 ≤ c.toNat && c.toNat ≠ 0xFFFE && c.toNat ≠ 0xFFFF)

/-- The characters that a name may begin with beside the colon. -/
def nameStartRanges : List (Nat × Nat) := [
  (0x41, 0x5A), (0x5F, 0x5F), (0x61, 0x7A), (0xC0, 0xD6), (0xD8, 0xF6), (0xF8, 0x2FF),
  (0x370, 0x37D), (0x37F, 0x1FFF), (0x200C, 0x200D), (0x2070, 0x218F), (0x2C00, 0x2FEF),
  (0x3001, 0xD7FF), (0xF900, 0xFDCF), (0xFDF0, 0xFFFD), (0x10000, 0xEFFFF)]

/-- The further characters of names. -/
def nameRanges : List (Nat × Nat) := [
  (0x2D, 0x2E), (0x30, 0x39), (0xB7, 0xB7), (0x300, 0x36F), (0x203F, 0x2040)]

/-- Whether a name may begin with the character. -/
def isNameStart (c : Char) : Bool := inRanges nameStartRanges c.toNat

/-- Whether a name may hold the character. -/
def isNameChar (c : Char) : Bool := isNameStart c || inRanges nameRanges c.toNat

/-- Whether a text is a name without colon. -/
def isSimpleName : List Char → Bool
  | c :: r => isNameStart c && r.all isNameChar
  | [] => false

/-- A name at the start of a text: simple, or two simple names around a colon. -/
def name? (cs : List Char) : Option (String × List Char) :=
  let name := cs.takeWhile fun c => isNameChar c || c = ':'
  let valid := match splitChar ':' name with
    | [a] => isSimpleName a
    | [a, b] => isSimpleName a && isSimpleName b
    | _ => false
  if valid then some (String.ofList name, cs.drop name.length) else none

/-- The named references. -/
def named : List (String × Char) :=
  [("lt", '<'), ("gt", '>'), ("amp", '&'), ("quot", '"'), ("apos", '\'')]

/-- The character with a number, if texts may hold it. -/
def character? (n : Nat) : Option Char :=
  if h : n.isValidChar then
    let c := Char.ofNatAux n h
    if isAllowed c then some c else none
  else none

/-- A number in a base, from digits that are all valid. -/
def numeral? (base : Nat) (cs : List Char) : Option Nat :=
  if cs = [] then none
  else cs.foldlM (fun n c => do
    let d ← hexDigit? c
    if d < base then pure (n * base + d) else none) 0

/-- The character of a reference between ampersand and semicolon. -/
def referenced? (cs : List Char) : Option Char :=
  match cs with
  | '#' :: 'x' :: digits => numeral? 16 digits >>= character?
  | '#' :: digits => numeral? 10 digits >>= character?
  | name => named.lookup (String.ofList name)

/-- Texts that a document gives names to. -/
abbrev Entities := List (String × List Char)

/-- The number of characters of all named texts. -/
def Entities.size (entities : Entities) : Nat := entities.foldl (fun n e => n + e.2.length) 0

/-- The value of an attribute: its text with references resolved and separators as spaces. What a
reference stands for may hold no tag. -/
def attributeText? (entities : Entities) : (fuel : Nat) → List Char → Option (List Char)
  | 0, _ => none
  | _ + 1, [] => some []
  | fuel + 1, '&' :: r => do
    let (reference, rest) ← cutChars? [';'] r
    let others ← attributeText? entities fuel rest
    match referenced? reference with
    | some c => pure (c :: others)
    | none =>
      let text ← entities.lookup (String.ofList reference)
      if text.contains '<' then none
      pure ((← attributeText? entities fuel text) ++ others)
  | fuel + 1, c :: r => do
    pure ((if isSpace c then ' ' else c) :: (← attributeText? entities fuel r))

/-- The attributes of a tag up to its end, and whether the tag closes itself. -/
def attributes? (entities : Entities) :
    (fuel : Nat) → List Char → Option (Attributes × Bool × List Char)
  | 0, _ => none
  | fuel + 1, cs =>
    match skip cs with
    | '>' :: r => some ([], false, r)
    | '/' :: '>' :: r => some ([], true, r)
    | rest => do
      if rest.length = cs.length then none
      let (name, r) ← name? rest
      let r ← after? ['='] (skip r)
      let (quote, r) ← match skip r with
        | '"' :: r => some ('"', r)
        | '\'' :: r => some ('\'', r)
        | _ => none
      let (value, r) ← cutChars? [quote] r
      if value.contains '<' then none
      let value ← attributeText? entities (value.length + entities.size + 1) value
      let (others, closed, r) ← attributes? entities fuel r
      pure ((name, some (String.ofList value)) :: others, closed, r)

/-- Whether a text can be a processing instruction: a simple name that is not reserved, then
nothing or a separator. -/
def isInstruction (cs : List Char) : Bool :=
  let target := cs.takeWhile isNameChar
  isSimpleName target && target.map Char.toLower != ['x', 'm', 'l']
    && ((cs.drop target.length).head?.map isSpace).getD true

/-- A token that begins with an angle bracket, behind the bracket. -/
def tag? (entities : Entities) (cs : List Char) : Option (Token × List Char) :=
  match cs with
  | '!' :: '-' :: '-' :: r => do
    let (content, r) ← cutChars? ['-', '-'] r
    pure (.comment (String.ofList content), ← after? ['>'] r)
  | '?' :: r => do
    let (content, r) ← cutChars? ['?', '>'] r
    if isInstruction content then pure (.instruction (String.ofList content), r) else none
  | '/' :: r => do
    let (name, r) ← name? r
    pure (.closing name, ← after? ['>'] (skip r))
  | r => do
    match after? "![CDATA[".toList r with
    | some r => do
      let (content, r) ← cutChars? [']', ']', '>'] r
      pure (.text (String.ofList content), r)
    | none => do
      let (name, r) ← name? r
      let (attributes, closed, r) ← attributes? entities (r.length + 1) r
      pure (.opening name attributes closed, r)

/-- A text up to the next tag or reference. -/
def textToken? (cs : List Char) : Option (Token × List Char) :=
  let content := cs.takeWhile fun c => c != '<' && c != '&'
  if (cutChars? [']', ']', '>'] content).isSome then none
  else some (.text (String.ofList content), cs.drop content.length)

/-- The tokens of a text. A reference to a named text stands for the tokens of that. -/
def tokens? (entities : Entities) : (fuel : Nat) → List Char → Option (List Token)
  | 0, _ => none
  | _ + 1, [] => some []
  | fuel + 1, '<' :: r => do
    let (token, rest) ← tag? entities r
    pure (token :: (← tokens? entities fuel rest))
  | fuel + 1, '&' :: r => do
    let (reference, rest) ← cutChars? [';'] r
    let here ← match referenced? reference with
      | some c => some [.text (String.ofList [c])]
      | none => do tokens? entities fuel (← entities.lookup (String.ofList reference))
    pure (here ++ (← tokens? entities fuel rest))
  | fuel + 1, c :: r => do
    let (token, rest) ← textToken? (c :: r)
    pure (token :: (← tokens? entities fuel rest))

end EntityQuery.Xml
