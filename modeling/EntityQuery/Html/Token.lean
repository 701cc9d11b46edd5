import EntityQuery.Html.Reference
import EntityQuery.Html.Structure
import EntityQuery.Markup.Node

/-!
# HTML tokens

The tags, texts and comments of an HTML text. Every text has tokens: what cannot be a tag is text,
a declaration that is not known is a comment, and a tag that the end of the text cuts off is left
out. The content of some elements is text up to their closing tag (`ContentModel`).
-/

namespace EntityQuery.Html

open Text Markup

/-- A token of an HTML text. A tag is `closed` when it ends in a slash. An opening tag is `cut` when
the text ends in it. -/
inductive Token where
  | opening (name : String) (attributes : Attributes) (closed : Bool)
  | cut (name : String)
  | closing (name : String)
  | text (content : String)
  | comment (content : String)
  deriving DecidableEq, Repr, Inhabited

/-! ## Names and attributes -/

/-- How many bytes of a name are kept. -/
def nameLimit : Nat := 100

/-- The characters of a name that fit into its bytes, in lower case. -/
def keptName (cs : List Char) : String :=
  let (_, kept) := cs.foldl (fun (size, kept) c =>
    if size + c.utf8Size ≤ nameLimit then (size + c.utf8Size, c.toLower :: kept) else (size, kept))
    (0, [])
  String.ofList kept.reverse

/-- Whether a name ends before the character. -/
def endsName (c : Char) : Bool := isSpace c || c = '/' || c = '>'

/-- The name of a tag, and what follows it. -/
def tagName (cs : List Char) : String × List Char :=
  let name := cs.takeWhile (!endsName ·)
  (keptName name, cs.drop name.length)

/-- The name of an attribute, and what follows it; it may begin with an equals sign. -/
def attributeName (first : Char) (cs : List Char) : String × List Char :=
  let name := cs.takeWhile fun c => !(endsName c || c = '=')
  (keptName (first :: name), cs.drop name.length)

/-- The value of an attribute behind the equals sign: quoted, or up to a separator. -/
def attributeValue (cs : List Char) : String × List Char :=
  let quoted (quote : Char) (r : List Char) : String × List Char :=
    let value := r.takeWhile (· != quote)
    (valueOf value, r.drop (value.length + 1))
  match cs with
  | '"' :: r => quoted '"' r
  | '\'' :: r => quoted '\'' r
  | cs =>
    let value := cs.takeWhile fun c => !isSpace c && c != '>'
    (valueOf value, cs.drop value.length)

/-- The attributes of a tag up to its end. Of several with one name the first counts, and a slash
that does not end the tag separates. -/
def attributes : (fuel : Nat) → List Char → Attributes × List Char
  | 0, cs => ([], cs)
  | fuel + 1, cs =>
    match skip cs with
    | [] => ([], [])
    | '>' :: r => ([], '>' :: r)
    | '/' :: '>' :: r => ([], '/' :: '>' :: r)
    | '/' :: r => attributes fuel r
    | c :: r =>
      let (name, r) := attributeName c r
      let (value, rest) := match skip r with
        | '=' :: r =>
          let (value, rest) := attributeValue (skip r)
          (some value, rest)
        | _ => (none, r)
      let (others, rest) := attributes fuel rest
      ((name, value) :: others.filter (·.1 != name), rest)

/-! ## Texts of elements -/

/-- Whether a text begins with a word in any case, behind which a name ends. -/
def beginsName (word : String) (cs : List Char) : Bool :=
  (cs.take word.length).map Char.toLower == word.toList
    && ((cs.drop word.length).head?.map endsName).getD false

/-- Whether a text begins with the closing tag of an element. -/
def beginsClosing (name : String) (cs : List Char) : Bool :=
  match cs with
  | '<' :: '/' :: r => beginsName name r
  | _ => false

/-- The text up to the closing tag of an element, and what follows it. -/
def rawText (name : String) : List Char → List Char × List Char
  | [] => ([], [])
  | c :: r =>
    if beginsClosing name (c :: r) then ([], c :: r)
    else
      let (content, rest) := rawText name r
      (c :: content, rest)

/-- Where in a script a place is: in no comment, in one, or in a script within one, where a closing
tag does not close the script. -/
inductive ScriptPlace where
  | code
  | comment
  | inner
  deriving DecidableEq, Repr, Inhabited

/-- The place behind the first character of a text. The two hyphens that begin a comment may be
those that end it. -/
def ScriptPlace.next (p : ScriptPlace) (cs : List Char) : ScriptPlace :=
  match p, cs with
  | .code, '<' :: '!' :: '-' :: '-' :: _ => .comment
  | .comment, '-' :: '-' :: '>' :: _ => .code
  | .inner, '-' :: '-' :: '>' :: _ => .code
  | .comment, '<' :: r => if beginsName "script" r then .inner else .comment
  | .inner, cs => if beginsClosing "script" cs then .comment else .inner
  | p, _ => p

/-- The text of a script from a place on up to its closing tag, and what follows it. -/
def scriptText (p : ScriptPlace) : List Char → List Char × List Char
  | [] => ([], [])
  | c :: r =>
    if p ≠ .inner ∧ beginsClosing "script" (c :: r) then ([], c :: r)
    else
      let (content, rest) := scriptText (p.next (c :: r)) r
      (c :: content, rest)

/-- The tokens of the content of an element whose content is text, and what follows it. -/
def contentTokens (name : String) (cs : List Char) : List Token × List Char :=
  let (content, rest) := match contentModel name with
    | .markup => ("", cs)
    | .text =>
      let (content, rest) := rawText name cs
      (textOf content, rest)
    | .raw =>
      let (content, rest) := rawText name cs
      (String.ofList content, rest)
    | .script =>
      let (content, rest) := scriptText .code cs
      (String.ofList content, rest)
    | .plain => (String.ofList cs, [])
  (if content = "" then [] else [.text content], rest)

/-! ## Markup -/

/-- What follows the next angle bracket. -/
def afterBracket (cs : List Char) : List Char := (cs.dropWhile (· != '>')).drop 1

/-- A comment that ends with the next angle bracket, and what follows it. -/
def looseComment (cs : List Char) : List Token × List Char :=
  let content := cs.takeWhile (· != '>')
  ([.comment (String.ofList content)], cs.drop (content.length + 1))

/-- The content of a comment up to its end mark or the end of the text, which may cut the end mark
off, and what follows it. -/
def commentContent : List Char → List Char × List Char
  | [] | ['-'] | ['-', '-'] | ['-', '-', '!'] => ([], [])
  | '-' :: '-' :: '>' :: r => ([], r)
  | '-' :: '-' :: '!' :: '>' :: r => ([], r)
  | c :: r =>
    let (content, rest) := commentContent r
    (c :: content, rest)

/-- A comment behind its mark, and what follows it. -/
def comment (cs : List Char) : List Token × List Char :=
  match cs with
  | '>' :: r => ([.comment ""], r)
  | '-' :: '>' :: r => ([.comment ""], r)
  | cs =>
    let (content, rest) := commentContent cs
    ([.comment (String.ofList content)], rest)

/-- The tokens of markup behind an exclamation mark, and what follows it. -/
def declaration (cs : List Char) : List Token × List Char :=
  match cs with
  | '-' :: '-' :: r => comment r
  | cs =>
    if (cs.take 7).map Char.toLower == "doctype".toList then ([], afterBracket cs)
    else looseComment cs

/-- The tokens of an opening tag behind its angle bracket and of its content, where that is text,
and what follows them. -/
def openingTag (cs : List Char) : List Token × List Char :=
  let (name, rest) := tagName cs
  let (attributes, rest) := attributes (rest.length + 1) rest
  match rest with
  | '/' :: '>' :: r => ([.opening name attributes true], r)
  | '>' :: r =>
    let (content, rest) := contentTokens name r
    (.opening name attributes false :: content, rest)
  | _ => ([.cut name], [])

/-- The tokens of a closing tag behind its slash, and what follows it. -/
def closingTag (cs : List Char) : List Token × List Char :=
  match cs with
  | [] => ([.text "</"], [])
  | '>' :: r => ([], r)
  | c :: r =>
    if c.isAlpha then
      let (name, rest) := tagName (c :: r)
      let (_, rest) := attributes (rest.length + 1) rest
      match rest with
      | [] => ([], [])
      | rest => ([.closing name], afterBracket rest)
    else looseComment (c :: r)

/-- The tokens of markup behind its angle bracket, and what follows it. -/
def markup (cs : List Char) : List Token × List Char :=
  match cs with
  | '!' :: r => declaration r
  | '?' :: r => looseComment ('?' :: r)
  | '/' :: r => closingTag r
  | c :: r => if c.isAlpha then openingTag (c :: r) else ([.text "<"], c :: r)
  | [] => ([.text "<"], [])

/-! ## Texts -/

/-- The tokens of a text. -/
def tokens : (fuel : Nat) → List Char → List Token
  | 0, _ => []
  | _ + 1, [] => []
  | fuel + 1, '<' :: r =>
    let (found, rest) := markup r
    found ++ tokens fuel rest
  | fuel + 1, cs =>
    let content := cs.takeWhile (· != '<')
    .text (textOf content) :: tokens fuel (cs.drop content.length)

/-- The characters of a text as they are read: with plain line ends, and with the mark of what is
missing for the character zero. -/
def plainCharacters : List Char → List Char
  | '\r' :: '\n' :: r => '\n' :: plainCharacters r
  | '\r' :: r => '\n' :: plainCharacters r
  | '\x00' :: r => '\uFFFD' :: plainCharacters r
  | c :: r => c :: plainCharacters r
  | [] => []

/-- The characters of a text; when all are of one byte, as Windows reads these. A mark of the byte
order is left out. -/
def decoded (cs : List Char) : List Char :=
  match cs with
  | '\uFEFF' :: r => r
  | cs =>
    if cs.all (·.toNat < 0x100) then
      cs.map fun c => (windowsCharacters.lookup c.toNat).getD c
    else cs

/-- The tokens of a text. -/
def tokensOf (text : String) : List Token :=
  let cs := plainCharacters (decoded text.toList)
  tokens (cs.length + 1) cs

end EntityQuery.Html
