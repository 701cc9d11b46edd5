import EntityQuery.Text.Casing
import EntityQuery.Text.Encoding
import EntityQuery.Xml.DocumentType

/-!
# XML documents

The root element of an XML text. Names are given with their namespaces, as `\x7bspace\x7dlocal`,
and a text with unbalanced tags, unknown namespaces or repeated attributes has no root.
-/

namespace EntityQuery.Xml

open Text Markup

/-- Namespaces by their short names; the empty one is that of elements without short name. -/
abbrev Scope := List (String × String)

/-- The namespaces that are always there. -/
def Scope.initial : Scope := [("", ""), ("xml", "xml")]

/-- A name with its namespace. -/
def inNamespace (space localPart : String) : String :=
  if space = "" then localPart else "\x7b" ++ space ++ "\x7d" ++ localPart

/-- The full name of an element. -/
def Scope.elementName? (scope : Scope) (name : String) : Option String :=
  match cut? ":" name with
  | some (short, localPart) => (scope.lookup short).map fun space => inNamespace space localPart
  | none => some (inNamespace ((scope.lookup "").getD "") name)

/-- The full name of an attribute. -/
def Scope.attributeName? (scope : Scope) (name : String) : Option String :=
  match cut? ":" name with
  | some (short, localPart) => (scope.lookup short).map fun space => inNamespace space localPart
  | none => some name

/-- The short name that an attribute declares. -/
def declared? (name : String) : Option String :=
  if name = "xmlns" then some ""
  else
    match cut? ":" name with
    | some ("xmlns", short) => some short
    | _ => none

/-- The namespaces inside an element; a short name cannot be declared without namespace. -/
def Scope.enter? (scope : Scope) (attributes : Attributes) : Option Scope :=
  attributes.foldlM (fun scope (name, value) =>
    match declared? name with
    | none => some scope
    | some short =>
      let space := value.getD ""
      if short = "xmlns" ∨ (short ≠ "" ∧ space = "") then none else some ((short, space) :: scope))
    scope

/-- The attributes of an element with their full names. -/
def Scope.attributes? (scope : Scope) (attributes : Attributes) : Option Attributes := do
  let own ← (attributes.filter fun a => (declared? a.1).isNone).mapM fun a => do
    pure (← scope.attributeName? a.1, a.2)
  if (own.map Prod.fst).Nodup ∧ (attributes.map Prod.fst).Nodup then pure own else none

mutual

/-- The element of an opening tag, and the tokens behind it. -/
def element? (scope : Scope) (name : String) (attributes : Attributes) (closed : Bool) :
    (fuel : Nat) → List Token → Option (Node × List Token)
  | 0, _ => none
  | fuel + 1, tokens => do
    let inner ← scope.enter? attributes
    let fullName ← inner.elementName? name
    let own ← inner.attributes? attributes
    if closed then pure (.element fullName own [], tokens)
    else do
      let (children, rest) ← content? inner fuel tokens
      match rest with
      | .closing other :: rest =>
        if other = name then pure (.element fullName own children, rest) else none
      | _ => none

/-- The nodes up to a closing tag or the end. -/
def content? (scope : Scope) : (fuel : Nat) → List Token → Option (List Node × List Token)
  | 0, _ => none
  | _ + 1, [] => some ([], [])
  | fuel + 1, token :: rest => do
    match token with
    | .closing _ => pure ([], token :: rest)
    | .opening name attributes closed =>
      let (node, rest) ← element? scope name attributes closed fuel rest
      let (nodes, rest) ← content? scope fuel rest
      pure (node :: nodes, rest)
    | .text content => follow scope fuel (.text content) rest
    | .comment content => follow scope fuel (.comment content) rest
    | .instruction content => follow scope fuel (.instruction content) rest

/-- A node and those that follow it. -/
def follow (scope : Scope) : (fuel : Nat) → Node → List Token → Option (List Node × List Token)
  | 0, _, _ => none
  | fuel + 1, node, rest => do
    let (nodes, rest) ← content? scope fuel rest
    pure (node :: nodes, rest)

end

/-- Whether a token may stand outside the root. -/
def Token.isMisc : Token → Bool
  | .comment _ | .instruction _ => true
  | .text content => content.toList.all isSpace
  | _ => false

/-- How deep elements may be nested. -/
def depthLimit : Nat := 256

/-- The depth behind a token, and the greatest so far. -/
def deepen (depths : Nat × Nat) : Token → Nat × Nat
  | .opening _ _ true => (depths.1, max depths.2 (depths.1 + 1))
  | .opening _ _ false => (depths.1 + 1, max depths.2 (depths.1 + 1))
  | .closing _ => (depths.1 - 1, depths.2)
  | _ => depths

/-- The root in the tokens of a document. -/
def root? (tokens : List Token) : Option Node := do
  if depthLimit < (tokens.foldl deepen (0, 0)).2 then none
  match tokens with
  | .opening name attributes closed :: rest =>
    let (node, rest) ← element? .initial name attributes closed (3 * rest.length + 3) rest
    if rest.all Token.isMisc then pure node else none
  | _ => none

/-- The text of a document from its root on, and the texts that it gives names to. What precedes
the root are comments, processing instructions and at most one document type. -/
def fromRoot? : (fuel : Nat) → (type : Option Entities) → List Char →
    Option (Entities × List Char)
  | 0, _, _ => none
  | fuel + 1, type, cs =>
    let cs := skip cs
    match cs with
    | '<' :: '!' :: '-' :: _ | '<' :: '?' :: _ => do
      let (_, rest) ← tag? [] (cs.drop 1)
      fromRoot? fuel type rest
    | _ =>
      match after? "<!DOCTYPE".toList cs, type with
      | none, type => some (type.getD [], cs)
      | some _, some _ => none
      | some rest, none => do
        let (_, r) ← name? (skip rest)
        let (entities, r) ← documentType? (r.length + 1) r
        fromRoot? fuel (some entities) r

/-- The settings of an XML declaration, behind its name. -/
def settings? : (fuel : Nat) → List Char → Option (List (String × String) × List Char)
  | 0, _ => none
  | fuel + 1, cs =>
    match skip cs with
    | '?' :: '>' :: r => some ([], r)
    | rest => do
      if rest.length = cs.length then none
      let (name, r) ← name? rest
      let r ← after? ['='] (skip r)
      let (quote, r) ← match skip r with
        | '"' :: r => some ('"', r)
        | '\'' :: r => some ('\'', r)
        | _ => none
      let (value, r) ← cutChars? [quote] r
      let (others, r) ← settings? fuel r
      pure ((name, String.ofList value) :: others, r)

/-- Whether an XML declaration may have the settings: a version, then an encoding, then whether
the document stands alone. -/
def areSettings (settings : List (String × String)) : Bool :=
  let versionOk := match settings.lookup "version" with
    | some v => startsWith "1." v
    | none => false
  let aloneOk := match settings.lookup "standalone" with
    | some v => v = "yes" || v = "no"
    | none => true
  versionOk && aloneOk && settings.map Prod.fst ∈
    [["version"], ["version", "encoding"], ["version", "standalone"],
      ["version", "encoding", "standalone"]]

/-- The names of the encoding that has one byte for each of the first 256 characters. -/
def latinEncodings : List String :=
  ["iso-8859-1", "iso8859-1", "iso_8859-1", "iso-latin-1", "latin1", "l1", "cp819", "ibm819"]

/-- The names of the western encoding of Windows. -/
def windowsEncodings : List String := ["windows-1252", "cp1252", "ms-ansi"]

/-- Further encodings in which texts of ASCII characters alone are as they are. -/
def asciiEncodings : List String :=
  ["ascii", "us-ascii", "iso646-us", "iso-8859-2", "iso-8859-3", "iso-8859-4", "iso-8859-5",
   "iso-8859-6", "iso-8859-7", "iso-8859-8", "iso-8859-9", "iso-8859-10", "iso-8859-11",
   "iso-8859-13", "iso-8859-14", "iso-8859-15", "iso-8859-16", "latin2", "latin3", "latin4",
   "latin5", "latin6", "latin7", "latin8", "latin10", "windows-1250", "windows-1251",
   "windows-1253", "windows-1254", "windows-1255", "windows-1256", "windows-1257",
   "windows-1258", "cp1250", "cp1251", "cp1253", "cp1254", "cp1255", "cp1256", "cp1257",
   "cp1258", "cp850", "cp862", "cp866", "cp874", "cp932", "cp936", "cp949", "cp950", "koi8-r",
   "koi8-u", "koi8-ru", "koi8-t", "macintosh", "maccyrillic", "big5", "big5-hkscs", "gbk",
   "gb2312", "gb18030", "euc-cn", "euc-tw", "euc-jp", "euc-kr", "shift_jis", "shift-jis", "sjis",
   "iso-2022-jp", "iso-2022-kr", "iso-2022-cn", "tis-620", "viscii", "tcvn", "johab"]

/-- A text read in an encoding, where its bytes are those of UTF-8. What is in none of the
encodings cannot be read. -/
def inEncoding? (encoding : String) (cs : List Char) : Option (List Char) :=
  if encoding = "utf-8" ∨ encoding = "utf8" then some cs
  else if encoding ∈ latinEncodings then some ((utf8 cs).map fun b => Char.ofNat b.toNat)
  else if encoding ∈ windowsEncodings then (utf8 cs).mapM fun b => windowsCharacter? b.toNat
  else if encoding ∈ asciiEncodings ∧ cs.all (·.toNat < 0x80) then some cs
  else none

/-- The text behind the declaration, read in the encoding that it declares. -/
def body? (cs : List Char) : Option (List Char) :=
  match after? "<?xml".toList cs with
  | some (c :: r) =>
    if isSpace c then do
      let (settings, r) ← settings? (r.length + 2) (c :: r)
      if !areSettings settings then none
      inEncoding? (lower ((settings.lookup "encoding").getD "utf-8")) r
    else some cs
  | _ => some cs

/-- A text with plain line ends. -/
def plainLines : List Char → List Char
  | '\r' :: '\n' :: r => '\n' :: plainLines r
  | '\r' :: r => '\n' :: plainLines r
  | c :: r => c :: plainLines r
  | [] => []

/-- The root element of a text. -/
def read? (text : String) : Option Node := do
  let cs := match text.toList with
    | '\uFEFF' :: r => r
    | cs => cs
  let cs ← body? (plainLines cs)
  if !cs.all isAllowed then none
  let (entities, root) ← fromRoot? (cs.length + 1) none cs
  root? (← tokens? entities (cs.length + 1) root)

end EntityQuery.Xml
