import EntityQuery.Html.Structure
import EntityQuery.Markup.Node
import EntityQuery.Url.Percent

/-!
# Written markup

The text of a node: tags and attributes as they are written, references for the characters that
mark up, and links with percent signs for what they may not hold.
-/

namespace EntityQuery.Html

open Text Markup

/-- A character of a text as it is written. -/
def writtenChar (c : Char) : String :=
  match c with
  | '&' => "&amp;"
  | '<' => "&lt;"
  | '>' => "&gt;"
  | c => String.singleton c

/-- A text as it is written. -/
def writtenText (s : String) : String := join "" (s.toList.map writtenChar)

/-- How much of a value from its start on is written as it is: a script between braces behind an
ampersand, or an instruction to the server in a comment. -/
def verbatimLength (cs : List Char) : Nat :=
  match cs with
  | '&' :: '\x7b' :: r => if r.contains '\x7d' then (r.takeWhile (· != '\x7d')).length + 3 else 0
  | '<' :: '!' :: '-' :: '-' :: _ =>
    match cutChars? ['-', '-', '>'] (cs.drop 2) with
    | some (content, _) => content.length + 5
    | none => 0
  | _ => 0

/-- The value of an attribute as it is written. -/
def writtenValue : (fuel : Nat) → List Char → String
  | 0, _ => ""
  | _ + 1, [] => ""
  | fuel + 1, c :: r =>
    let n := verbatimLength (c :: r)
    if n = 0 then writtenChar c ++ writtenValue fuel r
    else String.ofList ((c :: r).take n) ++ writtenValue fuel ((c :: r).drop n)

/-- Whether a character of a link stays as it is. -/
def keptInLinks (c : Char) : Bool :=
  "-_.!~*'()@\"#$%&+,/:;<=>?[\\]^\x60\x7b|\x7d".toList.contains c

/-- Whether the value of an attribute is a link. -/
def isLink (element name : String) : Bool :=
  name = "href" || name = "action" || name = "src" || (name = "name" && element = "a")

/-- A value between quotes that it does not hold. -/
def quotedValue (s : String) : String :=
  if !contains "\"" s then "\"" ++ s ++ "\""
  else if !contains "'" s then "'" ++ s ++ "'"
  else "\"" ++ Text.replace "\"" "&quot;" s ++ "\""

/-- An attribute as it is written. -/
def writtenAttribute (element : String) (a : String × Option String) : String :=
  match a.2 with
  | none => " " ++ a.1
  | some value =>
    if bareAttributes.contains a.1 then " " ++ a.1
    else
      let text := writtenValue value.length value.toList
      let text :=
        if isLink element a.1 then
          Url.encode keptInLinks (String.ofList (text.toList.dropWhile fun c =>
            c = ' ' || c = '\t' || c = '\n' || c = '\r'))
        else text
      " " ++ a.1 ++ "=" ++ quotedValue text

mutual

/-- A node as it is written; the content of some elements is written as it is. -/
def written (raw : Bool) : Node → String
  | .element name attributes children =>
    let start := "<" ++ name ++ join "" (attributes.map (writtenAttribute name)) ++ ">"
    if emptyElements.contains name then start
    else if children.isEmpty && unclosedElements.contains name then start
    else
      start ++ writtenNodes (name = "script" || name = "style") children ++ "</" ++ name ++ ">"
  | .text content => if raw then content else writtenText content
  | .comment content => "<!--" ++ content ++ "-->"
  | .instruction content => "<?" ++ content ++ ">"

/-- Nodes as they are written. -/
def writtenNodes (raw : Bool) : List Node → String
  | [] => ""
  | n :: rest => written raw n ++ writtenNodes raw rest

end

end EntityQuery.Html
