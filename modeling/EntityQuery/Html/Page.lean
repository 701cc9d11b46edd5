import EntityQuery.Html.Structure
import EntityQuery.Html.Token

/-!
# Pages

The tree of an HTML text, with the elements that may be left out filled in. A text without any
element has no tree.
-/

namespace EntityQuery.Html

open Text Markup

/-- An element that is not closed yet, its content last first. -/
structure OpenElement where
  name : String
  attributes : Attributes := []
  content : List Node := []

/-- The element, closed. -/
def OpenElement.close (e : OpenElement) : Node := .element e.name e.attributes e.content.reverse

/-- How deep elements are nested at most. -/
def depthLimit : Nat := 256

/-- A page that is being built: the names of the open tags and the open elements, innermost first,
the finished elements at the top, whether there was a head or a body, and how many misplaced tags
wait for their closing tags. There are more open tags than elements when these are nested too
deeply. -/
structure Draft where
  names : List String := []
  stack : List OpenElement := []
  finished : List Node := []
  sawHead : Bool := false
  sawBody : Bool := false
  misplaced : Nat := 0

namespace Draft

/-- The name of the innermost open tag. -/
def current? (d : Draft) : Option String := d.names.head?

/-- Adds a node to the innermost open element. Outside of all only elements count. -/
def add (d : Draft) (n : Node) : Draft :=
  match d.stack with
  | e :: rest => { d with stack := { e with content := n :: e.content } :: rest }
  | [] => if n.isElement then { d with finished := n :: d.finished } else d

/-- Opens an element. -/
def push (d : Draft) (name : String) (attributes : Attributes := []) : Draft :=
  { d with
    names := name :: d.names
    stack :=
      if d.stack.length < depthLimit then { name := name, attributes := attributes } :: d.stack
      else d.stack
    sawHead := d.sawHead || name = "head" || name = "body"
    sawBody := d.sawBody || name = "body" }

/-- Closes the innermost open element. -/
def pop (d : Draft) : Draft :=
  let d := { d with names := d.names.drop 1 }
  match d.stack with
  | e :: rest => { d with stack := rest }.add e.close
  | [] => d

/-- Closes several elements. -/
def popMany : (n : Nat) → Draft → Draft
  | 0, d => d
  | n + 1, d => popMany n d.pop

/-- Closes the elements that an opening tag closes. -/
def autoClose (d : Draft) (tag : String) : Draft :=
  d.popMany (d.names.takeWhile (closes tag)).length

/-- Opens the root where it is missing. -/
def ensureRoot (d : Draft) : Draft := if d.names.isEmpty then d.push "html" else d

/-- Opens the elements around an opening tag that were left out. -/
def imply (d : Draft) (tag : String) : Draft :=
  if tag = "html" then d
  else
    let d := d.ensureRoot
    if tag = "body" ∨ tag = "head" then d
    else if d.names.length ≤ 1 ∧ tag ∈ headElements then
      if d.sawHead then d else d.push "head"
    else if tag ∈ frameElements ∨ d.sawBody ∨ "body" ∈ d.names ∨ "head" ∈ d.names then d
    else d.push "body"

/-- Whether an opening tag is misplaced. -/
def isMisplaced (d : Draft) (tag : String) : Bool :=
  match tag with
  | "html" => !d.names.isEmpty
  | "head" => d.names.length != 1
  | "body" => d.names.contains "body"
  | _ => false

/-- Makes a place for an opening tag. -/
def prepare (d : Draft) (tag : String) : Draft := (d.autoClose tag).imply tag

/-- Takes in an opening tag. -/
def opening (d : Draft) (tag : String) (attributes : Attributes) (closed : Bool) : Draft :=
  let d := d.prepare tag
  if d.isMisplaced tag then
    let d := { d with misplaced := d.misplaced + 1 }
    if closed then d.pop else d
  else
    let attributes := attributes.map fun a =>
      if a.2.isNone && bareAttributes.contains a.1 then (a.1, some a.1) else a
    let d := d.push tag attributes
    if closed || emptyElements.contains tag then d.pop else d

/-- Takes in a closing tag. It passes elements that do not hold more strongly than its own. -/
def closing (d : Draft) (tag : String) : Draft :=
  if 0 < d.misplaced ∧ (tag = "html" ∨ tag = "body" ∨ tag = "head") then
    { d with misplaced := d.misplaced - 1 }
  else if tag ∉ d.names then d
  else
    let passed := d.names.takeWhile (· != tag)
    if passed.any fun name => strength tag < strength name then d
    else d.popMany (passed.length + 1)

/-- Adds a text to the innermost open element. -/
def addText (d : Draft) (content : String) : Draft :=
  match d.stack with
  | [] => d
  | e :: rest =>
    let content := match e.content with
      | .text before :: others => .text (before ++ content) :: others
      | others => .text content :: others
    { d with stack := { e with content := content } :: rest }

/-- Makes a place for a text, which stands neither in the head nor beside it. -/
def prepareText (d : Draft) : Draft :=
  (if d.current? = some "head" then d.autoClose "p" else d).imply "p"

/-- Takes in a text. Separators at its start may stand beside the head and in it. -/
def text (d : Draft) (content : String) : Draft :=
  if d.current? = none ∨ d.current? = some "html" ∨ d.current? = some "head" then
    let blank := content.toList.takeWhile isSpace
    let rest := content.toList.drop blank.length
    let d := if blank = [] then d else d.addText (String.ofList blank)
    if rest = [] then d else d.prepareText.addText (String.ofList rest)
  else d.addText content

/-- Takes in a token. -/
def take (d : Draft) : Token → Draft
  | .opening name attributes closed => d.opening name attributes closed
  | .cut name => d.prepare name
  | .closing name => d.closing name
  | .text content => d.text content
  | .comment content => d.add (.comment content)

/-- The first element at the top, with all elements closed. -/
def root? (d : Draft) : Option Node := (d.popMany d.names.length).finished.getLast?

end Draft

/-- The tree of a text. -/
def page? (text : String) : Option Node := ((tokensOf text).foldl Draft.take {}).root?

end EntityQuery.Html
