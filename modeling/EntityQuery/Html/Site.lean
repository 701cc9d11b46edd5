import EntityQuery.Html.Page

/-!
# Sites

A node together with its place in a page, so that its neighbours and the elements around it can be
reached. `Site.ofText?` gives the site that selectors start from: the page itself, or the content of
a text that is only a part of one.
-/

namespace EntityQuery.Html

open Text Markup

/-- A node and what surrounds it; `before` is nearest first. -/
inductive Site where
  | top (node : Node)
  | inside (around : Site) (before : List Node) (node : Node) (after : List Node)
  deriving Repr, Inhabited

namespace Site

/-- The node. -/
def node : Site → Node
  | .top node => node
  | .inside _ _ node _ => node

/-- The site around the node. -/
def around? : Site → Option Site
  | .top _ => none
  | .inside around _ _ _ => some around

/-- The nodes before the node, nearest first. -/
def before : Site → List Node
  | .top _ => []
  | .inside _ before _ _ => before

/-- The nodes behind the node. -/
def after : Site → List Node
  | .top _ => []
  | .inside _ _ _ after => after

/-- The place in the order of the page: at each level the number of nodes before. -/
def place : Site → List Nat
  | .top _ => []
  | .inside around before _ _ => place around ++ [before.length]

/-- The name of an element. -/
def name (s : Site) : String := s.node.name?.getD ""

/-- The sites of nodes that stand behind one another. -/
def row (around : Site) : (before : List Node) → List Node → List Site
  | _, [] => []
  | before, n :: rest => .inside around before n rest :: row around (n :: before) rest

/-- The elements in an element. -/
def children (s : Site) : List Site := (row s [] s.node.children).filter (·.node.isElement)

/-- The elements behind an element, nearest first. -/
def following (s : Site) : List Site :=
  match s with
  | .top _ => []
  | .inside around before node after =>
    (row around (node :: before) after).filter (·.node.isElement)

/-- The sites of nodes that stand before one another, nearest first. -/
def rowBack (around : Site) : (after : List Node) → List Node → List Site
  | _, [] => []
  | after, n :: rest => .inside around rest n after :: rowBack around (n :: after) rest

/-- The elements before an element, nearest first. -/
def preceding (s : Site) : List Site :=
  match s with
  | .top _ => []
  | .inside around before node after =>
    (rowBack around (node :: after) before).filter (·.node.isElement)

/-- The elements around an element, nearest first. -/
def ancestors : Site → List Site
  | .top _ => []
  | .inside around _ _ _ => around :: ancestors around

mutual

/-- The elements in a node, in order, given its site. -/
def descendantsOf (s : Site) : Node → List Site
  | .element _ _ children => descendantsOfNodes s [] children
  | .text _ | .comment _ | .instruction _ => []

/-- The elements among nodes and in them, in order. -/
def descendantsOfNodes (around : Site) (before : List Node) : List Node → List Site
  | [] => []
  | n :: rest =>
    let s := Site.inside around before n rest
    (if n.isElement then [s] else []) ++ descendantsOf s n
      ++ descendantsOfNodes around (n :: before) rest

end

/-- The elements in an element, in order. -/
def descendants (s : Site) : List Site := s.descendantsOf s.node

/-- Whether one place comes before another; an element comes before its content. -/
def precedes : List Nat → List Nat → Bool
  | [], _ => true
  | _ :: _, [] => false
  | a :: r, b :: s => a < b || (a == b && precedes r s)

/-- The sites in the order of the page, each once. -/
def inOrder (sites : List Site) : List Site :=
  let sorted := (sites.map fun s => (s.place, s)).mergeSort fun a b => precedes a.1 b.1
  (sorted.foldr (fun s done =>
    match done with
    | t :: _ => if s.1 = t.1 then done else s :: done
    | [] => [s]) []).map Prod.snd

/-- Whether a text says that it is a whole page. -/
def isWholePage (text : String) : Bool :=
  match text.toList.dropWhile isBlank with
  | '<' :: r =>
    let begins (word : String) : Bool := (r.take word.length).map Char.toLower == word.toList
    begins "html" || begins "!doctype"
  | _ => false

/-- The children of an element with a name, with their sites. -/
def childrenNamed (s : Site) (name : String) : List Site := s.children.filter (·.name == name)

/-- Whether an element holds a block. -/
def holdsBlock (s : Site) : Bool := s.descendants.any fun d => blockElements.contains d.name

/-- The content of a body as one element: the only element in it, or the body itself as a block or
a span. -/
def content (body : Site) : Site :=
  let nodes := body.node.children
  let blankText : Bool := nodes.all fun
    | .text content => trim content = ""
    | _ => true
  match (row body [] nodes).filter (fun s => !(s.node matches .text _)), blankText with
  | [only], true => only
  | _, _ =>
    let name := if body.holdsBlock then "div" else "span"
    let renamed := Node.element name body.node.attributes body.node.children
    match body with
    | .top _ => .top renamed
    | .inside around before _ after => .inside around before renamed after

/-- The nodes with those in later elements of a name, as far as `kept`, in the first of them. -/
def gathered (name : String) (kept : List Node → List Node) : List Node → List Node
  | [] => []
  | .element tag attributes children :: rest =>
    if tag = name then
      let others := rest.filter (·.name? == some name)
      .element tag attributes (children ++ others.flatMap fun n => kept n.children)
        :: rest.filter (·.name? != some name)
    else .element tag attributes children :: gathered name kept rest
  | n :: rest => n :: gathered name kept rest

/-- A page with one body and one head. The text at the start of a further head is left out. -/
def united : Node → Node
  | .element name attributes children =>
    .element name attributes
      (gathered "head" (·.dropWhile (· matches .text _)) (gathered "body" id children))
  | n => n

/-- Where selectors start in a text. -/
def ofText? (text : String) : Option Site := do
  let page ← page? text
  if isWholePage text then pure (.top page)
  else
    let page := Site.top (united page)
    if !(page.childrenNamed "head").isEmpty then pure page
    else
      match page.childrenNamed "body" with
      | body :: _ => pure body.content
      | [] => pure page

end Site

end EntityQuery.Html
