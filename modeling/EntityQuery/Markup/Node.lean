import EntityQuery.Text.Basic

/-!
# Markup trees

The tree of a marked up text: elements with attributes, text between them, comments and processing
instructions.
-/

namespace EntityQuery.Markup

/-- Named attribute values in order; an attribute may stand without value. -/
abbrev Attributes := List (String × Option String)

/-- A node of a marked up text. -/
inductive Node where
  | element (name : String) (attributes : Attributes) (children : List Node)
  | text (content : String)
  | comment (content : String)
  | instruction (content : String)
  deriving Repr, Inhabited

namespace Node

/-- The name of an element. -/
def name? : Node → Option String
  | .element name _ _ => some name
  | _ => none

/-- Whether the node is an element. -/
def isElement (n : Node) : Bool := n.name?.isSome

/-- The attributes of an element. -/
def attributes : Node → Attributes
  | .element _ attributes _ => attributes
  | _ => []

/-- The nodes in an element. -/
def children : Node → List Node
  | .element _ _ children => children
  | _ => []

/-- The value of an attribute; one without value reads as the empty text. -/
def attribute? (n : Node) (name : String) : Option String :=
  (n.attributes.lookup name).map (·.getD "")

end Node

/-- The text before the first node that is none. -/
def leadingText : List Node → String
  | .text content :: rest => content ++ leadingText rest
  | _ => ""

mutual

/-- The text in a node, without comments and instructions. -/
def Node.textContent : Node → String
  | .element _ _ children => textOfNodes children
  | .text content => content
  | .comment _ | .instruction _ => ""

/-- The text in several nodes. -/
def textOfNodes : List Node → String
  | [] => ""
  | n :: rest => n.textContent ++ textOfNodes rest

end

end EntityQuery.Markup
