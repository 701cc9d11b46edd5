/-!
# Selectors

Which elements of a page are meant: by name, class, identifier, attribute or place, and by the
elements around them or before them.
-/

namespace EntityQuery.Html.Selector

/-- What the value of an attribute is compared by. -/
inductive Comparison where
  | isThere
  | equals
  | hasWord
  | hasLead
  | begins
  | ends
  | contains
  | differs
  deriving DecidableEq, Repr

/-- How the elements of two parts of a selector stand to each other. -/
inductive Relation where
  | inside
  | child
  | next
  | later
  deriving DecidableEq, Repr

/-- A count of neighbours: those before or behind, all of them or only those of the same name. The
places `a * n + b` are meant, for every `n`. -/
structure Count where
  fromEnd : Bool
  sameName : Bool
  a : Int
  b : Int
  deriving DecidableEq, Repr

/-- The marks of an element that have no arguments. -/
inductive Mark where
  | root
  | scope
  | onlyChild
  | onlyOfType
  | empty
  | link
  | enabled
  | disabled
  | checked
  | never
  deriving DecidableEq, Repr

/-- A condition on an element. The selectors that `none` excludes are given by their last element,
and by those before it with their relations, nearest first. -/
inductive Condition where
  | hasClass (name : String)
  | hasId (id : String)
  | attribute (name : String) (comparison : Comparison) (value : String)
  | mark (m : Mark)
  | count (c : Count)
  | containsText (text : String)
  | language (tag : String)
  | none (excluded : List ((Option String × List Condition) ×
      List (Relation × Option String × List Condition)))
  | any (alternatives : List (Option String × List Condition))
  | has (relation : Relation) (element : Option String) (conditions : List Condition)
  | unknown
  deriving Repr

/-- A selector from its last element back: that element, and those before it, each with the relation
that leads on from it. -/
abbrev Chain :=
  (Option String × List Condition) × List (Relation × Option String × List Condition)

/-- An element with its name, if it is given, and its conditions in order. -/
structure Compound where
  element : Option String := Option.none
  conditions : List Condition := []
  deriving Repr

end Selector

/-- A selector: the first element, and the further ones with their relations. The last is the one
that is meant. -/
structure Selector where
  first : Selector.Compound
  further : List (Selector.Relation × Selector.Compound) := []
  hasPseudoElement : Bool := false
  deriving Repr

end EntityQuery.Html
