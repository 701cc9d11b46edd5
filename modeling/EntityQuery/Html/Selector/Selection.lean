import EntityQuery.Html.Selector.Reader
import EntityQuery.Html.Site

/-!
# Selection

The elements that selectors mean, seen from one element: it, the elements in it, and the neighbours
that relations lead to, in the order of the page and each once.
-/

namespace EntityQuery.Html.Selector

open Text

/-- The words of an attribute value. -/
def attributeWords (s : String) : List String :=
  let plain := s.toList.map fun c => if c = '\t' ∨ c = '\n' ∨ c = '\r' then ' ' else c
  ((splitChar ' ' plain).filter (!·.isEmpty)).map String.ofList

/-- Whether the value of an attribute compares as asked for. -/
def Comparison.holds (c : Comparison) (actual : Option String) (value : String) : Bool :=
  match c, actual with
  | .differs, none => value ≠ ""
  | .differs, some s => s ≠ value
  | _, none => false
  | .isThere, some _ => true
  | .equals, some s => s = value
  | .hasWord, some s =>
    value ≠ "" && !value.toList.any isSpace && (attributeWords s).contains value
  | .hasLead, some s => s = value || startsWith (value ++ "-") s
  | .begins, some s => value ≠ "" && startsWith value s
  | .ends, some s => value ≠ "" && (after? value.toList.reverse s.toList.reverse).isSome
  | .contains, some s => value ≠ "" && Text.contains value s

/-- Whether a number is one of `a * n + b`, for some `n`. -/
def isInSeries (a b k : Int) : Bool :=
  if a = 0 then k = b else 0 ≤ (k - b) * a && (k - b) % a = 0

/-- The place of an element among its neighbours, counted from one. -/
def Count.placeOf (c : Count) (s : Site) : Nat :=
  let neighbours := (if c.fromEnd then s.after else s.before).filter (·.isElement)
  1 + (if c.sameName then neighbours.filter (·.name? == s.node.name?) else neighbours).length

/-- Whether an element is one of several names. -/
def isOneOf (s : Site) (names : List String) : Bool := names.contains s.name

/-- Whether an element has an attribute. -/
def hasAttribute (s : Site) (name : String) : Bool := (s.node.attribute? name).isSome

/-- Whether an element takes input and is not hidden. -/
def isVisibleInput (s : Site) : Bool :=
  s.name == "input" && ((s.node.attribute? "type").map (· != "hidden")).getD false

/-- Whether an element is in one of a name that is switched off. -/
def isInDisabled (s : Site) (name : String) : Bool :=
  s.ancestors.any fun a => a.name == name && hasAttribute a "disabled"

/-- Whether an element is switched off. -/
def isDisabled (s : Site) : Bool :=
  let field := isVisibleInput s || isOneOf s ["button", "select", "textarea"]
  (hasAttribute s "disabled"
    && (field || isOneOf s ["command", "fieldset", "optgroup", "option"]))
  || (field && isInDisabled s "fieldset")

/-- Whether an element is switched on. -/
def isEnabled (s : Site) : Bool :=
  let off := hasAttribute s "disabled"
  (hasAttribute s "href" && isOneOf s ["a", "link", "area"])
  || (isOneOf s ["command", "fieldset", "optgroup"] && !off)
  || ((isVisibleInput s || isOneOf s ["button", "select", "textarea", "keygen"])
    && !(off || isInDisabled s "fieldset"))
  || (s.name == "option" && !(off || isInDisabled s "optgroup"))

/-- Whether an element is ticked. -/
def isChecked (s : Site) : Bool :=
  (hasAttribute s "selected" && s.name == "option")
  || (hasAttribute s "checked" && isOneOf s ["input", "command"]
    && (s.node.attribute? "type" == some "checkbox" || s.node.attribute? "type" == some "radio"))

/-- Whether an element has a mark. -/
def Mark.holds (m : Mark) (s : Site) : Bool :=
  let around := ((s.before ++ s.after).filter (·.isElement))
  match m with
  | .root => s.around?.isNone
  | .scope => true
  | .onlyChild => s.around?.isSome && around.isEmpty
  | .onlyOfType => s.around?.isSome && (around.filter (·.name? == s.node.name?)).isEmpty
  | .empty => !s.node.children.any (·.isElement) && s.node.textContent == ""
  | .link => hasAttribute s "href" && isOneOf s ["a", "link", "area"]
  | .enabled => isEnabled s
  | .disabled => isDisabled s
  | .checked => isChecked s
  | .never => false

/-- Whether an element is in a language: that of the nearest element that names one. -/
def isInLanguage (s : Site) (tag : String) : Bool :=
  match (s :: s.ancestors).findSome? fun a => a.node.attribute? "lang" with
  | some lang => startsWith (tag ++ "-") (lower lang ++ "-")
  | none => false

/-- Joins a condition to what is known so far. -/
def andAlso (known : Option Bool) (b : Bool) : Option Bool := some (known.getD true && b)

/-- Joins an alternative to what is known so far. -/
def orElse (known : Option Bool) (b : Bool) : Option Bool := some (known.getD false || b)

/-- Whether an element has a name, if one is given. -/
def hasName (element : Option String) (s : Site) : Bool :=
  match element with
  | some name => s.name == name
  | none => true

/-- The elements that a relation leads on from to an element. -/
def Relation.origins (r : Relation) (s : Site) : List Site :=
  match r with
  | .inside => s.ancestors
  | .child => s.ancestors.take 1
  | .next => s.preceding.take 1
  | .later => s.preceding

/-- The elements that a relation leads to. -/
def Relation.reach (r : Relation) (s : Site) : List Site :=
  match r with
  | .inside => s.descendants
  | .child => s.children
  | .next => s.following.take 1
  | .later => s.following

mutual

/-- What a condition makes of what is known of an element; a series of all numbers says nothing. -/
def Condition.apply (s : Site) (known : Option Bool) : Condition → Option Bool
  | .hasClass name => andAlso known (Comparison.hasWord.holds (s.node.attribute? "class") name)
  | .hasId id => andAlso known (s.node.attribute? "id" == some id)
  | .attribute name comparison value =>
    andAlso known (comparison.holds (s.node.attribute? name) value)
  | .mark m => andAlso known (m.holds s)
  | .count c =>
    if c.a = 1 ∧ c.b ≤ 1 then known else andAlso known (isInSeries c.a c.b (c.placeOf s))
  | .containsText text => andAlso known (Text.contains text (lower s.node.textContent))
  | .language tag => andAlso known (isInLanguage s tag)
  | .none excluded => andAlso known !(isAnyOf s excluded)
  | .any alternatives => applyAny s known alternatives
  | .has relation element conditions =>
    andAlso known ((relation.reach s).any fun t =>
      hasName element t && (applyAll t Option.none conditions).getD true)
  | .unknown => known

/-- What conditions make of what is known of an element. -/
def applyAll (s : Site) (known : Option Bool) : List Condition → Option Bool
  | [] => known
  | c :: rest => applyAll s (c.apply s known) rest

/-- Whether an element is what one of several selectors means. -/
def isAnyOf (s : Site) : List Chain → Bool
  | [] => false
  | ((element, conditions), before) :: rest =>
    (hasName element s && (applyAll s Option.none conditions).getD true && isBehind s before)
      || isAnyOf s rest

/-- Whether relations lead to an element from elements as asked for, nearest first. -/
def isBehind (s : Site) : List (Relation × Option String × List Condition) → Bool
  | [] => true
  | (relation, element, conditions) :: rest =>
    (relation.origins s).any fun t =>
      hasName element t && (applyAll t Option.none conditions).getD true && isBehind t rest

/-- What alternatives make of what is known of an element; those without condition say nothing. -/
def applyAny (s : Site) (known : Option Bool) :
    List (Option String × List Condition) → Option Bool
  | [] => known
  | (element, conditions) :: rest =>
    match applyAll s Option.none conditions, element with
    | Option.none, Option.none => applyAny s known rest
    | result, element => applyAny s (orElse known (result.getD true && hasName element s)) rest

end

/-- Whether an element is one that a compound means. -/
def Compound.holds (c : Compound) (s : Site) : Bool :=
  hasName c.element s && (applyAll s none c.conditions).getD true

/-- Whether a compound means only the first element of its name. -/
def Compound.isFirstOnly (c : Compound) : Bool :=
  match c.conditions with
  | [.mark .scope] => true
  | _ => false

/-- The elements that a compound means among others. -/
def Compound.among (c : Compound) (sites : List Site) : List Site :=
  if c.isFirstOnly then (sites.filter (hasName c.element)).take 1 else sites.filter c.holds

/-- Goes on by a relation. -/
def advance (sites : List Site) (step : Relation × Compound) : List Site :=
  Site.inOrder (sites.flatMap fun s => step.2.among (step.1.reach s))

end Selector

/-- The elements that a selector means, seen from an element. -/
def Selector.select (selector : Selector) (s : Site) : List Site :=
  selector.further.foldl Selector.advance (selector.first.among (s :: s.descendants))

namespace Selector

mutual

/-- Whether a condition can be asked for. -/
def Condition.isKnown : Condition → Bool
  | .unknown => false
  | .none excluded => areAllKnownBack excluded
  | .has _ _ conditions => areKnown conditions
  | .any alternatives => areAllKnown alternatives
  | _ => true

/-- Whether all conditions can be asked for. -/
def areKnown : List Condition → Bool
  | [] => true
  | c :: rest => c.isKnown && areKnown rest

/-- Whether all alternatives can be asked for. -/
def areAllKnown : List (Option String × List Condition) → Bool
  | [] => true
  | (_, conditions) :: rest => areKnown conditions && areAllKnown rest

/-- Whether all excluded selectors can be asked for. -/
def areAllKnownBack : List Chain → Bool
  | [] => true
  | ((_, conditions), before) :: rest =>
    areKnown conditions && areKnownBack before && areAllKnownBack rest

/-- Whether all elements before an excluded one can be asked for. -/
def areKnownBack : List (Relation × Option String × List Condition) → Bool
  | [] => true
  | (_, _, conditions) :: rest => areKnown conditions && areKnownBack rest

end

end Selector

/-- Whether a selector can be asked for. -/
def Selector.isKnown (selector : Selector) : Bool :=
  !selector.hasPseudoElement
    && (selector.first :: selector.further.map Prod.snd).all fun c =>
      Selector.areKnown c.conditions

end EntityQuery.Html
