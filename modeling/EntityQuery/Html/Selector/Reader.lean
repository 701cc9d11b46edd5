import EntityQuery.Html.Selector.Basic
import EntityQuery.Html.Selector.Token
import EntityQuery.Number.Integer
import EntityQuery.Text.Casing

/-!
# Reading selectors

The selectors in a text, between commas. A text that follows no rule is malformed. One that asks
for something that pages cannot be asked for is read, and marked by an unknown condition.
-/

namespace EntityQuery.Html.Selector

open Text

/-- The tokens without blanks at the start. -/
def skipSpace (ts : List Token) : List Token := ts.dropWhile (· == .space)

/-- The comparison with a mark before the equals sign. -/
def comparison? : Char → Option Comparison
  | '^' => some .begins
  | '$' => some .ends
  | '*' => some .contains
  | '~' => some .hasWord
  | '|' => some .hasLead
  | '!' => some .differs
  | _ => none

/-- The value of an attribute test up to its bracket. -/
def attributeValue? (ts : List Token) : Option (String × List Token) := do
  let (value, ts) ← match skipSpace ts with
    | .name s :: ts => some (s, ts)
    | .string s :: ts => some (s, ts)
    | _ => none
  match skipSpace ts with
  | .delim ']' :: ts => pure (value, ts)
  | _ => none

/-- An attribute test behind the name. -/
def attributeTest? (name : String) (ts : List Token) : Option (Condition × List Token) := do
  let name := lower name
  match skipSpace ts with
  | .delim ']' :: ts => pure (.attribute name .isThere "", ts)
  | .delim '=' :: ts =>
    let (value, ts) ← attributeValue? ts
    pure (.attribute name .equals value, ts)
  | .delim c :: .delim '=' :: ts =>
    let comparison ← comparison? c
    let (value, ts) ← attributeValue? ts
    pure (.attribute name comparison value, ts)
  | _ => none

/-- An attribute test behind its bracket. Attributes of a namespace are not known. -/
def attribute? (ts : List Token) : Option (Condition × List Token) :=
  match skipSpace ts with
  | .name name :: .delim '|' :: .delim '=' :: ts => do
    let (value, ts) ← attributeValue? ts
    pure (.attribute (lower name) .hasLead value, ts)
  | .name _ :: .delim '|' :: .name name :: ts => do
    let (_, ts) ← attributeTest? name ts
    pure (.unknown, ts)
  | .delim '*' :: .delim '|' :: .name name :: ts => attributeTest? name ts
  | .name name :: ts => attributeTest? name ts
  | _ => none

/-- The arguments of a function up to its bracket. -/
def arguments? : List Token → Option (List Token × List Token)
  | [] => none
  | .space :: ts => arguments? ts
  | .delim ')' :: ts => some ([], ts)
  | t :: ts => do
    let allowed := match t with
      | .name _ | .string _ | .number _ | .delim '+' | .delim '-' => true
      | _ => false
    if !allowed then none
    let (others, ts) ← arguments? ts
    pure (t :: others, ts)

/-- The text of an argument that is part of a series. -/
def seriesText? : Token → Option String
  | .name s | .number s => some s
  | .delim c => some (String.singleton c)
  | _ => none

/-- The series `a * n + b` that arguments stand for. -/
def series? (arguments : List Token) : Option (Int × Int) := do
  let s := trim (join "" (← arguments.mapM seriesText?))
  match s with
  | "odd" => pure (2, 1)
  | "even" => pure (2, 0)
  | "n" => pure (1, 0)
  | s =>
    match cut? "n" s with
    | none => do pure (0, ← Number.integerOfText? s)
    | some (a, b) =>
      let a ←
        if a = "" then some 1
        else Number.integerOfText? (if a = "-" ∨ a = "+" then a ++ "1" else a)
      let b ← if b = "" then some 0 else Number.integerOfText? b
      pure (a, b)

/-- The condition of a function; one that is not known or has the wrong arguments is unknown. -/
def function (element : Option String) (name : String) (arguments : List Token) : Condition :=
  let count (fromEnd sameName : Bool) : Condition :=
    match series? arguments with
    | some (a, b) =>
      if sameName && element.isNone then .unknown else .count ⟨fromEnd, sameName, a, b⟩
    | none => .unknown
  let single? : Option String := match arguments with
    | [.name s] | [.string s] => some s
    | _ => none
  match Text.replace "-" "_" name, single? with
  | "nth_child", _ => count false false
  | "nth_last_child", _ => count true false
  | "nth_of_type", _ => count false true
  | "nth_last_of_type", _ => count true true
  | "contains", some s => .containsText (lower s)
  | "lang", some s => .language (lower s)
  | _, _ => .unknown

/-- The condition of a mark without arguments. -/
def markOf (element : Option String) (name : String) : Condition :=
  let ofType (c : Condition) : Condition := if element.isNone then .unknown else c
  match Text.replace "-" "_" name with
  | "root" => .mark .root
  | "scope" => .mark .scope
  | "first_child" => .count ⟨false, false, 0, 1⟩
  | "last_child" => .count ⟨true, false, 0, 1⟩
  | "first_of_type" => ofType (.count ⟨false, true, 0, 1⟩)
  | "last_of_type" => ofType (.count ⟨true, true, 0, 1⟩)
  | "only_child" => .mark .onlyChild
  | "only_of_type" => ofType (.mark .onlyOfType)
  | "empty" => .mark .empty
  | "link" => .mark .link
  | "enabled" => .mark .enabled
  | "disabled" => .mark .disabled
  | "checked" => .mark .checked
  | "visited" | "hover" | "active" | "focus" | "target" => .mark .never
  | _ => .unknown

/-- The parts of an element that may be written with a single colon. -/
def oldPseudoElements : List String := ["first-line", "first-letter", "before", "after"]

/-- Whether a compound ends before the tokens. -/
def endsCompound (nested : Bool) : List Token → Bool
  | [] | .space :: _ => true
  | .delim c :: _ => c = ',' || c = '+' || c = '>' || c = '~' || (nested && c = ')')
  | _ => false

/-- The name of an element at the start of a compound; names of a namespace are unknown. -/
def elementName? (ts : List Token) : Option (Option String × List Condition × List Token) :=
  match ts with
  | .name _ :: .delim '|' :: .name s :: ts => some (some (lower s), [.unknown], ts)
  | .name _ :: .delim '|' :: .delim '*' :: ts => some (none, [.unknown], ts)
  | .name _ :: .delim '|' :: _ => none
  | .delim '*' :: .delim '|' :: .name s :: ts => some (some (lower s), [], ts)
  | .delim '*' :: .delim '|' :: .delim '*' :: ts => some (none, [], ts)
  | .delim '*' :: .delim '|' :: _ => none
  | .name s :: ts => some (some (lower s), [], ts)
  | .delim '*' :: ts => some (none, [], ts)
  | ts => some (none, [], ts)

/-- What was read of a compound: its conditions last first, and whether a pseudo-element ended
it. -/
structure Progress where
  element : Option String
  conditions : List Condition := []
  ended : Bool := false

/-- The relation that a token stands for. -/
def relation? : Token → Option Relation
  | .delim '+' => some .next
  | .delim '>' => some .child
  | .delim '~' => some .later
  | _ => none

/-- The tokens of the argument that asks for an element elsewhere, up to the bracket. -/
def relativeTokens? : List Token → Option (List Token × List Token)
  | .delim ')' :: ts => some ([], ts)
  | t :: ts => do
    let allowed := match t with
      | .name _ | .string _ | .number _ | .delim '.' | .delim '*' => true
      | _ => false
    if !allowed then none
    let (others, ts) ← relativeTokens? ts
    pure (t :: others, ts)
  | [] => none

mutual

/-- The conditions of a compound. `atStart` says that the whole selector begins here. -/
def conditions? (nested atStart : Bool) : (fuel : Nat) → Progress → List Token →
    Option (Progress × List Token)
  | 0, _, _ => none
  | fuel + 1, p, ts =>
    let add (c : Condition) : Progress := { p with conditions := c :: p.conditions }
    if endsCompound nested ts then some (p, ts)
    else if p.ended then none
    else
      match ts with
      | .hash s :: ts => conditions? nested false fuel (add (.hasId s)) ts
      | .delim '.' :: .name s :: ts => conditions? nested false fuel (add (.hasClass s)) ts
      | .delim '[' :: ts => do
        let (c, ts) ← attribute? ts
        conditions? nested false fuel (add c) ts
      | .delim ':' :: .delim ':' :: .name _ :: ts => do
        let ts ← match ts with
          | .delim '(' :: ts => (arguments? ts).map Prod.snd
          | ts => some ts
        conditions? nested false fuel { p with ended := true } ts
      | .delim ':' :: .name s :: ts => do
        let (p, ts) ← pseudo? nested atStart fuel p (lower s) ts
        conditions? nested false fuel p ts
      | _ => none

/-- A mark or function behind its colon and name. -/
def pseudo? (nested atStart : Bool) : (fuel : Nat) → Progress → String → List Token →
    Option (Progress × List Token)
  | 0, _, _, _ => none
  | fuel + 1, p, name, ts =>
    let add (c : Condition) : Progress := { p with conditions := c :: p.conditions }
    if name ∈ oldPseudoElements then some ({ p with ended := true }, ts)
    else
      match ts with
      | .delim '(' :: ts =>
        let ts := skipSpace ts
        match name with
        | "not" => do
          if nested then none
          let (excluded, ts) ← excluded? fuel ts
          pure (add (.none excluded), ts)
        | "is" | "matches" | "where" => do
          let (alternatives, ts) ← alternatives? fuel ts
          pure (add (.any alternatives), ts)
        | "has" => do
          let (relation, ts) := match ts with
            | t :: r =>
              match relation? t with
              | some relation => (relation, skipSpace r)
              | none => (.inside, ts)
            | [] => (.inside, ts)
          let (inner, ts) ← relativeTokens? ts
          let (q, rest) ← compound? false true fuel inner
          if !rest.isEmpty then none
          pure (add (.has relation q.element q.conditions.reverse), ts)
        | name => do
          let (arguments, ts) ← arguments? ts
          pure (add (function p.element name arguments), ts)
      | ts =>
        if name = "scope" ∧ p.element.isNone ∧ p.conditions.isEmpty ∧ !atStart then none
        else some (add (markOf p.element name), ts)

/-- A compound, which holds something. -/
def compound? (nested atStart : Bool) : (fuel : Nat) → List Token → Option (Progress × List Token)
  | 0, _ => none
  | fuel + 1, ts => do
    let ts := skipSpace ts
    let (element, conditions, rest) ← elementName? ts
    let (p, rest) ← conditions? nested (atStart && rest.length = ts.length) fuel
      { element := element, conditions := conditions } rest
    if rest.length = ts.length then none else pure (p, rest)

/-- The selectors that are excluded, up to the bracket. -/
def excluded? : (fuel : Nat) → List Token → Option (List Chain × List Token)
  | 0, _ => none
  | fuel + 1, ts => do
    let (p, ts) ← compound? true false fuel ts
    if p.ended then none
    let (chain, ts) ← chain? fuel ((p.element, p.conditions.reverse), []) ts
    match ts with
    | .delim ')' :: ts => pure ([chain], ts)
    | .delim ',' :: ts =>
      let (others, ts) ← excluded? fuel ts
      pure (chain :: others, ts)
    | _ => none

/-- A selector that goes on behind some of its elements, up to a bracket or a comma. -/
def chain? : (fuel : Nat) → Chain → List Token → Option (Chain × List Token)
  | 0, _, _ => none
  | fuel + 1, (last, before), ts =>
    match skipSpace ts with
    | [] => none
    | .delim ')' :: ts => some ((last, before), .delim ')' :: ts)
    | .delim ',' :: ts => some ((last, before), .delim ',' :: ts)
    | t :: ts => do
      let (relation, rest) := match relation? t with
        | some relation => (relation, ts)
        | none => (.inside, t :: ts)
      let (p, rest) ← compound? true false fuel rest
      if p.ended then none
      chain? fuel ((p.element, p.conditions.reverse), (relation, last) :: before) rest

/-- The alternatives of a function up to its bracket. The token behind a comma does not count. -/
def alternatives? : (fuel : Nat) → List Token →
    Option (List (Option String × List Condition) × List Token)
  | 0, _ => none
  | fuel + 1, ts => do
    let (p, ts) ← compound? true false fuel ts
    if p.ended then none
    match skipSpace ts with
    | .delim ')' :: ts => pure ([(p.element, p.conditions.reverse)], ts)
    | .delim ',' :: _ :: ts =>
      let (others, ts) ← alternatives? fuel (skipSpace ts)
      pure ((p.element, p.conditions.reverse) :: others, ts)
    | _ => none

end

/-- The compound that was read. -/
def Progress.compound (p : Progress) : Compound := ⟨p.element, p.conditions.reverse⟩

/-- The further compounds of a selector with their relations, and whether a pseudo-element ends
the last. -/
def further? : (fuel : Nat) → (ended : Bool) → List Token →
    Option (List (Relation × Compound) × Bool × List Token)
  | 0, _, _ => none
  | fuel + 1, ended, ts =>
    match skipSpace ts with
    | [] => some ([], ended, [])
    | .delim ',' :: ts => some ([], ended, .delim ',' :: ts)
    | t :: ts => do
      if ended then none
      let (relation, rest) := match relation? t with
        | some relation => (relation, ts)
        | none => (.inside, t :: ts)
      let (p, rest) ← compound? false false (2 * rest.length + 8) rest
      let (others, ended, rest) ← further? fuel p.ended rest
      pure ((relation, p.compound) :: others, ended, rest)

/-- The selectors in tokens. -/
def selectors? : (fuel : Nat) → List Token → Option (List Selector)
  | 0, _ => none
  | fuel + 1, ts => do
    let (p, rest) ← compound? false true (2 * ts.length + 8) ts
    let (further, ended, rest) ← further? (rest.length + 1) p.ended rest
    let selector : Selector := ⟨p.compound, further, ended⟩
    match rest with
    | .delim ',' :: rest => do pure (selector :: (← selectors? fuel (skipSpace rest)))
    | _ => pure [selector]

/-- The selectors in a text. -/
def read? (text : String) : Option (List Selector) := do
  let cs := text.toList
  let ts ← tokens? (cs.length + 1) cs
  selectors? (ts.length + 1) ts

end EntityQuery.Html.Selector
