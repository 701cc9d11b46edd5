import EntityQuery.Data.Value
import EntityQuery.Entity.DataType
import EntityQuery.Error
import EntityQuery.Html.Selector.Selection
import EntityQuery.Html.Written
import EntityQuery.Number.FloatText
import EntityQuery.Number.Integer

/-!
# Addresses in pages

The address of an attribute in a page: a selector, and behind an arrow what to take from the
elements that it means. `Address.nodeValue` reads an attribute of the element, or calls one of the
extensions `is`, `not`, `find` and `srcset`.
-/

namespace EntityQuery.Html

open Number Text

/-- An address in a page. -/
structure Address where
  selector : String
  extension : String
  deriving DecidableEq, Repr, Inhabited

/-- Reads an address. -/
def Address.ofText (text : String) : Address :=
  match cut? "->" text with
  | some (selector, extension) => ⟨trim selector, trim extension⟩
  | none => ⟨trim text, ""⟩

/-- The elements that a text selects, seen from an element. -/
def select (s : Site) (text : String) : Except Error (List Site) :=
  match Selector.read? text with
  | none => .error (.malformed .selector)
  | some selectors =>
    if selectors.all (·.isKnown) then .ok (Site.inOrder (selectors.flatMap (·.select s)))
    else .error (.malformed .selectorFunction)

/-- The name and the argument of a call. -/
def call? (extension : String) : Option (String × String) :=
  match extension.toList.reverse with
  | ')' :: r =>
    (cut? "(" (String.ofList r.reverse)).map fun (name, argument) =>
      (lower (trim name), trim argument)
  | _ => none

/-- The source of a given density in a list of sources, or the first one. -/
def sourceOf (sources density : String) : String :=
  let sources := ((Text.split ',' sources).map words).filter (· ≠ [])
  if density = "" then ((sources.head?.bind (·.head?)).getD "")
  else
    ((sources.find? fun parts => parts[1]? == some density).bind (·.head?)).getD ""

/-- What an extension takes from an element. -/
def extensionValue (s : Site) (extension : String) : Except Error Value :=
  match call? extension with
  | none => .ok (((s.node.attribute? extension).map Value.str).getD .null)
  | some (name, argument) =>
    match name with
    | "is" => do pure (.bool !(← select s argument).isEmpty)
    | "not" => do pure (.bool (← select s argument).isEmpty)
    | "find" => do
      match (← select s argument).getLast? with
      | some found => pure (.str (trim found.node.textContent))
      | none => pure .null
    | "srcset" => .ok (.str (sourceOf ((s.node.attribute? "srcset").getD "") argument))
    | _ => .error (.name (.extension extension))

/-- The text that stands right behind an element. -/
def Site.tail (s : Site) : String := Markup.leadingText s.after

/-- A text without the tags that begin as given. -/
def withoutTags (lead : List Char) : (fuel : Nat) → List Char → List Char
  | 0, cs => cs
  | fuel + 1, cs =>
    match cutChars? lead cs with
    | none => cs
    | some (before, rest) =>
      match cutChars? ['>'] rest with
      | none => cs
      | some (_, rest) => before ++ withoutTags lead fuel rest

/-- The markup of an element with the text behind it, without declarations of its encoding. -/
def Site.markup (s : Site) : String :=
  let text := (written false s.node ++ writtenText s.tail).toList
  String.ofList (withoutTags "<meta http-equiv=\"Content-Type\"".toList text.length text)

/-- What an address takes from an element that it means: its markup for attributes of that type,
what the extension says, or its text. -/
def Address.nodeValue (a : Address) (type : DataType) (s : Site) : Except Error Value :=
  if type = .html then .ok (.str s.markup)
  else if a.extension = "" then .ok (.str (trim s.node.textContent))
  else extensionValue s a.extension

/-- A text as a value of the type: a number where it is one. -/
def scalar (type : DataType) (v : Value) : Value :=
  match type, v with
  | .integer, .str s => ((integerOfText? (trim s)).map Value.int).getD v
  | .number, .str s => ((floatOfText? (trim s)).map Value.float).getD v
  | _, v => v

end EntityQuery.Html
