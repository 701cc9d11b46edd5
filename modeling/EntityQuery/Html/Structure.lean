/-!
# The structure of HTML texts

How the content of elements is read, and which tags may be left out: the elements that an opening
tag closes, those that a closing tag may pass, the elements without content, and those whose closing
tag is not written.
-/

namespace EntityQuery.Html

/-- How the content of an element is read: as markup, as a text with references, as a text without
them, as a script, or as a text that nothing ends. -/
inductive ContentModel where
  | markup
  | text
  | raw
  | script
  | plain
  deriving DecidableEq, Repr, Inhabited

/-- How the content of the elements with a name is read. -/
def contentModel (name : String) : ContentModel :=
  match name with
  | "textarea" | "title" => .text
  | "iframe" | "noembed" | "noframes" | "style" | "xmp" => .raw
  | "script" => .script
  | "plaintext" => .plain
  | _ => .markup

/-- The headings. -/
def headings : List String := ["h1", "h2", "h3", "h4", "h5", "h6"]

/-- The tags that close an open heading. -/
def headingClosers : List String := ["fieldset", "form", "li", "p", "table"]

/-- The tags that close an open preformatted text. -/
def preformattedClosers : List String :=
  ["dd", "dl", "dt", "fieldset", "form", "li", "table", "ul"]

/-- The tags that close an open paragraph. -/
def paragraphClosers : List String :=
  ["address", "blockquote", "body", "caption", "center", "col", "colgroup", "dd", "dir", "div",
   "dl", "dt", "fieldset", "form", "frameset", "h1", "h2", "h3", "h4", "h5", "h6", "head", "hr",
   "li", "listing", "menu", "multicol", "ol", "p", "pre", "table", "tbody", "td", "tfoot", "th",
   "title", "tr", "ul", "xmp"]

/-- The tags that close an open head. -/
def headClosers : List String :=
  ["a", "abbr", "acronym", "address", "b", "bdo", "big", "blockquote", "body", "br", "center",
   "cite", "code", "dd", "dfn", "dir", "div", "dl", "dt", "em", "fieldset", "font", "form",
   "frameset", "h1", "h2", "h3", "h4", "h5", "h6", "hr", "i", "iframe", "img", "kbd", "li",
   "listing", "map", "menu", "ol", "p", "pre", "q", "s", "samp", "small", "span", "strike",
   "strong", "sub", "sup", "table", "tt", "u", "ul", "var", "xmp"]

/-- The tags that close an open element, where there are any. -/
def closers : List (String × List String) := [
  ("a", ["a", "fieldset", "table", "td", "th"]),
  ("address", ["dd", "dl", "dt", "form", "li", "ul"]),
  ("b", ["center", "p", "td", "th"]),
  ("big", ["p"]),
  ("caption", ["col", "colgroup", "tbody", "tfoot", "thead", "tr"]),
  ("col", ["col", "colgroup", "tbody", "tfoot", "thead", "tr"]),
  ("colgroup", ["colgroup", "tbody", "tfoot", "thead", "tr"]),
  ("dd", ["dt"]),
  ("dir", ["dd", "dl", "dt", "form", "ul"]),
  ("dl", ["form", "li"]),
  ("dt", ["dd", "dl"]),
  ("font", ["center", "td", "th"]),
  ("form", ["form"]),
  ("head", headClosers),
  ("hr", ["form"]),
  ("i", ["center", "p", "td", "th"]),
  ("legend", ["fieldset"]),
  ("li", ["li"]),
  ("link", ["body", "frameset"]),
  ("listing", preformattedClosers),
  ("menu", ["dd", "dl", "dt", "form", "ul"]),
  ("ol", ["form"]),
  ("option", ["optgroup", "option"]),
  ("p", paragraphClosers),
  ("pre", preformattedClosers),
  ("s", ["p"]),
  ("script", ["noscript"]),
  ("small", ["p"]),
  ("span", ["td", "th"]),
  ("strike", ["p"]),
  ("style", ["body", "frameset"]),
  ("tbody", ["tbody", "tfoot"]),
  ("td", ["tbody", "td", "tfoot", "th", "tr"]),
  ("tfoot", ["tbody"]),
  ("th", ["tbody", "td", "tfoot", "th", "tr"]),
  ("thead", ["tbody", "tfoot"]),
  ("title", ["body", "frameset"]),
  ("tr", ["tbody", "tfoot", "tr"]),
  ("tt", ["p"]),
  ("u", ["p", "td", "th"]),
  ("ul", ["address", "form", "menu", "pre"]),
  ("xmp", preformattedClosers)]

/-- Whether an opening tag closes an open element. -/
def closes (tag openName : String) : Bool :=
  if openName ∈ headings then decide (tag ∈ headingClosers)
  else ((closers.lookup openName).getD []).contains tag

/-- How strongly an element holds against closing tags of those around it. -/
def strength (name : String) : Nat :=
  match name with
  | "div" => 150
  | "td" | "th" => 160
  | "tr" => 170
  | "thead" | "tbody" | "tfoot" => 180
  | "table" => 190
  | "head" | "body" => 200
  | "html" => 220
  | _ => 100

/-- The elements that belong into the head. -/
def headElements : List String := ["script", "style", "meta", "link", "title", "base"]

/-- The elements of frame sets, which need no body. -/
def frameElements : List String := ["noframes", "frame", "frameset"]

/-- The elements without content and closing tag. -/
def emptyElements : List String :=
  ["area", "base", "basefont", "br", "col", "frame", "hr", "img", "input", "isindex", "link",
   "meta", "param"]

/-- The elements whose closing tag is not written when they are empty. -/
def unclosedElements : List String := ["li"]

/-- The attributes that are written without value. -/
def bareAttributes : List String :=
  ["checked", "compact", "declare", "defer", "disabled", "ismap", "multiple", "nohref",
   "noresize", "noshade", "nowrap", "readonly", "selected"]

/-- The elements that make up a block. -/
def blockElements : List String :=
  ["address", "blockquote", "caption", "center", "col", "colgroup", "dd", "del", "dir", "div",
   "dl", "dt", "fieldset", "form", "h1", "h2", "h3", "h4", "h5", "h6", "hr", "ins", "isindex",
   "legend", "li", "menu", "noscript", "ol", "optgroup", "option", "p", "pre", "table", "tbody",
   "td", "tfoot", "th", "thead", "tr", "ul"]

end EntityQuery.Html
