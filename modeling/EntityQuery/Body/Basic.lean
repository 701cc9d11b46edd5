import EntityQuery.Dialect.Basic
import EntityQuery.Response
import EntityQuery.Xml.Basic
import EntityQuery.Xml.Document

/-!
# Decoded bodies

What the body of an answer holds: a value for services that answer in JSON or XML, a page with its
address for those that answer in HTML.
-/

namespace EntityQuery

open Text

/-- A decoded body. -/
inductive Body where
  | data (v : Value)
  | page (text url : String)
  deriving DecidableEq, Inhabited

namespace Body

/-- The value of an XML text. -/
def ofXml (text : String) : Except Error Body :=
  match Xml.read? text with
  | some root => .ok (.data (Xml.value root))
  | none => .error (.malformed .xml)

/-- The blanks of a text of bytes. -/
def isByteBlank (c : Char) : Bool := c = ' ' || (9 ≤ c.toNat && c.toNat ≤ 13)

/-- A body of a query document; only errors and no data is a failure. -/
def ofDocumentAnswer (r : Response) (v : Value) : Except Error Body :=
  match v with
  | .map entries =>
    let errors := (entries.lookup "errors").getD .null
    if errors.isTrue && !((entries.lookup "data").getD .null).isTrue then
      .error (.service ⟨r.status, Json.write Json.spaced errors, r.url, []⟩)
    else .ok (.data v)
  | v => .ok (.data v)

/-- The body of an answer. -/
def ofResponse (d : Dialect) (r : Response) : Except Error Body :=
  match d with
  | .html => .ok (.page r.text r.url)
  | .xml => if r.text.toList.all isByteBlank then .ok (.data .null) else ofXml r.text
  | .graphql => do ofDocumentAnswer r (← r.json)
  | _ => do pure (.data (← r.json))

/-- The body of a text without an answer around it; a blank text is null. -/
def ofText (d : Dialect) (text : String) : Except Error Body :=
  match d with
  | .html => .ok (.page text "")
  | d =>
    if trim text = "" then .ok (.data .null)
    else
      match d with
      | .xml => ofXml text
      | _ => do pure (.data (← decodeJson text))

end Body

end EntityQuery
