import EntityQuery.Data.Container
import EntityQuery.Entity.Basic
import EntityQuery.Html.Address

/-!
# Tables of pages

The rows of a page: the n-th elements that the selectors of all attributes mean form row n, and
what concerns the page as a whole is part of every row.
-/

namespace EntityQuery.Html

open Text

/-- Whether a declaration goes on with an encoding. -/
def namesEncoding : List Char → Bool
  | [] => false
  | c :: r =>
    let rest := r.dropWhile isBlank
    let here := isBlank c && (match after? "encoding".toList rest with
      | some rest =>
        match rest.dropWhile isBlank with
        | '=' :: rest =>
          match rest.dropWhile isBlank with
          | q :: _ => q = '"' || q = '\''
          | [] => false
        | _ => false
      | none => false)
    here || namesEncoding r

/-- Whether a text declares an encoding, which a text of characters cannot have. -/
def declaresEncoding (text : String) : Bool :=
  match after? "<?xml".toList text.toList with
  | some (c :: r) => c != '>' && namesEncoding (r.takeWhile (· != '>'))
  | _ => false

/-- Where selectors start in a text; it must have an element. -/
def document (text : String) : Except Error Site :=
  if declaresEncoding text then .error (.malformed .encoding)
  else
    match Site.ofText? text with
    | some s => .ok s
    | none => .error (.malformed .html)

/-- Puts a column of values into rows, the first value into the first row. -/
def putColumn (name : String) : List Row → List Value → List Row
  | rows, [] => rows
  | [], v :: vs => [(name, v)] :: putColumn name [] vs
  | row :: rows, v :: vs => row.put name v :: putColumn name rows vs

/-- The values of an attribute in a page, one for each element that its address means. -/
def column (root : Site) (type : DataType) (a : Address) : Except Error (List Value) := do
  (← select root a.selector).mapM fun s => do pure (scalar type (← a.nodeValue type s))

/-- What an address without selector says of the page. -/
def pageValue? (root : Site) (url extension : String) : Except Error (Option Value) :=
  if lower extension = "url" then .ok (some (.str url))
  else if extension = "" then .ok none
  else do pure (some (← extensionValue root extension))

/-- The rows so far, and what concerns the page as a whole. -/
structure Table where
  rows : List Row := []
  page : Row := []

/-- Reads one more attribute. -/
def Table.addAttribute (root : Site) (url : String) (t : Table) (a : Attribute) :
    Except Error Table := do
  if !a.hasRemoteAddress then pure t
  else
    let address := Address.ofText a.dataAddress
    if address.selector = "" then
      match ← pageValue? root url address.extension with
      | some v => pure { t with page := t.page.put a.name v }
      | none => pure t
    else
      pure { t with rows := putColumn a.name t.rows (← column root a.dataType address) }

/-- The rows of a page for attributes. -/
def rows (text url : String) (attributes : List Attribute) : Except Error (List Row) := do
  if trim text = "" then pure []
  else
    let root ← document text
    let t ← attributes.foldlM (Table.addAttribute root url) {}
    pure (t.rows.map fun row => t.page.foldl (fun row e => row.put e.1 e.2) row)

/-- The rows of a page in a container. -/
def container (text url : String) (attributes : List Attribute) : Except Error Container := do
  match ← rows text url attributes with
  | [] => pure .empty
  | found => pure (.many (found.map .map))

end EntityQuery.Html
