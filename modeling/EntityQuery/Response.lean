import EntityQuery.Data.Json
import EntityQuery.Error
import EntityQuery.Request
import EntityQuery.Text.Casing

/-!
# Responses

What a service answers, and the message that an error body carries.
-/

namespace EntityQuery

open Text

/-- An answer; `url` is the address that it came from. -/
structure Response where
  status : Int := 200
  text : String := ""
  headers : Headers := []
  url : String := ""
  deriving DecidableEq, Repr, Inhabited

/-- The value of a JSON text. -/
def decodeJson (text : String) : Except Error Value :=
  match Json.read? text with
  | some v => .ok v
  | none => .error (.malformed .json)

/-- The value of a JSON body; an empty body is null. -/
def Response.json (r : Response) : Except Error Value :=
  if r.text = "" then .ok .null else decodeJson r.text

/-- The first of two entries that counts as true. -/
def firstTrue (entries : Row) (a b : String) : Value :=
  match entries.get? a with
  | some v => if v.isTrue then v else (entries.get? b).getD .null
  | none => (entries.get? b).getD .null

/-- The message of an error object: its code, message and transaction. -/
def errorObjectMessage (error : Row) : String :=
  let message := match error.get? "message" with
    | some (.map m) => (m.lookup "value").getD .null
    | some v => v
    | none => .null
  let transaction := match firstTrue error "innererror" "innerError" with
    | .map inner => (inner.lookup "transactionid").getD .null
    | _ => .null
  let fields := [("code", (error.get? "code").getD .null), ("message", message),
    ("txid", transaction)]
  join " | " ((fields.filter (·.2.isTrue)).map fun f => f.1 ++ "=" ++ f.2.text)

/-- The message of an error body; empty when it is of no known form. -/
def errorMessage (body : Value) : String :=
  match body with
  | .map entries =>
    match entries.lookup "errors", entries.lookup "error" with
    | some (.list errors), _ =>
      join "; " (errors.filterMap fun e =>
        match e.get? "message" with
        | some m => if m.isTrue then some m.text else none
        | none => none)
    | _, some (.str s) => s
    | _, some (.map error) => errorObjectMessage error
    | _, _ =>
      match entries.lookup "message" with
      | some (.str s) => s
      | _ => ""
  | _ => ""

/-- What an error response says: the message of its body, or the body itself. -/
def Response.errorText (r : Response) : String :=
  match Json.read? r.text with
  | some body =>
    let message := errorMessage body
    if message = "" then r.text else message
  | none => r.text

end EntityQuery
