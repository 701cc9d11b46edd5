import EntityQuery.Data.Json

/-!
# Query documents

The text of GraphQL queries and mutations, and the envelope that carries a document as JSON.
-/

namespace EntityQuery.Graphql

open Text

/-- One step of indentation. -/
def indent : String := "    "

/-- The separator of lines at the second step. -/
def lineBreak : String := "\n" ++ indent ++ indent

/-- A text as a literal, with quotes and backslashes escaped. -/
def stringLiteral (s : String) : String :=
  "\"" ++ Text.replace "\"" "\\\"" (Text.replace "\\" "\\\\" s) ++ "\""

/-- The literal of a value; lists and maps stand as text. -/
def literal : Value → String
  | .null => "null"
  | .bool b => if b then "true" else "false"
  | .int n => Number.integerText n
  | .float x => x.text
  | v => stringLiteral v.text

/-- An argument. -/
def argument (a : String × Value) : String := a.1 ++ ": " ++ literal a.2

/-- Arguments on one line. -/
def inlineArguments (arguments : Row) : String :=
  if arguments.isEmpty then "" else "(" ++ join ", " (arguments.map argument) ++ ")"

/-- Arguments on lines of their own. -/
def blockArguments (arguments : Row) : String :=
  if arguments.isEmpty then ""
  else " (" ++ lineBreak ++ join lineBreak (arguments.map argument) ++ "\n" ++ indent ++ ")"

/-- Fields to be returned, each once. -/
def distinct (fields : List String) : List String :=
  fields.foldl (fun done f => if f = "" ∨ f ∈ done then done else done ++ [f]) []

/-- A document with one operation. -/
def document (keyword name arguments : String) (fields : List String) : String :=
  keyword ++ " \x7b\n" ++ indent ++ name ++ arguments ++ " \x7b" ++ lineBreak
    ++ join lineBreak (distinct fields) ++ "\n" ++ indent ++ "\x7d\n\x7d"

/-- A query. -/
def queryDocument (name : String) (fields : List String) (arguments : Row) : String :=
  document "query" name (inlineArguments arguments) fields

/-- A mutation. -/
def mutationDocument (name : String) (arguments : Row) (fields : List String) : String :=
  document "mutation" name (blockArguments arguments) fields

/-- The envelope of a document. -/
def envelope (doc : String) (operationName : Option String) : String :=
  Json.write Json.spaced (.map (
    (match operationName with
      | some name => if name = "" then [] else [("operationName", .str name)]
      | none => [])
    ++ [("query", .str doc)]))

end EntityQuery.Graphql
