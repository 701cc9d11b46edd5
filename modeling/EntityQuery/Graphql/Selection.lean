import EntityQuery.Text.Basic

/-!
# The introspection query

A selection is a tree of fields. `introspectionQuery` prints the one that asks a service for its
whole schema, with the reference of a type followed through eight levels of wrappers.
-/

namespace EntityQuery.Graphql

open Text

/-- A field with the fields selected below it. -/
inductive Selection where
  | node (name : String) (children : List Selection)

namespace Selection

/-- A field with nothing below it. -/
def leaf (name : String) : Selection := .node name []

/-- Blanks before a line at a depth. -/
def indentation (depth : Nat) : String := String.ofList (List.replicate (4 * depth) ' ')

/-- The lines of selections at a depth. -/
def lines (depth : Nat) : List Selection → List String
  | [] => []
  | .node name [] :: rest => (indentation depth ++ name) :: lines depth rest
  | .node name (c :: cs) :: rest =>
    (indentation depth ++ name ++ " \x7b") :: lines (depth + 1) (c :: cs)
      ++ (indentation depth ++ "\x7d") :: lines depth rest

end Selection

open Selection

/-- The reference of a type. -/
def typeReference : (levels : Nat) → List Selection
  | 0 => [leaf "kind", leaf "name"]
  | n + 1 => [leaf "kind", leaf "name", .node "ofType" (typeReference n)]

/-- The types of a schema and the operations at its root. -/
def schemaSelection : Selection :=
  .node "query IntrospectionQuery" [
    .node "__schema" [
      .node "queryType" [leaf "name"],
      .node "mutationType" [leaf "name"],
      .node "subscriptionType" [leaf "name"],
      .node "types" [leaf "...FullType"],
      .node "directives" [
        leaf "name", leaf "description", leaf "locations",
        .node "args" [leaf "...InputValue"]]]]

/-- All there is to a type. -/
def fullTypeSelection : Selection :=
  .node "fragment FullType on __Type" [
    leaf "kind", leaf "name", leaf "description",
    .node "fields(includeDeprecated: true)" [
      leaf "name", leaf "description",
      .node "args" [leaf "...InputValue"],
      .node "type" [leaf "...TypeRef"],
      leaf "isDeprecated", leaf "deprecationReason"],
    .node "inputFields" [leaf "...InputValue"],
    .node "interfaces" [leaf "...TypeRef"],
    .node "enumValues(includeDeprecated: true)" [
      leaf "name", leaf "description", leaf "isDeprecated", leaf "deprecationReason"],
    .node "possibleTypes" [leaf "...TypeRef"]]

/-- All there is to an argument. -/
def inputValueSelection : Selection :=
  .node "fragment InputValue on __InputValue" [
    leaf "name", leaf "description", .node "type" [leaf "...TypeRef"], leaf "defaultValue"]

/-- The reference of a type through its wrappers. -/
def typeReferenceSelection : Selection :=
  .node "fragment TypeRef on __Type" (typeReference 7)

/-- The query for a whole schema. -/
def introspectionQuery : String :=
  join "\n\n" ([schemaSelection, fullTypeSelection, inputValueSelection, typeReferenceSelection].map
    fun s => join "\n" (lines 0 [s])) ++ "\n"

end EntityQuery.Graphql
