import EntityQuery.Data.Value
import EntityQuery.Text.Basic

/-!
# Schemas

A view of the schema that a service describes: the types at its root, its object types, and which
operations return a given type.
-/

namespace EntityQuery.Graphql

open Text

mutual

/-- The type that a value refers to without its wrappers; `whole` when it refers to none. -/
def innermostValue (whole : Row) : Value → Row
  | .map (e :: es) => innermostEntries (e :: es) (e :: es)
  | _ => whole

/-- The type that the first wrapped type among entries refers to; `whole` without one. -/
def innermostEntries (whole : Row) : List (String × Value) → Row
  | [] => whole
  | (k, v) :: r => if k = "ofType" then innermostValue whole v else innermostEntries whole r

end

/-- A type reference without its wrappers. -/
def innermost (reference : Row) : Row := innermostEntries reference reference

/-- Whether an entry of a map is a text. -/
def hasText (node : Row) (name text : String) : Bool :=
  match node.get? name with
  | some (.str s) => s == text
  | _ => false

mutual

/-- Whether a value refers to a list, directly or inside wrappers. -/
def refersToList : Value → Bool
  | .map entries => hasText entries "kind" "LIST" || wrapsList entries
  | _ => false

/-- Whether the first wrapped type among entries refers to a list. -/
def wrapsList : List (String × Value) → Bool
  | [] => false
  | (k, v) :: r => if k = "ofType" then refersToList v else wrapsList r

end

/-- Whether a type reference is one of a list, directly or inside wrappers. -/
def isListType (reference : Row) : Bool := refersToList (.map reference)

/-- A member that is a map; empty when there is none. -/
def mapMember (node : Row) (name : String) : Row :=
  match node.get? name with
  | some (.map entries) => entries
  | _ => []

/-- The members of a list that are maps. -/
def listMember (node : Row) (name : String) : List Row :=
  match node.get? name with
  | some (.list items) =>
    items.filterMap fun
      | .map entries => some entries
      | _ => none
  | _ => []

/-- A member that is a text which is not empty. -/
def textMember? (node : Row) (name : String) : Option String :=
  match node.get? name with
  | some (.str s) => if s = "" then none else some s
  | _ => none

/-- Whether a field returns an object type or a list of it. -/
def returnsType (field : Row) (type : String) : Bool :=
  let named := innermost (mapMember field "type")
  hasText named "kind" "OBJECT" && hasText named "name" type

/-- A described schema. -/
structure Schema where
  description : Row

namespace Schema

/-- The types that have a name, each name once. -/
def types (s : Schema) : List (String × Row) :=
  (listMember s.description "types").foldl (fun done t =>
    match textMember? t "name" with
    | some name =>
      if done.any (·.1 == name) then done.map fun e => if e.1 = name then (name, t) else e
      else done ++ [(name, t)]
    | none => done) []

/-- The name of the type whose fields are the queries. -/
def queryType (s : Schema) : Value := ((mapMember s.description "queryType").get? "name").getD .null

/-- The name of the type whose fields are the mutations. -/
def mutationType (s : Schema) : Value :=
  ((mapMember s.description "mutationType").get? "name").getD .null

/-- The object types, without those of the schema itself and those at its root. -/
def objectTypes (s : Schema) : List String :=
  s.types.filterMap fun (name, t) =>
    if hasText t "kind" "OBJECT" && !startsWith "__" name && !s.queryType.same (.str name)
        && !s.mutationType.same (.str name) then some name
    else none

/-- The fields of a type. -/
def fields (s : Schema) (type : String) : List Row :=
  match s.types.lookup type with
  | some t => listMember t "fields"
  | none => []

/-- The fields of a type at the root. -/
def rootFields (s : Schema) : Value → List Row
  | .str name => if name = "" then [] else s.fields name
  | _ => []

/-- The queries that return a type; all of them when none is asked for. -/
def queries (s : Schema) (returning : String) : List Row :=
  (s.rootFields s.queryType).filter fun f => returning == "" || returnsType f returning

/-- The mutations that return a type; all of them when none is asked for. -/
def mutations (s : Schema) (returning : String) : List Row :=
  (s.rootFields s.mutationType).filter fun f => returning == "" || returnsType f returning

end Schema

end EntityQuery.Graphql
