import EntityQuery.Data.Value
import EntityQuery.Pattern.Reader
import EntityQuery.Text.Casing

/-!
# Options

Entities and attributes carry typed options, read once from a map of loosely typed settings.
Unknown settings are ignored; a known one with a value that its type does not take is rejected, and
the names of all rejected ones are collected.
-/

namespace EntityQuery

open Text

/-- Options of one attribute. -/
structure AttributeOptions where
  filterRemote : Option Bool := none
  filterLocally : Option Bool := none
  filterRemoteUrl : Option String := none
  filterRemoteUrlParam : Option String := none
  filterRemotePrefix : Option String := none
  filterRemoteArgument : Option String := none
  sortRemote : Option Bool := none
  sortLocally : Option Bool := none
  sortRemoteUrlParam : Option String := none
  odataType : Option String := none
  createDataAddress : Option String := none
  updateDataAddress : Option String := none
  readDataAddress : Option String := none
  valueListDelimiter : String := ","
  deriving DecidableEq, Repr, Inhabited

/-- Options of one entity: responses, requests, writes, OData and GraphQL. -/
structure EntityOptions where
  forceFiltering : Bool := false
  responseDataPath : Option String := none
  uidResponseDataPath : Option String := none
  responseTotalCountPath : Option String := none
  responseGroupByAttributeAlias : Option String := none
  responseGroupUseOnlyFirst : Bool := false
  requestOffsetParameter : Option String := none
  requestLimitParameter : Option String := none
  requestUrlReplacePattern : Option String := none
  requestUrlReplaceWith : String := ""
  uidRequestDataAddress : Option String := none
  createRequestDataAddress : Option String := none
  createRequestDataPath : Option String := none
  updateRequestDataAddress : Option String := none
  updateRequestDataPath : Option String := none
  updateRequestMethod : Option String := none
  deleteRequestDataAddress : Option String := none
  odataInlinecount : Option Bool := none
  odataSelect : Bool := true
  odataBatch : Bool := false
  graphqlType : Option String := none
  graphqlReadQuery : Option String := none
  graphqlCreateMutation : Option String := none
  graphqlUpdateMutation : Option String := none
  graphqlDeleteMutation : Option String := none
  graphqlRemotePagination : Option Bool := none
  graphqlOffsetArgument : Option String := none
  graphqlLimitArgument : Option String := none
  graphqlJsonEnvelope : Bool := false
  deriving DecidableEq, Repr, Inhabited

namespace Setting

/-- The words for true. -/
def trueWords : List String := ["1", "on", "t", "true", "y", "yes"]

/-- The words for false. -/
def falseWords : List String := ["0", "off", "f", "false", "n", "no"]

/-- The truth value that a setting stands for. -/
def toBool? : Value → Option Bool
  | .bool b => some b
  | .int 0 => some false
  | .int 1 => some true
  | .float x => if x.eqInt 0 then some false else if x.eqInt 1 then some true else none
  | .str s =>
    let w := lower s
    if w ∈ trueWords then some true else if w ∈ falseWords then some false else none
  | _ => none

/-- The text that a setting stands for. -/
def toText? : Value → Option String
  | .str s => some s
  | _ => none

/-- A setting that may be null. -/
def optional (read : Value → Option α) : Value → Option (Option α)
  | .null => some none
  | v => (read v).map some

/-- Reading settings while collecting the rejected names. -/
abbrev Reading := StateM (List String)

/-- One setting under the first of its names that is set, or its default. -/
def field (settings : Row) (names : List String) (read : Value → Option α) (default : α) :
    Reading α :=
  match names.findSome? settings.get? with
  | none => pure default
  | some v =>
    match read v with
    | some a => pure a
    | none => do
      modify (names.take 1 ++ ·)
      pure default

/-- A text or nothing. -/
def text (settings : Row) (name : String) : Reading (Option String) :=
  field settings [name] (optional toText?) none

/-- A truth value or nothing. -/
def flag? (settings : Row) (name : String) : Reading (Option Bool) :=
  field settings [name] (optional toBool?) none

/-- A truth value with a default. -/
def flag (settings : Row) (name : String) (default : Bool) : Reading Bool :=
  field settings [name] toBool? default

/-- A text that is a pattern, an empty one, or nothing. -/
def patternText? (v : Value) : Option (Option String) := do
  match ← optional toText? v with
  | some s => if s = "" ∨ (Pattern.read? s).isSome then some (some s) else none
  | none => some none

end Setting

open Setting

/-- Reads the options of an attribute. -/
def AttributeOptions.read (settings : Row) : Reading AttributeOptions := do
  pure {
    filterRemote := ← flag? settings "filter_remote"
    filterLocally := ← flag? settings "filter_locally"
    filterRemoteUrl := ← text settings "filter_remote_url"
    filterRemoteUrlParam := ← text settings "filter_remote_url_param"
    filterRemotePrefix := ← text settings "filter_remote_prefix"
    filterRemoteArgument := ← text settings "filter_remote_argument"
    sortRemote := ← flag? settings "sort_remote"
    sortLocally := ← flag? settings "sort_locally"
    sortRemoteUrlParam := ← text settings "sort_remote_url_param"
    odataType := ← text settings "odata_type"
    createDataAddress := ← text settings "create_data_address"
    updateDataAddress := ← text settings "update_data_address"
    readDataAddress := ← text settings "read_data_address"
    valueListDelimiter := ← field settings ["value_list_delimiter"] toText? "," }

/-- Reads the options of an entity. The method of updates is kept in capitals. -/
def EntityOptions.read (settings : Row) : Reading EntityOptions := do
  pure {
    forceFiltering := ← flag settings "force_filtering" false
    responseDataPath := ← text settings "response_data_path"
    uidResponseDataPath := ← text settings "uid_response_data_path"
    responseTotalCountPath := ← text settings "response_total_count_path"
    responseGroupByAttributeAlias := ← text settings "response_group_by_attribute_alias"
    responseGroupUseOnlyFirst := ← flag settings "response_group_use_only_first" false
    requestOffsetParameter := ← text settings "request_offset_parameter"
    requestLimitParameter := ← text settings "request_limit_parameter"
    requestUrlReplacePattern :=
      ← field settings ["request_url_replace_pattern"] patternText? none
    requestUrlReplaceWith := ← field settings ["request_url_replace_with"] toText? ""
    uidRequestDataAddress := ← text settings "uid_request_data_address"
    createRequestDataAddress := ← text settings "create_request_data_address"
    createRequestDataPath := ← text settings "create_request_data_path"
    updateRequestDataAddress := ← text settings "update_request_data_address"
    updateRequestDataPath := ← text settings "update_request_data_path"
    updateRequestMethod := (← text settings "update_request_method").map upper
    deleteRequestDataAddress := ← text settings "delete_request_data_address"
    odataInlinecount :=
      ← field settings ["odata_$inlinecount", "odata_inlinecount"] (optional toBool?) none
    odataSelect := ← flag settings "odata_select" true
    odataBatch := ← flag settings "odata_batch" false
    graphqlType := ← text settings "graphql_type"
    graphqlReadQuery := ← text settings "graphql_read_query"
    graphqlCreateMutation := ← text settings "graphql_create_mutation"
    graphqlUpdateMutation := ← text settings "graphql_update_mutation"
    graphqlDeleteMutation := ← text settings "graphql_delete_mutation"
    graphqlRemotePagination := ← flag? settings "graphql_remote_pagination"
    graphqlOffsetArgument := ← text settings "graphql_offset_argument"
    graphqlLimitArgument := ← text settings "graphql_limit_argument"
    graphqlJsonEnvelope := ← flag settings "graphql_json_envelope" false }

namespace Setting

/-- A set text as a named setting. -/
def ofText? (name : String) (v : Option String) : Row := (v.map fun s => (name, .str s)).toList

/-- A set truth value as a named setting. -/
def ofFlag? (name : String) (v : Option Bool) : Row := (v.map fun b => (name, .bool b)).toList

/-- A truth value as a named setting when it differs from its default. -/
def ofFlag (name : String) (v default : Bool) : Row := if v = default then [] else [(name, .bool v)]

/-- A text as a named setting when it differs from its default. -/
def ofText (name v default : String) : Row := if v = default then [] else [(name, .str v)]

end Setting

/-- The options of an attribute that differ from their defaults. -/
def AttributeOptions.settings (o : AttributeOptions) : Row :=
  ofFlag? "filter_remote" o.filterRemote ++ ofFlag? "filter_locally" o.filterLocally
    ++ ofText? "filter_remote_url" o.filterRemoteUrl
    ++ ofText? "filter_remote_url_param" o.filterRemoteUrlParam
    ++ ofText? "filter_remote_prefix" o.filterRemotePrefix
    ++ ofText? "filter_remote_argument" o.filterRemoteArgument
    ++ ofFlag? "sort_remote" o.sortRemote ++ ofFlag? "sort_locally" o.sortLocally
    ++ ofText? "sort_remote_url_param" o.sortRemoteUrlParam
    ++ ofText? "odata_type" o.odataType
    ++ ofText? "create_data_address" o.createDataAddress
    ++ ofText? "update_data_address" o.updateDataAddress
    ++ ofText? "read_data_address" o.readDataAddress
    ++ ofText "value_list_delimiter" o.valueListDelimiter ","

/-- The options of an entity that differ from their defaults. -/
def EntityOptions.settings (o : EntityOptions) : Row :=
  ofFlag "force_filtering" o.forceFiltering false
    ++ ofText? "response_data_path" o.responseDataPath
    ++ ofText? "uid_response_data_path" o.uidResponseDataPath
    ++ ofText? "response_total_count_path" o.responseTotalCountPath
    ++ ofText? "response_group_by_attribute_alias" o.responseGroupByAttributeAlias
    ++ ofFlag "response_group_use_only_first" o.responseGroupUseOnlyFirst false
    ++ ofText? "request_offset_parameter" o.requestOffsetParameter
    ++ ofText? "request_limit_parameter" o.requestLimitParameter
    ++ ofText? "request_url_replace_pattern" o.requestUrlReplacePattern
    ++ ofText "request_url_replace_with" o.requestUrlReplaceWith ""
    ++ ofText? "uid_request_data_address" o.uidRequestDataAddress
    ++ ofText? "create_request_data_address" o.createRequestDataAddress
    ++ ofText? "create_request_data_path" o.createRequestDataPath
    ++ ofText? "update_request_data_address" o.updateRequestDataAddress
    ++ ofText? "update_request_data_path" o.updateRequestDataPath
    ++ ofText? "update_request_method" o.updateRequestMethod
    ++ ofText? "delete_request_data_address" o.deleteRequestDataAddress
    ++ ofFlag? "odata_inlinecount" o.odataInlinecount
    ++ ofFlag "odata_select" o.odataSelect true
    ++ ofFlag "odata_batch" o.odataBatch false
    ++ ofText? "graphql_type" o.graphqlType
    ++ ofText? "graphql_read_query" o.graphqlReadQuery
    ++ ofText? "graphql_create_mutation" o.graphqlCreateMutation
    ++ ofText? "graphql_update_mutation" o.graphqlUpdateMutation
    ++ ofText? "graphql_delete_mutation" o.graphqlDeleteMutation
    ++ ofFlag? "graphql_remote_pagination" o.graphqlRemotePagination
    ++ ofText? "graphql_offset_argument" o.graphqlOffsetArgument
    ++ ofText? "graphql_limit_argument" o.graphqlLimitArgument
    ++ ofFlag "graphql_json_envelope" o.graphqlJsonEnvelope false

end EntityQuery
