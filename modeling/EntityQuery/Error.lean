import EntityQuery.Text.Quoted
import EntityQuery.Number.Integer

/-!
# Errors

Why a query cannot be compiled, sent or decoded, one constructor per cause. `Error.message` words
each cause; causes that only say that a text is malformed have no wording of their own.
-/

namespace EntityQuery

open Text Number

/-- Why an entity description is malformed. -/
inductive EntityFault where
  | noAddress
  | attributeWithoutAlias (entity : String)
  | unknownDataType (text : String)
  | attributeOptions (entity name : String) (rejected : List String)
  | entityOptions (entity : String) (rejected : List String)
  | unknownUid (uid entity : String)
  | unknownAttribute (entity name : String)
  deriving DecidableEq, Repr

/-- Why a query cannot be compiled as it stands. -/
inductive QueryFault where
  | unsendable (condition : String)
  | conflictingUrls
  | missingPlaceholders (template : String)
  | missingUid (entity : String)
  | nothingToDelete (entity : String)
  | readInChangeset
  | emptyBatch
  | relatedAttribute (name : String)
  | noUidAttribute (entity : String)
  deriving DecidableEq, Repr

/-- What a dialect cannot express. -/
inductive Unsupported where
  | operator (name : String)
  | mutation (entity option : String)
  deriving DecidableEq, Repr

/-- Why a step of a path is malformed. -/
inductive PathFault where
  | unclosed (step : String)
  | malformed (step : String)
  | selectorInBody (step : String)
  | index (step : String)
  deriving DecidableEq, Repr

/-- Why a value has no literal or a literal no value: it cannot be cast to its remote type, it is
infinite where an integer is asked for or would be as a number, its numeral is too long, or its
moment is out of range. -/
inductive CodecFault where
  | cast (value remoteType : String)
  | infinite
  | number
  | year
  | clock
  | timestamp
  deriving DecidableEq, Repr

/-- Why a `$batch` response cannot be split. -/
inductive BatchFault where
  | notMultipart (contentType : Option String)
  | unexpectedPart (line : String)
  | empty
  deriving DecidableEq, Repr

/-- Names and texts that nothing is known under. -/
inductive NameFault where
  | comparator (text : String)
  | dialect (name : String) (known : List String)
  | extension (text : String)
  | auth
  | baseUrl
  | apiKey
  | boolean (value : String)
  | integer (value : String)
  | timeOfDay (value : String)
  deriving DecidableEq, Repr

/-- Malformed texts of other formats. -/
inductive Malformed where
  | number
  | url
  | moment
  | name
  | separator
  | index
  | json
  | xml
  | html
  | encoding
  | selector
  | selectorFunction
  | pattern
  | groupName
  | arguments
  | shape
  deriving DecidableEq, Repr

/-- A response that reports an error. -/
structure ServiceError where
  status : Int
  body : String
  url : String
  headers : List (String × String)
  deriving DecidableEq, Repr

/-- Why an operation failed. -/
inductive Error where
  | entity (fault : EntityFault)
  | query (fault : QueryFault)
  | unsupported (what : Unsupported)
  | codec (fault : CodecFault) (condition : String)
  | path (fault : PathFault)
  | batch (fault : BatchFault)
  | changeset (status : Nat) (body : String)
  | service (response : ServiceError)
  | name (fault : NameFault)
  | malformed (what : Malformed)
  deriving DecidableEq, Repr

instance : MonadLift (Except PathFault) (Except Error) := ⟨Except.mapError .path⟩
instance : MonadLift (Except BatchFault) (Except Error) := ⟨Except.mapError .batch⟩
instance : MonadLift (Except EntityFault) (Except Error) := ⟨Except.mapError .entity⟩
instance : MonadLift (Except NameFault) (Except Error) := ⟨Except.mapError .name⟩
instance : MonadLift (Except CodecFault) (Except Error) := ⟨Except.mapError (.codec · "")⟩

/-- The message of a malformed description, up to what validation adds to it. -/
def EntityFault.message : EntityFault → String
  | .noAddress => "Entity description needs an alias or a data_address"
  | .attributeWithoutAlias entity => "Attribute without alias in entity '" ++ entity ++ "'"
  | .unknownDataType text => "Unknown data type '" ++ text ++ "'"
  | .attributeOptions entity name _ =>
    "Invalid options for attribute '" ++ entity ++ "." ++ name ++ "'"
  | .entityOptions entity _ => "Invalid options for entity '" ++ entity ++ "'"
  | .unknownUid uid entity =>
    "UID attribute '" ++ uid ++ "' is not defined in entity '" ++ entity ++ "'"
  | .unknownAttribute entity name =>
    "Entity '" ++ entity ++ "' has no attribute '" ++ name ++ "'"

/-- The message of a query that cannot be compiled. -/
def QueryFault.message : QueryFault → String
  | .unsendable condition =>
    "Filter '" ++ condition ++ "' cannot be translated to a remote condition"
  | .conflictingUrls => "Cannot use multiple filters requiring different custom URLs"
  | .missingPlaceholders template => "Missing values for placeholders in '" ++ template ++ "'"
  | .missingUid entity => "Cannot address an item of '" ++ entity ++ "' without a UID value"
  | .nothingToDelete entity => "Cannot delete from '" ++ entity ++ "' without UID values"
  | .readInChangeset => "Read requests cannot be part of a $batch changeset"
  | .emptyBatch => "Cannot build an empty $batch request"
  | .relatedAttribute name =>
    "GraphQL requests over related attributes are not supported (" ++ name ++ ")"
  | .noUidAttribute entity => "Entity '" ++ entity ++ "' has no UID attribute"

/-- The message of a construct that a dialect lacks. -/
def Unsupported.message : Unsupported → String
  | .operator name => "Logical operator " ++ name ++ " not supported in OData $filter"
  | .mutation entity option => "Entity '" ++ entity ++ "' has no " ++ option ++ " configured"

/-- The message of a malformed step. -/
def PathFault.message : PathFault → String
  | .unclosed step => "Invalid conditional selector '" ++ step ++ "': missing closing ']'"
  | .malformed step => "Invalid conditional selector '" ++ step ++ "': expected [key=value]"
  | .selectorInBody step =>
    "Conditional selector '" ++ step ++ "' cannot be used to build a body"
  | .index _ => ""

/-- The message of a value without literal, with the condition that it stands in. -/
def CodecFault.message (condition : String) : CodecFault → String
  | .cast value remoteType =>
    "Cannot cast " ++ value ++ " to " ++ remoteType
      ++ (if condition = "" then "" else " (in condition: " ++ condition ++ ")")
  | _ => ""

/-- The message of a response that cannot be split. -/
def BatchFault.message : BatchFault → String
  | .notMultipart contentType =>
    "Batch response is not multipart (Content-Type: " ++ (contentType.map quoted).getD "None" ++ ")"
  | .unexpectedPart line => "Unexpected batch part: " ++ quoted line
  | .empty => "Batch response contains no sub-responses"

/-- The message of an unknown name. -/
def NameFault.message : NameFault → String
  | .comparator text => "Unknown comparator '" ++ text ++ "'"
  | .dialect name known =>
    "Unknown dialect '" ++ name ++ "'. Available: " ++ join ", " known
  | .extension text => "Unknown HTML data address extension '" ++ text ++ "'"
  | .auth => "auth.kind must be 'basic', 'bearer' or 'none'"
  | .baseUrl =>
    "Missing base_url. Set URLQUERY_BASE_URL environment variable or pass base_url parameter."
  | .apiKey => "Missing URLQUERY_API_KEY - required for security"
  | .boolean value => "not a boolean: " ++ value
  | .integer value => "not an integer: " ++ value
  | .timeOfDay value => "not a time of day: " ++ value

/-- How much of a body a message shows. -/
def snippetLength : Nat := 1200

/-- The message of a response that reports an error. -/
def ServiceError.message (u : ServiceError) : String :=
  "Upstream error " ++ integerText u.status ++ " for " ++ u.url ++ ": " ++ take snippetLength u.body

/-- The message of an error; empty where the cause has no wording. -/
def Error.message : Error → String
  | .entity f => f.message
  | .query f => f.message
  | .unsupported w => w.message
  | .codec f condition => f.message condition
  | .path f => f.message
  | .batch f => f.message
  | .changeset status body =>
    "Batch changeset failed with status " ++ natText status ++ ": " ++ take snippetLength body
  | .service u => u.message
  | .name f => f.message
  | .malformed _ => ""

end EntityQuery
