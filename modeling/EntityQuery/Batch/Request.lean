import EntityQuery.Request
import EntityQuery.Url.Split
import EntityQuery.Text.Casing

/-!
# Batch requests

Several writes in one multipart request with a single changeset, in order.
-/

namespace EntityQuery.Batch

open Text

/-- The end of a line. -/
def lineEnd : String := "\r\n"

/-- The service that the requests of a batch belong to. -/
structure Service where
  host : String
  basePath : String
  deriving DecidableEq, Repr, Inhabited

/-- The service at a base address. -/
def Service.ofUrl (baseUrl : String) : Except Error Service := do
  let p ← Url.split (trimEndChar '/' baseUrl ++ "/")
  pure ⟨p.authority, if p.path = "" then "/" else p.path⟩

/-- The path of a request on its host. -/
def Service.absolutePath (s : Service) (uri : String) : String :=
  s.basePath ++ trimStartChar '/' uri

/-- Headers with a default for one that is not there. -/
def withDefault (headers : Headers) (name value : String) : Headers :=
  if headers.any (·.1 == name) then headers else headers ++ [(name, value)]

/-- The lines of a request in a changeset. -/
def partLines (s : Service) (contentId : Nat) (r : Request) : List String :=
  let body := r.body.getD ""
  ["Content-Type: application/http",
   "Content-Transfer-Encoding: binary",
   "Content-ID: " ++ Number.natText contentId,
   "",
   upper r.method ++ " " ++ s.absolutePath r.encodedUri ++ " HTTP/1.1",
   "Host: " ++ s.host]
  ++ (withDefault r.headers "Content-Type" "application/json").map (fun h => h.1 ++ ": " ++ h.2)
  ++ (if body = "" then [] else ["Content-Length: " ++ Number.natText (byteLength body)])
  ++ ["", body]

/-- A request in a changeset; reads cannot be part of one. -/
def part (s : Service) (contentId : Nat) (r : Request) : Except QueryFault String :=
  if upper r.method = "GET" then .error .readInChangeset
  else .ok (join lineEnd (partLines s contentId r))

/-- The body of a batch, given the boundaries of the batch and of its changeset. -/
def body (boundary changeset : String) (parts : List String) : String :=
  join lineEnd [
    "--" ++ boundary,
    "Content-Type: multipart/mixed; boundary=" ++ changeset,
    "",
    join lineEnd (parts.map fun p => "--" ++ changeset ++ lineEnd ++ p),
    "--" ++ changeset ++ "--",
    "",
    "--" ++ boundary ++ "--",
    ""]

/-- The request that carries several writes, given a unique name for the batch and one for its
changeset. -/
def request (s : Service) (batchName changesetName : String) (rs : List Request) :
    Except QueryFault Request := do
  if rs.isEmpty then throw .emptyBatch
  let boundary := "batch_" ++ batchName
  let parts ← rs.zipIdx.mapM fun (r, i) => part s (i + 1) r
  pure {
    method := "POST"
    uri := "$batch"
    headers := [("Content-Type", "multipart/mixed; boundary=" ++ boundary),
      ("Accept", "multipart/mixed")]
    body := some (body boundary ("changeset_" ++ changesetName) parts) }

end EntityQuery.Batch
