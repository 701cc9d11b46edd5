import EntityQuery.Number.Binary64
import EntityQuery.Response
import EntityQuery.Url.Split

/-!
# Transports and sessions

A transport sends requests to one service. What it does to the service is a state of any kind, so
that an exchange is a function of what the service answers. A session is a transport over plain
calls: it completes addresses, adds the fixed parameters, turns answers with an error status into
errors, and obtains a token before the first write where the service asks for one.
-/

namespace EntityQuery

open Text Url

/-- What runs against a service with a state. A failure keeps what has happened before. -/
abbrev Exchange (σ α : Type) := ExceptT Error (StateM σ) α

/-- A way to send requests to the service at a base address. `freshName` gives a name that was not
given before. -/
structure Transport (σ : Type) where
  baseUrl : String
  send : Request → Exchange σ Response
  freshName : StateM σ String

/-- A call as it goes to the service, beside the headers of the session. -/
structure Call where
  method : String
  url : String
  headers : Headers := []
  body : Option String := none
  deriving DecidableEq, Repr, Inhabited

/-- A service: how it answers a call, and what that does to its state. -/
abbrev Server (ω : Type) := Call → StateM ω Response

/-- How a session proves who it is. -/
inductive Auth where
  | none
  | basic (user password : String)
  | bearer (token : String)
  deriving DecidableEq, Repr, Inhabited

/-- The way of a kind, given a pair of user and password and a token. -/
def Auth.ofKind (kind : String) (pair : Option (String × String)) (token : String) :
    Except NameFault Auth :=
  match kind with
  | "basic" => .ok (match pair with
    | some (user, password) => .basic user password
    | Option.none => .none)
  | "bearer" => .ok (.bearer token)
  | "none" => .ok .none
  | _ => .error .auth

/-- What a session is set up with. `tokens` says that writes need a token. -/
structure Config where
  baseUrl : String
  auth : Auth := .none
  timeout : Number.Binary64 := .ofInt 60
  userAgent : String := "urlquery/0.3"
  fixedParams : Params := []
  headers : Headers := []
  tokens : Bool := false
  deriving Inhabited

namespace Config

/-- The base address with one slash at its end. -/
def root (c : Config) : String := trimEndChar '/' c.baseUrl ++ "/"

/-- The headers of every call. -/
def sessionHeaders (c : Config) : Headers :=
  let proof := match c.auth with
    | .bearer token => [("Authorization", "Bearer " ++ token)]
    | _ => []
  Headers.setAll [] (proof ++ [("Accept", "application/json"), ("User-Agent", c.userAgent)]
    ++ c.headers)

/-- User and password of every call. -/
def credentials (c : Config) : Option (String × String) :=
  match c.auth with
  | .basic user password => some (user, password)
  | _ => none

/-- Whether an address names its own host. -/
def isAbsolute (uri : String) : Bool := startsWith "http://" uri || startsWith "https://" uri

/-- The address of a call. -/
def url (c : Config) (uri : String) : String :=
  let url := if isAbsolute uri then uri else c.root ++ trimStartChar '/' uri
  appendQuery url (encodedQuery c.fixedParams)

end Config

/-- The state of a session beside that of its service: the token, once there is one, and how many
names were given. -/
structure Session (ω : Type) where
  service : ω
  token : Option String := none
  named : Nat := 0

namespace Session

variable {ω : Type}

/-- Makes a call. -/
def call (server : Server ω) (c : Call) : Exchange (Session ω) Response := fun s =>
  let (answer, service) := server c s.service
  (.ok answer, { s with service := service })

/-- An answer, unless it reports an error. -/
def accepted (url : String) (r : Response) : Except Error Response :=
  if 400 ≤ r.status then .error (.service ⟨r.status, r.errorText, url, r.headers⟩) else .ok r

/-- What a token is missing for. -/
def missingToken : String := "Failed to obtain CSRF token"

/-- Obtains a token. -/
def fetchToken (server : Server ω) (c : Config) : Exchange (Session ω) String := do
  let url := c.url ""
  let answer ← accepted url
    (← call server { method := "GET", url := url, headers := [("X-CSRF-Token", "Fetch")] })
  match nonEmpty? (answer.headers.get? "x-csrf-token") with
  | some token =>
    modify fun s => { s with token := some token }
    pure token
  | none => throw (.service ⟨400, missingToken, url, answer.headers⟩)

/-- The token, obtained once. -/
def ensureToken (server : Server ω) (c : Config) : Exchange (Session ω) String := do
  match (← get).token with
  | some token => pure token
  | none => fetchToken server c

/-- Whether a method only reads. -/
def isRead (method : String) : Bool := upper method ∈ ["GET", "HEAD", "OPTIONS"]

/-- Sends a request. -/
def send (server : Server ω) (c : Config) (r : Request) : Exchange (Session ω) Response := do
  let url := c.url r.encodedUri
  let headers ←
    if c.tokens && !isRead r.method then
      pure (r.headers.put "X-CSRF-Token" (← ensureToken server c))
    else pure r.headers
  let answer ← call server { method := r.method, url := url, headers := headers, body := r.body }
  accepted url answer

/-- The next name of a session. -/
def nextName (names : Nat → String) : StateM (Session ω) String := fun s =>
  (names s.named, { s with named := s.named + 1 })

/-- The transport of a session. -/
def transport (server : Server ω) (c : Config) (names : Nat → String) :
    Transport (Session ω) where
  baseUrl := c.root
  send := send server c
  freshName := nextName names

end Session

end EntityQuery
