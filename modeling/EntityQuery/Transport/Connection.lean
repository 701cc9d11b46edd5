import EntityQuery.Dialect.Basic
import EntityQuery.Transport.Session

/-!
# Connections

The settings of a connection, each given directly or taken from the environment.
-/

namespace EntityQuery

open Text

/-- Named settings of the process. -/
abbrev Environment := List (String × String)

/-- The value of a variable. -/
def Environment.get? (env : Environment) (name : String) : Option String := env.lookup name

/-- The value of a variable, or a default where it is not set. -/
def Environment.getD (env : Environment) (name default : String) : String :=
  (env.get? name).getD default

/-- The words that switch a setting off. -/
def offWords : List String := ["false", "0", "no", ""]

/-- Whether a variable switches a setting on. -/
def Environment.flag (env : Environment) (name : String) (default : Bool) : Bool :=
  match env.get? name with
  | some text => lower (trim text) ∉ offWords
  | none => default

/-- What a connection is asked for. -/
structure ConnectionArguments where
  baseUrl : Option String := none
  user : Option String := none
  password : Option String := none
  bearerToken : Option String := none
  dialect : Option String := none
  verify : Option Bool := none
  timeout : Number.Binary64 := .ofInt 60
  fixedParams : Url.Params := []
  tokens : Bool := false

/-- A connection to one service. -/
structure Connection where
  config : Config
  dialect : String
  verify : Bool
  deriving Inhabited

namespace Connection

/-- The way to prove who one is: a token before a user with a password. -/
def chooseAuth (user password token : String) : Auth :=
  if token ≠ "" then .bearer token
  else if user ≠ "" ∧ password ≠ "" then .basic user password
  else .none

/-- Settles every setting; a base address is needed. -/
def resolve (env : Environment) (a : ConnectionArguments) : Except NameFault Connection :=
  let choose (given : Option String) (name default : String) : String :=
    (nonEmpty? given).getD (env.getD name default)
  let config : Config := {
    baseUrl := choose a.baseUrl "URLQUERY_BASE_URL" ""
    auth := chooseAuth (choose a.user "URLQUERY_USER" "") (choose a.password "URLQUERY_PASS" "")
      (choose a.bearerToken "URLQUERY_BEARER_TOKEN" "")
    timeout := a.timeout
    fixedParams := a.fixedParams
    tokens := a.tokens }
  if config.root = "/" then .error .baseUrl
  else .ok {
    config := config
    dialect := choose a.dialect "URLQUERY_DIALECT" "json"
    verify := a.verify.getD (env.flag "URLQUERY_VERIFY_TLS" true) }

/-- The dialect of a service: the one asked for, or that of the connection. -/
def dialectFor (c : Connection) (asked : Option String) : Except NameFault Dialect :=
  Dialect.ofName ((nonEmpty? asked).getD c.dialect)

end Connection

end EntityQuery
