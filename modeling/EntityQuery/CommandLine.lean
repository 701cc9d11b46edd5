import EntityQuery.Error
import EntityQuery.Text.Casing
import EntityQuery.Transport.Connection

/-!
# The command line of the gateway

Flags say where the gateway listens and how large a page may be; the environment holds what they
leave out. A long flag may be cut short where only one flag begins like that, and its value may
follow it behind an equals sign or as the next argument.
-/

namespace EntityQuery

open Text Number

/-- The flags. -/
inductive Flag where
  | help
  | host
  | portNumber
  | maxLimit
  | reload
  | logLevel
  deriving DecidableEq, Repr

/-- The names of the flags. -/
def Flag.names : List (String × Flag) :=
  [("-h", help), ("--help", help), ("--host", host), ("--port", portNumber),
   ("--max-limit", maxLimit), ("--reload", reload), ("--log-level", logLevel)]

/-- What an argument is by itself. -/
inductive Argument where
  | plain
  | flag (flag : Flag) (value : Option String)
  | ambiguous
  | unknown
  deriving DecidableEq, Repr

namespace Argument

/-- Whether all characters are digits, of any script. -/
def allDigits (cs : List Char) : Bool := cs.all fun c => (decimalValue? c).isSome

/-- Whether a text is a minus and a plain number, with a line end at most behind it. -/
def isNegative (s : String) : Bool :=
  match s.toList with
  | '-' :: cs =>
    let cs := if cs.getLast? = some '\n' then cs.dropLast else cs
    match cutChars? ['.'] cs with
    | some (whole, places) => allDigits whole && places ≠ [] && allDigits places
    | none => cs ≠ [] && allDigits cs
  | _ => false

/-- An argument with a dash that begins no flag. -/
def ofOther (s : String) : Argument :=
  if isNegative s || contains " " s then plain else unknown

/-- A long flag that may be cut short. -/
def ofLong (s name : String) (value : Option String) : Argument :=
  match Flag.names.lookup name with
  | some f => flag f value
  | none =>
    match Flag.names.filter (startsWith name ·.1) with
    | [] => ofOther s
    | [(_, f)] => flag f value
    | _ => ambiguous

/-- A short flag. It may be repeated and takes no value; other letters behind it do not count. -/
def ofShort (s : String) : Argument :=
  match s.toList with
  | '-' :: 'h' :: r =>
    match r.dropWhile (· == 'h') with
    | '=' :: _ | '-' :: _ => flag .help (some (String.ofList r))
    | _ => flag .help none
  | _ => ofOther s

/-- Reads an argument. -/
def read (s : String) : Argument :=
  if !startsWith "-" s || s = "-" then plain
  else if startsWith "--" s then
    match cut? "=" s with
    | some (name, value) => ofLong s name (some value)
    | none => ofLong s s none
  else ofShort s

end Argument

/-- How the gateway is to be launched. -/
structure Launch where
  host : String
  portNumber : Int
  maxLimit : Option Int := none
  reload : Bool
  logLevel : String
  deriving DecidableEq, Repr

/-- What the command line asks for. -/
inductive Invocation where
  | help
  | launch (launch : Launch)
  deriving DecidableEq, Repr

namespace Launch

/-- The integer of a flag. -/
def integer (s : String) : Except Error Int :=
  match integerOfText? s with
  | some n => .ok n
  | none => .error (.malformed .arguments)

/-- Sets a flag that takes a value. -/
def set (l : Launch) (f : Flag) (value : String) : Except Error Launch :=
  match f with
  | .host => .ok { l with host := value }
  | .portNumber => (integer value).map fun n => { l with portNumber := n }
  | .maxLimit => (integer value).map fun n => { l with maxLimit := some n }
  | .logLevel => .ok { l with logLevel := value }
  | .help | .reload => .error (.malformed .arguments)

/-- The launch that the environment asks for. -/
def default (env : Environment) : Except Error Launch :=
  match integerOfText? (env.getD "URLQUERY_PORT" "8055") with
  | none => .error (.malformed .number)
  | some portNumber => .ok {
      host := env.getD "URLQUERY_HOST" "127.0.0.1"
      portNumber := portNumber
      reload := lower (env.getD "URLQUERY_RELOAD" "false") = "true"
      logLevel := env.getD "URLQUERY_LOG_LEVEL" "info" }

/-- The environment that the gateway starts with. -/
def environment (l : Launch) (env : Environment) : Environment :=
  match l.maxLimit with
  | some n => ("URLQUERY_MAX_LIMIT", integerText n) :: env.filter (·.1 ≠ "URLQUERY_MAX_LIMIT")
  | none => env

/-- What is said before the gateway listens. -/
def greeting (l : Launch) : String :=
  "urlquery gateway listening on http://" ++ l.host ++ ":" ++ integerText l.portNumber
    ++ " (dialect registry: /dialects)"

end Launch

namespace Invocation

/-- Follows an argument that is refused at the end: help may still be asked for before. -/
def refused : Except Error Invocation → Except Error Invocation
  | .ok help => .ok help
  | _ => .error (.malformed .arguments)

/-- Follows the arguments, from left to right. -/
def follow : List String → Launch → Except Error Invocation
  | [], l => .ok (launch l)
  | "--" :: _, _ => .error (.malformed .arguments)
  | s :: rest, l =>
    match Argument.read s with
    | .flag .help none => .ok help
    | .flag .reload none => follow rest { l with reload := true }
    | .flag f (some value) =>
      match l.set f value with
      | .ok l => follow rest l
      | .error e => .error e
    | .flag f none =>
      match rest with
      | [] => .error (.malformed .arguments)
      | value :: rest =>
        match Argument.read value, l.set f value with
        | .plain, .ok l => follow rest l
        | _, _ => .error (.malformed .arguments)
    | _ => refused (follow rest l)

/-- Reads the arguments. Flags that could be several are refused before any is followed. -/
def read (arguments : List String) (env : Environment) : Except Error Invocation := do
  let l ← Launch.default env
  if (arguments.takeWhile (· ≠ "--")).any (Argument.read · = .ambiguous) then
    throw (.malformed .arguments)
  follow arguments l

end Invocation

end EntityQuery
