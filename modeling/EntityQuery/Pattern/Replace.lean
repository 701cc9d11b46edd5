import EntityQuery.Pattern.Reader

/-!
# Replacing what a pattern matches

Matches are taken from the left and do not overlap. An empty match counts unless it touches an
empty match before it. The replacement may refer to groups by number or name.
-/

namespace EntityQuery.Pattern

/-- A match: the text before it, its own text, the captures, and the place behind it. -/
structure Found where
  between : List Char
  text : List Char
  place : Place

/-- The match that starts at a place. It must not be empty when `advance` is set. -/
def matchHere (p : Pattern) (advance : Bool) (between before rest : List Char) : Option Found :=
  (p.run ⟨before, rest, []⟩ fun q =>
    if advance && q.rest.length == rest.length then none else some q).map fun q =>
      ⟨between.reverse, rest.take (rest.length - q.rest.length), q⟩

/-- The first match from a place on. At the place itself it must not be empty when `advance` is
set. -/
def search (p : Pattern) (advance : Bool) (between before : List Char) :
    List Char → Option Found
  | [] => matchHere p advance between before []
  | c :: r =>
    (matchHere p advance between before (c :: r)).orElse fun _ =>
      search p false (c :: between) (c :: before) r

/-- A piece of a replacement. -/
inductive Piece where
  | literal (text : List Char)
  | group (index : Nat)

/-- Why a replacement is no replacement. -/
inductive TemplateFault where
  | malformed
  | unknownName
  deriving DecidableEq, Repr

/-- The group that a name in a replacement refers to. -/
def templateGroup (c : Compiled) (name : String) : Except TemplateFault Nat :=
  let ds := name.toList
  if ds ≠ [] ∧ ds.all Char.isDigit then
    let n := decimalValue ds
    if n ≤ c.count then .ok n else .error .malformed
  else if isGroupName name then
    match c.names.lookup name with
    | some n => .ok n
    | none => .error .unknownName
  else .error .malformed

/-- A reference of one or two digits, after its first digit. -/
def templateReference (c : Compiled) (d : Char) (r : List Char) :
    Except TemplateFault (Piece × List Char) :=
  let more := (r.take 1).takeWhile Char.isDigit
  let n := decimalValue (d :: more)
  if n ≤ c.count then .ok (.group n, r.drop more.length) else .error .malformed

/-- The number behind a backslash: an octal code, or a group. -/
def templateNumber (c : Compiled) (d : Char) (r : List Char) :
    Except TemplateFault (Piece × List Char) :=
  match d, r with
  | '0', r =>
    let more := (r.take 2).takeWhile isOctal
    .ok (.literal [Char.ofNat (octalValue more % 256)], r.drop more.length)
  | d, e :: f :: r' =>
    if isOctal d && isOctal e && isOctal f then
      let code := octalValue [d, e, f]
      if code < 0x100 then .ok (.literal [Char.ofNat code], r') else .error .malformed
    else templateReference c d (e :: f :: r')
  | d, r => templateReference c d r

/-- The pieces of a replacement. -/
def template (c : Compiled) : (fuel : Nat) → List Char → Except TemplateFault (List Piece)
  | 0, _ => .ok []
  | _ + 1, [] => .ok []
  | fuel + 1, '\\' :: r =>
    match r with
    | [] => .error .malformed
    | 'g' :: '<' :: r =>
      match Text.cutChars? ['>'] r with
      | none => .error .malformed
      | some (name, r) => do
        let n ← templateGroup c (String.ofList name)
        pure (.group n :: (← template c fuel r))
    | d :: r =>
      if d.isDigit then do
        let (piece, r) ← templateNumber c d r
        pure (piece :: (← template c fuel r))
      else
        match if d = 'b' then some (Char.ofNat 8) else controlEscape? d with
        | some x => do pure (.literal [x] :: (← template c fuel r))
        | none =>
          if d.isAlpha then .error .malformed
          else do pure (.literal ['\\', d] :: (← template c fuel r))
  | fuel + 1, x :: r => do pure (.literal [x] :: (← template c fuel r))

/-- The text of a replacement for one match. A group that took no part stands for nothing. -/
def expand (pieces : List Piece) (f : Found) : List Char :=
  pieces.flatMap fun
    | .literal text => text
    | .group 0 => f.text
    | .group n => (f.place.captured.lookup n).getD []

/-- Replaces from a place on. Each match moves on or is empty, and no two empty ones touch, so
twice the length bounds the matches. -/
def replaceFrom (p : Pattern) (pieces : List Piece) (advance : Bool) (before rest : List Char) :
    (fuel : Nat) → List Char
  | 0 => rest
  | fuel + 1 =>
    match search p advance [] before rest with
    | none => rest
    | some f =>
      f.between ++ expand pieces f
        ++ replaceFrom p pieces f.text.isEmpty f.place.before f.place.rest fuel

/-- Every match replaced. -/
def Compiled.replace (c : Compiled) (replacement text : String) :
    Except TemplateFault String := do
  let r := replacement.toList
  let pieces ← template c (r.length + 1) r
  let cs := text.toList
  pure (String.ofList (replaceFrom c.pattern pieces false [] cs (2 * cs.length + 2)))

end EntityQuery.Pattern
