import EntityQuery.Xml.Token

/-!
# Document types

The declarations before the root of a document. Only the texts that they give names to matter here;
a name keeps the first text that it is given.
-/

namespace EntityQuery.Xml

open Text

/-- What follows the end of a declaration, which may hold quoted texts. -/
def declarationEnd? : (fuel : Nat) → List Char → Option (List Char)
  | 0, _ | _, [] => none
  | _, '>' :: r => some r
  | fuel + 1, c :: r =>
    if c = '"' ∨ c = '\'' then do
      let (_, r) ← cutChars? [c] r
      declarationEnd? fuel r
    else declarationEnd? fuel r

/-- A declared text with its numbered references resolved. -/
def entityText? : (fuel : Nat) → List Char → Option (List Char)
  | 0, _ => none
  | _ + 1, [] => some []
  | fuel + 1, '&' :: '#' :: r => do
    let (digits, rest) ← cutChars? [';'] r
    pure ((← referenced? ('#' :: digits)) :: (← entityText? fuel rest))
  | fuel + 1, c :: r => do pure (c :: (← entityText? fuel r))

/-- The text that a declaration names, behind its keyword. Declarations that lead to other places
name none. -/
def entity? (cs : List Char) : Option (Entities × List Char) :=
  let other : Option (Entities × List Char) :=
    (declarationEnd? cs.length cs).map fun rest => ([], rest)
  match name? (skip cs) with
  | none => other
  | some (name, r) =>
    match skip r with
    | c :: r =>
      if c = '"' ∨ c = '\'' then do
        let (text, r) ← cutChars? [c] r
        let r ← after? ['>'] (skip r)
        pure ([(name, ← entityText? (text.length + 1) text)], r)
      else other
    | [] => none

/-- The named texts of the declarations up to a closing bracket. -/
def declarations? : (fuel : Nat) → List Char → Option (Entities × List Char)
  | 0, _ => none
  | fuel + 1, cs =>
    match skip cs with
    | ']' :: r => some ([], r)
    | '%' :: r => do
      let (_, r) ← cutChars? [';'] r
      declarations? fuel r
    | '<' :: r =>
      match after? "!ENTITY".toList r, r with
      | some r, _ => do
        let (entities, r) ← entity? r
        let (others, r) ← declarations? fuel r
        pure (entities ++ others, r)
      | none, '!' :: '-' :: _ | none, '?' :: _ => do
        let (_, r) ← tag? [] r
        declarations? fuel r
      | none, '!' :: r => do declarations? fuel (← declarationEnd? r.length r)
      | none, _ => none
    | _ => none

/-- The named texts of a document type and what follows it, from its name on. -/
def documentType? : (fuel : Nat) → List Char → Option (Entities × List Char)
  | 0, _ | _, [] => none
  | _, '>' :: r => some ([], r)
  | fuel + 1, '[' :: r => do
    let (entities, r) ← declarations? (fuel + 1) r
    pure (entities, ← after? ['>'] (skip r))
  | fuel + 1, c :: r =>
    if c = '"' ∨ c = '\'' then do
      let (_, r) ← cutChars? [c] r
      documentType? fuel r
    else documentType? fuel r

end EntityQuery.Xml
