import EntityQuery.Text.Basic
import EntityQuery.Text.Quoted

/-!
# Tokens of selectors

Names, strings, numbers and marks. Blanks count, since they stand for a relation; comments do not.
-/

namespace EntityQuery.Html.Selector

open Text

/-- A token of a selector. -/
inductive Token where
  | space
  | name (s : String)
  | hash (s : String)
  | string (s : String)
  | number (s : String)
  | delim (c : Char)
  deriving DecidableEq, Repr, Inhabited

/-- The characters that separate. -/
def isSpace (c : Char) : Bool :=
  c = ' ' || c = '\t' || c = '\r' || c = '\n' || c = '\x0c'

/-- Whether the character ends a line. -/
def endsLine (c : Char) : Bool := c = '\n' || c = '\r' || c = '\x0c'

/-- The length of an escape behind its backslash; zero when it is none. -/
def escapeLength (cs : List Char) : Nat :=
  let digits := (cs.take 6).takeWhile fun c => (hexDigit? c).isSome
  if digits.isEmpty then
    match cs with
    | c :: _ => if endsLine c then 0 else 1
    | [] => 0
  else
    match cs.drop digits.length with
    | '\r' :: '\n' :: _ => digits.length + 2
    | c :: _ => if isSpace c then digits.length + 1 else digits.length
    | [] => digits.length

/-- How many characters a character of a name takes at the start of a text; zero when there is
none. -/
def nameCharLength (isPlain : Char → Bool) (cs : List Char) : Nat :=
  match cs with
  | '\\' :: r => if escapeLength r = 0 then 0 else escapeLength r + 1
  | c :: _ => if isPlain c || 0x80 ≤ c.toNat then 1 else 0
  | [] => 0

/-- Whether a name may begin with the character. -/
def startsName (c : Char) : Bool := c.isAlpha || c = '_'

/-- Whether a name may hold the character. -/
def inName (c : Char) : Bool := c.isAlphanum || c = '_' || c = '-'

/-- How many characters belong to a name that goes on at the start of a text. -/
def nameRest : (fuel : Nat) → List Char → Nat
  | 0, _ => 0
  | fuel + 1, cs =>
    let n := nameCharLength inName cs
    if n = 0 then 0 else n + nameRest fuel (cs.drop n)

/-- How many characters a name takes at the start of a text; zero when there is none. -/
def nameLength (cs : List Char) : Nat :=
  let sign := match cs with
    | '-' :: _ => 1
    | _ => 0
  let n := nameCharLength startsName (cs.drop sign)
  if n = 0 then 0 else sign + n + nameRest cs.length (cs.drop (sign + n))

/-- The character with a number; one that is too large is replaced. -/
def characterOf (n : Nat) : Char := if n.isValidChar then Char.ofNat n else Char.ofNat 0xFFFD

/-- A text with its numbered escapes resolved. -/
def resolveNumbers : (fuel : Nat) → List Char → List Char
  | 0, cs => cs
  | _ + 1, [] => []
  | fuel + 1, '\\' :: r =>
    let digits := (r.take 6).takeWhile fun c => (hexDigit? c).isSome
    if digits.isEmpty then '\\' :: resolveNumbers fuel r
    else
      characterOf (digits.foldl (fun n c => n * 16 + (hexDigit? c).getD 0) 0)
        :: resolveNumbers fuel (r.drop (escapeLength r))
  | fuel + 1, c :: r => c :: resolveNumbers fuel r

/-- A text with its plain escapes resolved. -/
def resolvePlain : List Char → List Char
  | '\\' :: c :: r => if c = '\n' then '\\' :: c :: resolvePlain r else c :: resolvePlain r
  | c :: r => c :: resolvePlain r
  | [] => []

/-- A text with its escapes resolved. -/
def unescape (cs : List Char) : String :=
  String.ofList (resolvePlain (resolveNumbers (cs.length + 1) cs))

/-- The content of a string up to a character that cannot be part of it, with escaped line ends
left out, and what follows. -/
def stringContent (quote : Char) : (fuel : Nat) → List Char → List Char × List Char
  | 0, cs => ([], cs)
  | _ + 1, [] => ([], [])
  | fuel + 1, '\\' :: r =>
    let keep (n : Nat) (content : List Char) : List Char × List Char :=
      let (more, rest) := stringContent quote fuel (r.drop n)
      (content ++ more, rest)
    match r with
    | '\r' :: '\n' :: _ => keep 2 []
    | c :: _ =>
      if endsLine c then keep 1 []
      else keep (escapeLength r) ('\\' :: r.take (escapeLength r))
    | [] => ([], ['\\'])
  | fuel + 1, c :: r =>
    if c = quote || endsLine c then ([], c :: r)
    else
      let (more, rest) := stringContent quote fuel r
      (c :: more, rest)

/-- A number at the start of a text: an optional sign, and digits with at most one point, which
digits follow. -/
def numberLength (cs : List Char) : Nat :=
  let sign := match cs with
    | '+' :: _ | '-' :: _ => 1
    | _ => 0
  let digits := ((cs.drop sign).takeWhile Char.isDigit).length
  match cs.drop (sign + digits) with
  | '.' :: r =>
    let places := (r.takeWhile Char.isDigit).length
    if places = 0 then (if digits = 0 then 0 else sign + digits)
    else sign + digits + 1 + places
  | _ => if digits = 0 then 0 else sign + digits

/-- What follows a comment, which may lack its end. -/
def afterComment (cs : List Char) : List Char :=
  match cutChars? ['*', '/'] cs with
  | some (_, rest) => rest
  | none => []

/-- The token that is neither blank nor name at the start of a text; nothing stands for a comment.
A string without end is malformed. -/
def other? (c : Char) (r : List Char) : Option (Option Token × List Char) :=
  let cs := c :: r
  if c = '#' ∧ nameRest cs.length r ≠ 0 then
    let n := nameRest cs.length r
    some (some (.hash (unescape (r.take n))), r.drop n)
  else if c = '\'' ∨ c = '"' then
    let (content, rest) := stringContent c (r.length + 1) r
    match rest with
    | d :: rest => if d = c then some (some (.string (unescape content)), rest) else none
    | [] => none
  else if numberLength cs ≠ 0 then
    some (some (.number (String.ofList (cs.take (numberLength cs)))), cs.drop (numberLength cs))
  else
    match c, r with
    | '/', '*' :: r => some (none, afterComment r)
    | c, r => some (some (.delim c), r)

/-- The tokens of a text. -/
def tokens? : (fuel : Nat) → List Char → Option (List Token)
  | 0, _ => none
  | _ + 1, [] => some []
  | fuel + 1, c :: r =>
    if isSpace c then (tokens? fuel (r.dropWhile isSpace)).map (.space :: ·)
    else
      let n := nameLength (c :: r)
      if n ≠ 0 then
        (tokens? fuel ((c :: r).drop n)).map (.name (unescape ((c :: r).take n)) :: ·)
      else
        match other? c r with
        | some (token, rest) => (tokens? fuel rest).map (token.toList ++ ·)
        | none => none

end EntityQuery.Html.Selector
