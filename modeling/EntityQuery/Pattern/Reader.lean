import EntityQuery.Pattern.Basic
import EntityQuery.Number.Integer
import EntityQuery.Text.Quoted

/-!
# Reading patterns

The syntax of regular expressions: sets, classes, groups with and without names, references,
assertions, repetition and flags. `Pattern.read?` fails where the text is no pattern.
-/

namespace EntityQuery.Pattern

/-- What letters before a pattern or a group switch on. -/
structure Flags where
  fold : Bool := false
  lines : Bool := false
  dotAll : Bool := false
  verbose : Bool := false
  ascii : Bool := false

/-- Where a reader stands: the text ahead, the groups opened so far, their names, the groups that
are still open and the widths of those that are closed. Inside a pattern that looks behind, only
the groups before it may be referred to; `limit` is how many these are. -/
structure Reading where
  rest : List Char
  count : Nat := 0
  names : List (String × Nat) := []
  unclosed : List Nat := []
  widths : List (Nat × Option Nat) := []
  limit : Option Nat := none

/-- A step of reading; it fails where the text is no pattern. -/
abbrev Read := StateT Reading Option

namespace Read

/-- The text ahead. -/
def ahead : Read (List Char) := do pure (← get).rest

/-- Takes one character. -/
def char : Read Char := do
  match (← get).rest with
  | [] => failure
  | c :: r => modify fun s => { s with rest := r }; pure c

/-- Takes `lead` if it comes next. -/
def eat (lead : String) : Read Bool := do
  match Text.after? lead.toList (← get).rest with
  | some r => modify fun s => { s with rest := r }; pure true
  | none => pure false

/-- Takes what comes before `stop`, and `stop`. -/
def upTo (stop : String) : Read String := do
  match Text.cutChars? stop.toList (← get).rest with
  | some (a, r) => modify fun s => { s with rest := r }; pure (String.ofList a)
  | none => failure

/-- Takes the longest run of characters that a test accepts. -/
def run (test : Char → Bool) : Read (List Char) := do
  let cs := (← get).rest.takeWhile test
  modify fun s => { s with rest := s.rest.drop cs.length }
  pure cs

/-- Takes exactly `n` hexadecimal digits. -/
def hexCode (n : Nat) : Read Char := do
  let cs := (← get).rest.take n
  let ds := cs.filterMap Text.hexDigit?
  let code := ds.foldl (fun a d => 16 * a + d) 0
  if ds.length = n ∧ code < 0x110000 then
    modify fun s => { s with rest := s.rest.drop n }
    pure (Char.ofNat code)
  else failure

end Read

/-- Whether a character is an octal digit. -/
def isOctal (c : Char) : Bool := '0' ≤ c && c ≤ '7'

/-- The number of octal digits. -/
def octalValue (ds : List Char) : Nat := ds.foldl (fun a d => 8 * a + (d.toNat - 48)) 0

/-- The number of decimal digits. -/
def decimalValue (ds : List Char) : Nat := ds.foldl (fun a d => 10 * a + (d.toNat - 48)) 0

/-- The character of a letter escape that means one character anywhere. -/
def controlEscape? : Char → Option Char
  | 'a' => some (Char.ofNat 7)
  | 'f' => some (Char.ofNat 12)
  | 'n' => some '\n'
  | 'r' => some '\r'
  | 't' => some '\t'
  | 'v' => some (Char.ofNat 11)
  | '\\' => some '\\'
  | _ => none

/-- The class of a letter escape. -/
def kindEscape? (ascii : Bool) : Char → Option SetItem
  | 'd' => some (.kind .decimal false ascii)
  | 'D' => some (.kind .decimal true ascii)
  | 's' => some (.kind .blank false ascii)
  | 'S' => some (.kind .blank true ascii)
  | 'w' => some (.kind .word false ascii)
  | 'W' => some (.kind .word true ascii)
  | _ => none

/-- The character that an escape by code stands for, after its letter. -/
def codeEscape (letter : Char) : Read Char :=
  match letter with
  | 'x' => Read.hexCode 2
  | 'u' => Read.hexCode 4
  | 'U' => Read.hexCode 8
  | _ => failure

/-- Up to `n` further octal digits after the ones given. -/
def octalEscape (first : List Char) (n : Nat) : Read Char := do
  let cs := ((← Read.ahead).take n).takeWhile isOctal
  modify fun s => { s with rest := s.rest.drop cs.length }
  let code := octalValue (first ++ cs)
  if code < 0x100 then pure (Char.ofNat code) else failure

/-- A member of a set after its backslash. -/
def setEscape (ascii : Bool) : Read SetItem := do
  let c ← Read.char
  match kindEscape? ascii c with
  | some item => pure item
  | none =>
    if c = 'b' then pure (.char (Char.ofNat 8))
    else if c = 'x' ∨ c = 'u' ∨ c = 'U' then do pure (.char (← codeEscape c))
    else if isOctal c then do pure (.char (← octalEscape [c] 2))
    else if c.isDigit then failure
    else match controlEscape? c with
      | some d => pure (.char d)
      | none => if c.isAlpha then failure else pure (.char c)

/-- One member of a set, where a range has not been looked for. -/
def setMember (ascii : Bool) : Read SetItem := do
  let c ← Read.char
  if c = '\\' then setEscape ascii else pure (.char c)

/-- The members of a set up to its bracket. A bracket in first place is a member. -/
def setItems (ascii : Bool) (first : Bool) : (fuel : Nat) → Read (List SetItem)
  | 0 => failure
  | fuel + 1 => do
    if !first && (← Read.eat "]") then pure []
    else
      let item ← setMember ascii
      match ← Read.ahead with
      | '-' :: ']' :: r =>
        modify fun s => { s with rest := r }
        pure [item, .char '-']
      | '-' :: r =>
        modify fun s => { s with rest := r }
        let other ← setMember ascii
        match item, other with
        | .char a, .char b =>
          if b < a then failure else do
            let items ← setItems ascii false fuel
            pure (.range a b :: items)
        | _, _ => failure
      | _ => do
        let items ← setItems ascii false fuel
        pure (item :: items)

/-- Whether a group is closed. -/
def Reading.isClosed (s : Reading) (n : Nat) : Bool := n ≤ s.count && n ∉ s.unclosed

/-- Whether a group may be referred to as far as looking behind is concerned. -/
def Reading.admits (s : Reading) (n : Nat) : Bool :=
  match s.limit with
  | some limit => s.isClosed n && n ≤ limit
  | none => true

/-- The text that a group captured. -/
def sameText (flags : Flags) (n : Nat) : Read Pattern := do
  let s ← get
  if s.isClosed n && s.admits n then
    pure (.same n flags.fold ((s.widths.lookup n).getD none))
  else failure

/-- A reference to a group that is closed, after its first digit. -/
def groupReference (flags : Flags) (digit : Char) : Read Pattern := do
  let more := ((← Read.ahead).take 1).takeWhile Char.isDigit
  modify fun s => { s with rest := s.rest.drop more.length }
  sameText flags (decimalValue (digit :: more))

/-- The escapes outside sets. -/
def escape (flags : Flags) : Read Pattern := do
  let c ← Read.char
  let literal (d : Char) : Pattern := .one (.literal d flags.fold)
  match kindEscape? flags.ascii c with
  | some item => pure (.one (.set false [item] flags.fold))
  | none =>
    if c = 'A' then pure (.assertion .start)
    else if c = 'Z' then pure (.assertion .lastFinish)
    else if c = 'b' then pure (.assertion (.wordEdge flags.ascii false))
    else if c = 'B' then pure (.assertion (.wordEdge flags.ascii true))
    else if c = 'x' ∨ c = 'u' ∨ c = 'U' then do pure (literal (← codeEscape c))
    else if c = '0' then do pure (literal (← octalEscape ['0'] 2))
    else if c.isDigit then do
      match ← Read.ahead with
      | d :: e :: r =>
        if isOctal c && isOctal d && isOctal e then
          modify fun s => { s with rest := r }
          let code := octalValue [c, d, e]
          if code < 0x100 then pure (literal (Char.ofNat code)) else failure
        else groupReference flags c
      | _ => groupReference flags c
    else match controlEscape? c with
      | some d => pure (literal d)
      | none => if c.isAlpha then failure else pure (literal c)

/-- Whether a text may name a group: a letter or underscore, then word characters. -/
def isGroupName (name : String) : Bool :=
  match name.toList with
  | [] => false
  | c :: r => Text.isWord c && !Text.isDigit c && r.all Text.isWord

/-- The flags that letters switch on. -/
def flagOn (flags : Flags) : Char → Option Flags
  | 'i' => some { flags with fold := true }
  | 'm' => some { flags with lines := true }
  | 's' => some { flags with dotAll := true }
  | 'x' => some { flags with verbose := true }
  | 'a' => some { flags with ascii := true }
  | 'u' => some { flags with ascii := false }
  | _ => none

/-- The flags that letters switch off. -/
def flagOff (flags : Flags) : Char → Option Flags
  | 'i' => some { flags with fold := false }
  | 'm' => some { flags with lines := false }
  | 's' => some { flags with dotAll := false }
  | 'x' => some { flags with verbose := false }
  | _ => none

/-- The flags after a list of letters; `a` and `u` exclude one another. -/
def flagsOn (flags : Flags) (letters : List Char) : Option Flags :=
  if 'a' ∈ letters ∧ 'u' ∈ letters then none else letters.foldlM flagOn flags

/-- Bounds of a repetition after its opening brace, if the brace opens one. -/
def bounds? (cs : List Char) : Option (Nat × Option Nat × List Char) :=
  let low := cs.takeWhile Char.isDigit
  let rest := cs.drop low.length
  match rest with
  | '\x7d' :: r => if low = [] then none else some (decimalValue low, some (decimalValue low), r)
  | ',' :: r =>
    let high := r.takeWhile Char.isDigit
    match r.drop high.length with
    | '\x7d' :: r =>
      some (decimalValue low, if high = [] then none else some (decimalValue high), r)
    | _ => none
  | _ => none

/-- The bounds of the repetition that comes next, if one does. -/
def quantifier? : Read (Option (Nat × Option Nat)) := do
  match ← Read.ahead with
  | '*' :: r => modify fun s => { s with rest := r }; pure (some (0, none))
  | '+' :: r => modify fun s => { s with rest := r }; pure (some (1, none))
  | '?' :: r => modify fun s => { s with rest := r }; pure (some (0, some 1))
  | '\x7b' :: r =>
    match bounds? r with
    | some (least, most, r) => modify fun s => { s with rest := r }; pure (some (least, most))
    | none => pure none
  | _ => pure none

/-- What stands behind a quantifier says how the repetition gives way. -/
def readGreed : Read Greed := do
  match ← Read.ahead with
  | '?' :: r => modify fun s => { s with rest := r }; pure .lazy
  | '+' :: r => modify fun s => { s with rest := r }; pure .possessive
  | _ => pure .greedy

/-- Skips comment groups, and blanks and comment lines where they do not count. -/
def skipIgnored (flags : Flags) : (fuel : Nat) → Read Unit
  | 0 => pure ()
  | fuel + 1 => do
    if ← Read.eat "(?#" then
      let _ ← Read.upTo ")"
      skipIgnored flags fuel
    else if flags.verbose then
      match ← Read.ahead with
      | c :: r =>
        if c ∈ [' ', '\t', '\n', '\r', Char.ofNat 11, Char.ofNat 12] then
          modify fun s => { s with rest := r }
          skipIgnored flags fuel
        else if c = '#' then
          let line := r.takeWhile (· != '\n')
          modify fun s => { s with rest := r.drop (line.length + 1) }
          skipIgnored flags fuel
        else pure ()
      | [] => pure ()

/-- Opens a group, runs `body` inside it and closes it. -/
def captured (name : Option String) (body : Read Pattern) : Read Pattern := do
  let s ← get
  let index := s.count + 1
  match name with
  | some n => if (s.names.lookup n).isSome then failure
  | none => pure ()
  set { s with
    count := index
    names := match name with
      | some n => (n, index) :: s.names
      | none => s.names
    unclosed := index :: s.unclosed }
  let p ← body
  if !(← Read.eat ")") then failure
  modify fun s => { s with
    unclosed := s.unclosed.filter (· != index)
    widths := (index, p.width?) :: s.widths }
  pure (.group index p)

/-- The group that a name or number refers to. -/
def groupIndex (name : String) : Read Nat := do
  let s ← get
  match s.names.lookup name with
  | some n => pure n
  | none =>
    let ds := name.toList
    if ds ≠ [] ∧ ds.all Char.isDigit then
      let n := decimalValue ds
      if 0 < n then pure n else failure
    else failure

/-- The letters of flags to switch off, where a minus leads them. `first` and `rest` are what was
read before. -/
def lettersOff (first : Char) (rest : List Char) : Read (Option (List Char)) := do
  if first = '-' then pure (some rest)
  else
    match ← Read.ahead with
    | '-' :: r =>
      modify fun s => { s with rest := r }
      pure (some (← Read.run fun c => c.isAlpha))
    | _ => pure none

/-- Runs `body` and takes the parenthesis that closes it. -/
def closed (body : Read Pattern) : Read Pattern := do
  let p ← body
  if ← Read.eat ")" then pure p else failure

mutual

/-- Alternatives, separated by bars. -/
def alternatives (flags : Flags) : (fuel : Nat) → Read Pattern
  | 0 => failure
  | fuel + 1 => do
    let p ← sequence flags fuel
    if ← Read.eat "|" then
      let q ← alternatives flags fuel
      pure (.alt p q)
    else pure p

/-- Items one after the other, up to a bar, a parenthesis or the end. -/
def sequence (flags : Flags) : (fuel : Nat) → Read Pattern
  | 0 => failure
  | fuel + 1 => do
    skipIgnored flags fuel
    match ← Read.ahead with
    | [] => pure .empty
    | c :: _ =>
      if c = '|' ∨ c = ')' then pure .empty
      else
        let p ← item flags fuel
        let p ← quantified flags fuel p
        let q ← sequence flags fuel
        pure (.seq p q)

/-- An item with the repetition behind it. Assertions on places cannot be repeated, and neither
can a repetition. -/
def quantified (flags : Flags) : (fuel : Nat) → Pattern → Read Pattern
  | 0, _ => failure
  | fuel + 1, p => do
    skipIgnored flags fuel
    match ← quantifier? with
    | none => pure p
    | some (least, most) =>
      match p with
      | .assertion _ => failure
      | _ =>
        match most with
        | some m => if m < least then failure
        | none => pure ()
        let greed ← readGreed
        skipIgnored flags fuel
        match ← quantifier? with
        | some _ => failure
        | none => pure (.rep least most greed p)

/-- One item. -/
def item (flags : Flags) : (fuel : Nat) → Read Pattern
  | 0 => failure
  | fuel + 1 => do
    let c ← Read.char
    if c = '\\' then escape flags
    else if c = '.' then pure (.one (.any flags.dotAll))
    else if c = '^' then pure (.assertion (if flags.lines then .startOfLine else .start))
    else if c = '$' then pure (.assertion (if flags.lines then .finishOfLine else .finish))
    else if c = '[' then
      let negated ← Read.eat "^"
      let items ← setItems flags.ascii true fuel
      pure (.one (.set negated items flags.fold))
    else if c = '(' then
      if ← Read.eat "?" then extension flags fuel
      else captured none (alternatives flags fuel)
    else if c = '*' ∨ c = '+' ∨ c = '?' then failure
    else if c = '\x7b' then
      match bounds? (← Read.ahead) with
      | some _ => failure
      | none => pure (.one (.literal c flags.fold))
    else pure (.one (.literal c flags.fold))

/-- What follows the question mark of a group. -/
def extension (flags : Flags) : (fuel : Nat) → Read Pattern
  | 0 => failure
  | fuel + 1 => do
    let c ← Read.char
    match c with
    | ':' => closed (alternatives flags fuel)
    | '>' => do pure (.atomic (← closed (alternatives flags fuel)))
    | '=' => do pure (.ahead false (← closed (alternatives flags fuel)))
    | '!' => do pure (.ahead true (← closed (alternatives flags fuel)))
    | '<' =>
      let sign ← Read.char
      let negated ← if sign = '=' then pure false else if sign = '!' then pure true else failure
      let outer := (← get).limit
      modify fun s => { s with limit := s.limit.or (some s.count) }
      let p ← closed (alternatives flags fuel)
      modify fun s => { s with limit := outer }
      match p.width? with
      | some n => pure (.behind negated n p)
      | none => failure
    | 'P' =>
      if ← Read.eat "<" then
        let name ← Read.upTo ">"
        if isGroupName name then captured (some name) (alternatives flags fuel) else failure
      else if ← Read.eat "=" then
        let name ← Read.upTo ")"
        match (← get).names.lookup name with
        | some n => sameText flags n
        | none => failure
      else failure
    | '(' =>
      let name ← Read.upTo ")"
      let n ← groupIndex name
      if !(← get).admits n then failure
      let yes ← sequence flags fuel
      let no ← if ← Read.eat "|" then sequence flags fuel else pure .empty
      if ← Read.eat ")" then pure (.ifGroup n yes no) else failure
    | c =>
      let rest ← Read.run fun c => c.isAlpha
      let on := if c = '-' then [] else c :: rest
      match flagsOn flags on with
      | none => failure
      | some inner =>
        let off ← lettersOff c rest
        if off = some [] ∨ (off.getD []).any (· ∈ on) then failure
        else
          match (off.getD []).foldlM flagOff inner with
          | none => failure
          | some inner =>
            if ← Read.eat ":" then closed (alternatives inner fuel) else failure

end

/-- The flags that stand before everything but comments, and the text behind them. -/
def leadingFlags (flags : Flags) : (fuel : Nat) → List Char → Flags × List Char
  | 0, cs => (flags, cs)
  | fuel + 1, cs =>
    match cs with
    | '(' :: '?' :: '#' :: r =>
      match r.dropWhile (· != ')') with
      | _ :: rest => leadingFlags flags fuel rest
      | [] => (flags, cs)
    | '(' :: '?' :: r =>
      let letters := r.takeWhile fun c => c.isAlpha
      match r.drop letters.length with
      | ')' :: rest =>
        if letters = [] then (flags, cs)
        else match flagsOn flags letters with
          | some flags => leadingFlags flags fuel rest
          | none => (flags, cs)
      | _ => (flags, cs)
    | _ => (flags, cs)

/-- Every group that a pattern refers to. -/
def references : Pattern → List Nat
  | .ifGroup n yes no => n :: (yes.references ++ no.references)
  | .seq a b | .alt a b => a.references ++ b.references
  | .rep _ _ _ body | .group _ body | .ahead _ body | .behind _ _ body | .atomic body =>
    body.references
  | _ => []

/-- A pattern with the names and the number of its groups. -/
structure Compiled where
  pattern : Pattern
  names : List (String × Nat)
  count : Nat

/-- The pattern that a text stands for. -/
def read? (s : String) : Option Compiled := do
  let cs := s.toList
  let (flags, rest) := leadingFlags {} cs.length cs
  let (p, r) ← StateT.run (alternatives flags (2 * rest.length + 4)) { rest := rest }
  if r.rest = [] ∧ p.references.all (· ≤ r.count) then some ⟨p, r.names, r.count⟩ else none

end EntityQuery.Pattern
