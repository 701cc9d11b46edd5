import EntityQuery.Data.Value
import EntityQuery.Number.Binary64
import EntityQuery.Text.Casing
import EntityQuery.Text.Digit

/-!
# Checks of forms

Reads the members of a form and collects the places of all that are not as asked for. Numbers and
truth values may be given in other forms that stand for them.
-/

namespace EntityQuery

open Text

/-- A place in a form: the names and numbers that lead to it. -/
abbrev Location := List String

/-- What a part of a form holds, or the places of its faults. -/
inductive Check (α : Type) where
  | valid (value : α)
  | faulty (places : List Location)
  deriving Repr

namespace Check

variable {α β : Type}

/-- The places of the faults. -/
def places : Check α → List Location
  | valid _ => []
  | faulty places => places

instance : Applicative Check where
  pure := valid
  seq f x :=
    match f, x () with
    | valid f, valid a => valid (f a)
    | f, x => faulty (f.places ++ x.places)

/-- A fault at the place itself. -/
def fault : Check α := faulty [[]]

/-- The check of something, as a part under a name. -/
def under (name : String) : Check α → Check α
  | valid a => valid a
  | faulty places => faulty (places.map (name :: ·))

/-- The check of a member. A member that is not there has its default, or is a fault. -/
def member (form : Row) (name : String) (default : Option α) (read : Value → Check α) : Check α :=
  match form.get? name, default with
  | some v, _ => (read v).under name
  | none, some a => valid a
  | none, none => faulty [[name]]

/-- The check of the items from a number on. -/
def itemsFrom (read : Value → Check α) : Nat → List Value → Check (List α)
  | _, [] => valid []
  | n, v :: rest =>
    List.cons <$> (read v).under (Number.natText n) <*> itemsFrom read (n + 1) rest

/-- A list with the check of its items. -/
def list (read : Value → Check α) : Value → Check (List α)
  | .list items => itemsFrom read 0 items
  | _ => fault

/-- A map. -/
def map : Value → Check Row
  | .map entries => valid entries
  | _ => fault

/-- A text. -/
def text : Value → Check String
  | .str s => valid s
  | _ => fault

/-- A text, or nothing where null stands. -/
def text? : Value → Check (Option String)
  | .null => valid none
  | .str s => valid (some s)
  | _ => fault

/-- One of several words, exactly. -/
def word (words : List (String × α)) : Value → Check α
  | .str s =>
    match words.lookup s with
    | some a => valid a
    | none => fault
  | _ => fault

/-- The digits of a numeral, which single underscores may separate. -/
def digits? : List Char → Option (List Char)
  | [c] => if c.isDigit then some [c] else none
  | c :: '_' :: r => if c.isDigit then (digits? r).map (c :: ·) else none
  | c :: r => if c.isDigit then (digits? r).map (c :: ·) else none
  | [] => none

/-- A numeral without the zeros behind its point. -/
def withoutZeros (cs : List Char) : List Char :=
  match cutChars? ['.'] cs with
  | some (whole, places) => if places.all (· == '0') then whole else cs
  | none => cs

/-- The integer that a text stands for. -/
def integerText? (s : String) : Option Int :=
  let cs := trimChars s.toList
  let (negative, cs) := match cs with
    | '-' :: r => (true, r)
    | '+' :: r => (false, r)
    | cs => (false, cs)
  (digits? (withoutZeros cs)).map fun ds =>
    let n := Int.ofNat (Number.ofDigits (ds.map fun c => c.toNat - 48))
    if negative then -n else n

/-- The integer that a value stands for. -/
def integer? : Value → Option Int
  | .int n => some n
  | .bool b => some (if b then 1 else 0)
  | .float x => if x.isInteger then x.truncate? else none
  | .str s => integerText? s
  | _ => none

/-- An integer that is not negative. -/
def natural (v : Value) : Check Int :=
  match integer? v with
  | some n => if 0 ≤ n then valid n else fault
  | none => fault

/-- The words that stand for truth values. -/
def truthWords : List (String × Bool) :=
  [("1", true), ("on", true), ("t", true), ("true", true), ("y", true), ("yes", true),
   ("0", false), ("off", false), ("f", false), ("false", false), ("n", false), ("no", false)]

/-- A truth value. -/
def truth : Value → Check Bool
  | .bool b => valid b
  | .str s =>
    match truthWords.lookup (lower s) with
    | some b => valid b
    | none => fault
  | v =>
    match integer? v with
    | some 0 => valid false
    | some 1 => valid true
    | _ => fault

end Check

end EntityQuery
