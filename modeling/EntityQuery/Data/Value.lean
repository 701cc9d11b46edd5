import EntityQuery.Number.Shortest
import EntityQuery.Text.Quoted

/-!
# Values

What a decoded body holds and what filters compare with: null, booleans, integers of any size,
64-bit numbers, text, lists and maps. A map keeps its entries in order of insertion.
-/

namespace EntityQuery

open Number Text

/-- A value of a body, a row or a filter. -/
inductive Value where
  | null
  | bool (b : Bool)
  | int (n : Int)
  | float (x : Binary64)
  | str (s : String)
  | list (items : List Value)
  | map (entries : List (String × Value))
  deriving Inhabited

/-- Named values in order of insertion. -/
abbrev Row := List (String × Value)

/-- The value under a name. -/
def Row.get? (row : Row) (name : String) : Option Value := row.lookup name

/-- Sets the value under a name. A name that is there keeps its place, a new one comes last. -/
def Row.put : (row : Row) → (name : String) → Value → Row
  | [], name, v => [(name, v)]
  | (k, w) :: row, name, v => if k = name then (k, v) :: row else (k, w) :: Row.put row name v

/-- The row without a name. -/
def Row.drop (row : Row) (name : String) : Row := row.filter fun e => e.1 != name

/-- The names of a row in order. -/
def Row.names (row : Row) : List String := row.map Prod.fst

/-- A row from entries, where a later entry overrides an earlier one in its place. -/
def Row.ofEntries (entries : List (String × Value)) : Row :=
  entries.foldl (fun row e => row.put e.1 e.2) []

theorem Row.get?_put (row : Row) (name k : String) (v : Value) :
    (row.put name v).get? k = if k = name then some v else row.get? k := by
  have beq_false {a b : String} (h : a ≠ b) : (a == b) = false := beq_eq_false_iff_ne.2 h
  induction row with
  | nil =>
    by_cases h : k = name
    · simp [Row.put, Row.get?, h]
    · simp [Row.put, Row.get?, List.lookup_cons, List.lookup_nil, h, beq_false h]
  | cons e row ih =>
    obtain ⟨a, w⟩ := e
    simp only [Row.get?] at ih ⊢
    by_cases ha : a = name
    · subst ha
      by_cases hk : k = a
      · simp [Row.put, hk]
      · simp [Row.put, List.lookup_cons, hk, beq_false hk]
    · by_cases hk : k = a
      · subst hk; simp [Row.put, ha]
      · simp only [Row.put, if_neg ha, List.lookup_cons, beq_false hk, ih]

namespace Value

/-- Null and the empty text stand for no value. -/
def isMissing : Value → Bool
  | .null => true
  | .str s => s.isEmpty
  | _ => false

/-- Whether the value counts as true: not null, not false, not zero and not empty. -/
def isTrue : Value → Bool
  | .null => false
  | .bool b => b
  | .int n => n != 0
  | .float x => !x.isZero
  | .str s => !s.isEmpty
  | .list items => !items.isEmpty
  | .map entries => !entries.isEmpty

/-- The truth values as text. -/
def boolText (b : Bool) : String := if b then "True" else "False"

mutual

/-- The value as messages show it; text is quoted. -/
def shown : Value → String
  | .null => "None"
  | .bool b => boolText b
  | .int n => integerText n
  | .float x => x.text
  | .str s => quoted s
  | .list items => "[" ++ join ", " (shownItems items) ++ "]"
  | .map entries => "\x7b" ++ join ", " (shownEntries entries) ++ "\x7d"

/-- The items of a list as messages show them. -/
def shownItems : List Value → List String
  | [] => []
  | v :: r => v.shown :: shownItems r

/-- The entries of a map as messages show them. -/
def shownEntries : List (String × Value) → List String
  | [] => []
  | (k, v) :: r => (quoted k ++ ": " ++ v.shown) :: shownEntries r

end

/-- The plain text of a value; text stands for itself. -/
def text : Value → String
  | .str s => s
  | v => v.shown

/-- The value as a number, where a truth value counts as 0 or 1. -/
inductive Numeric where
  | int (n : Int)
  | float (x : Binary64)

/-- The number that a value is. -/
def numeric? : Value → Option Numeric
  | .bool b => some (.int (if b then 1 else 0))
  | .int n => some (.int n)
  | .float x => some (.float x)
  | _ => none

/-- Whether two numbers are equal, exactly. -/
def Numeric.same : Numeric → Numeric → Bool
  | .int a, .int b => a == b
  | .float x, .float y => x.eq y
  | .int a, .float x | .float x, .int a => x.eqInt a

mutual

/-- Whether two values are equal: numbers by what they count, lists item by item, and maps by
the values under their names, in any order. -/
def same : Value → Value → Bool
  | .list a, .list b => sameItems a b
  | .map a, .map b => a.length == b.length && sameEntries a b
  | .str a, .str b => a == b
  | .null, .null => true
  | v, w =>
    match v.numeric?, w.numeric? with
    | some x, some y => x.same y
    | _, _ => false

/-- Whether two lists are equal item by item. -/
def sameItems : List Value → List Value → Bool
  | [], [] => true
  | v :: r, w :: s => v.same w && sameItems r s
  | _, _ => false

/-- Whether every entry has an equal value under its name in the other map. -/
def sameEntries : List (String × Value) → List (String × Value) → Bool
  | [], _ => true
  | (k, v) :: r, other =>
    match other.lookup k with
    | some w => v.same w && sameEntries r other
    | none => false

end

mutual

/-- Whether two values are identical: of one kind, numbers alike and entries in the same order. -/
def identical : Value → Value → Bool
  | .null, .null => true
  | .bool a, .bool b => a == b
  | .int a, .int b => a == b
  | .float a, .float b => a == b
  | .str a, .str b => a == b
  | .list a, .list b => identicalItems a b
  | .map a, .map b => identicalEntries a b
  | _, _ => false

/-- Whether two lists are identical item by item. -/
def identicalItems : List Value → List Value → Bool
  | [], [] => true
  | v :: r, w :: s => v.identical w && identicalItems r s
  | _, _ => false

/-- Whether two maps are identical entry by entry. -/
def identicalEntries : List (String × Value) → List (String × Value) → Bool
  | [], [] => true
  | (k, v) :: r, (l, w) :: s => k == l && v.identical w && identicalEntries r s
  | _, _ => false

end

mutual

theorem identical_iff : ∀ v w : Value, v.identical w = true ↔ v = w
  | .list a, w => by cases w <;> simp [identical, identicalItems_iff a]
  | .map a, w => by cases w <;> simp [identical, identicalEntries_iff a]
  | .null, w => by cases w <;> simp [identical]
  | .bool _, w => by cases w <;> simp [identical]
  | .int _, w => by cases w <;> simp [identical]
  | .float _, w => by cases w <;> simp [identical]
  | .str _, w => by cases w <;> simp [identical]

theorem identicalItems_iff : ∀ vs ws : List Value, identicalItems vs ws = true ↔ vs = ws
  | [], ws => by cases ws <;> simp [identicalItems]
  | v :: vs, ws => by
    cases ws with
    | nil => simp [identicalItems]
    | cons w ws =>
      rw [identicalItems, Bool.and_eq_true, identical_iff v, identicalItems_iff vs,
        List.cons.injEq]

theorem identicalEntries_iff : ∀ vs ws : List (String × Value),
    identicalEntries vs ws = true ↔ vs = ws
  | [], ws => by cases ws <;> simp [identicalEntries]
  | (k, v) :: vs, ws => by
    cases ws with
    | nil => simp [identicalEntries]
    | cons w ws =>
      rw [identicalEntries, Bool.and_eq_true, Bool.and_eq_true, beq_iff_eq, identical_iff v,
        identicalEntries_iff vs, List.cons.injEq, ← Prod.mk.injEq]

end

instance : DecidableEq Value := fun v w => decidable_of_iff _ (identical_iff v w)

/-- The value under a name, if the value is a map that has it. -/
def get? : Value → String → Option Value
  | .map entries, name => entries.lookup name
  | _, _ => none

/-- Whether the value is a map. -/
def isMap : Value → Bool
  | .map _ => true
  | _ => false

/-- Whether the value is a list. -/
def isList : Value → Bool
  | .list _ => true
  | _ => false

end Value

end EntityQuery
