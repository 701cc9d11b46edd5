import EntityQuery.Filter.Evaluation

/-!
# Sorters and local order

A sorter orders rows by one attribute. `applySorters` sorts rows that were read: by the first
sorter, rows that it does not tell apart by the second, and so on; rows that no sorter tells apart
keep their order. `sortRows` refuses rows with values that cannot be compared.
-/

namespace EntityQuery

/-- One sort criterion. `applyLocally` marks it for sorting after reading. -/
structure Sorter where
  target : Target
  direction : SortDirection := .asc
  applyLocally : Bool := false
  deriving DecidableEq, Repr, Inhabited

namespace Sorter

/-- The name in rows. -/
def name (s : Sorter) : String := s.target.name

/-- How two values compare for sorting; missing values come first. -/
def compareValues (a b : Value) : Ordering :=
  match a.isMissing, b.isMissing with
  | true, true => .eq
  | true, false => .lt
  | false, true => .gt
  | false, false => a.compare b

/-- How a sorter orders two rows. -/
def compare (s : Sorter) (a b : Row) : Ordering :=
  let o := compareValues ((a.get? s.name).getD .null) ((b.get? s.name).getD .null)
  match s.direction with
  | .asc => o
  | .desc => o.swap

/-- How a list of sorters orders two rows. -/
def compareAll : List Sorter → Row → Row → Ordering
  | [], _, _ => .eq
  | s :: rest, a, b =>
    match s.compare a b with
    | .eq => compareAll rest a b
    | o => o

/-- Whether a sorter cannot compare two rows. -/
def fails (s : Sorter) (a b : Row) : Bool :=
  let v := (a.get? s.name).getD .null
  let w := (b.get? s.name).getD .null
  !v.isMissing && !w.isMissing && v.incomparable w

/-- Whether a list of sorters cannot compare two rows: the sorters are asked in turn while they do
not tell the rows apart. -/
def anyFails : List Sorter → Row → Row → Bool
  | [], _, _ => false
  | s :: rest, a, b => s.fails a b || (s.compare a b == .eq && anyFails rest a b)

end Sorter

/-! ## Binary insertion -/

variable {α : Type}

/-- The length of the run at the start of a list: strictly falling when it begins with a fall,
otherwise not falling. -/
def runLength (lt : α → α → Bool) (falling : Bool) : α → List α → Nat
  | _, [] => 0
  | a, b :: rest => if lt b a == falling then 1 + runLength lt falling b rest else 0

/-- Where a new item goes into a sorted list, between `low` and `high`: behind the items that are
not greater. -/
def insertionPoint (lt : α → α → Bool) (x : α) (xs : List α) (low high : Nat) : (fuel : Nat) → Nat
  | 0 => low
  | fuel + 1 =>
    if low < high then
      let middle := low + (high - low) / 2
      match xs[middle]? with
      | some y =>
        if lt x y then insertionPoint lt x xs low middle fuel
        else insertionPoint lt x xs (middle + 1) high fuel
      | none => low
    else low

/-- Puts an item into a sorted list. -/
def insertItem (lt : α → α → Bool) (sorted : List α) (x : α) : List α :=
  let n := insertionPoint lt x sorted 0 sorted.length sorted.length
  sorted.take n ++ x :: sorted.drop n

theorem perm_insertItem (lt : α → α → Bool) (xs : List α) (x : α) :
    (insertItem lt xs x).Perm (x :: xs) := by
  unfold insertItem
  generalize insertionPoint lt x xs 0 xs.length xs.length = n
  have h : (xs.take n ++ x :: xs.drop n).Perm (x :: (xs.take n ++ xs.drop n)) := List.perm_middle
  rwa [List.take_append_drop] at h

/-- Sorts a list by an order that tells which of two items is less. Equal items keep their order.
The run at the start is taken as it is, reversed when it falls, and the other items are put into
it one by one. -/
def sortBy (lt : α → α → Bool) : List α → List α
  | [] => []
  | [a] => [a]
  | a :: b :: rest =>
    let falling := lt b a
    let n := 1 + runLength lt falling a (b :: rest)
    let xs := a :: b :: rest
    let run := xs.take n
    (xs.drop n).foldl (insertItem lt) (if falling then run.reverse else run)

theorem perm_foldl_insertItem (lt : α → α → Bool) (xs sorted : List α) :
    (xs.foldl (insertItem lt) sorted).Perm (sorted ++ xs) := by
  induction xs generalizing sorted with
  | nil => simp
  | cons x xs ih =>
    exact (ih _).trans (((perm_insertItem lt sorted x).append_right xs).trans
      List.perm_middle.symm)

/-- Sorting neither loses nor repeats an item. -/
theorem perm_sortBy (lt : α → α → Bool) (xs : List α) : (sortBy lt xs).Perm xs := by
  match xs with
  | [] => exact .refl _
  | [_] => exact .refl _
  | a :: b :: rest =>
    refine (perm_foldl_insertItem lt _ _).trans ?_
    generalize 1 + runLength lt (lt b a) a (b :: rest) = n
    have h : ((a :: b :: rest).take n ++ (a :: b :: rest).drop n).Perm (a :: b :: rest) := by
      rw [List.take_append_drop]
    split
    · exact ((List.reverse_perm _).append_right _).trans h
    · exact h

/-- The rows in the order of the sorters. -/
def applySorters (sorters : List Sorter) (rows : List Row) : List Row :=
  if sorters.isEmpty then rows
  else sortBy (fun a b => Sorter.compareAll sorters a b == .lt) rows

/-- Local sorting only reorders rows. -/
theorem perm_applySorters (sorters : List Sorter) (rows : List Row) :
    (applySorters sorters rows).Perm rows := by
  unfold applySorters
  split
  · exact .refl _
  · exact perm_sortBy _ rows

/-- The rows in the order of the sorters, if any two of them can be compared. -/
def sortRows (sorters : List Sorter) (rows : List Row) : Except Error (List Row) :=
  if rows.Pairwise fun a b => Sorter.anyFails sorters a b = false then
    .ok (applySorters sorters rows)
  else .error (.codec .infinite "")

/-- The rows from `offset` on, at most `limit` of them; a limit of zero means all. A negative
offset counts as zero. -/
def applyWindow (offset limit : Int) (rows : List Row) : List Row :=
  let rest := rows.drop offset.toNat
  if 0 < limit then rest.take limit.toNat else rest

/-- The rows that have the same value under a name as the first row. -/
def keepFirstGroup (name : String) : List Row → List Row
  | [] => []
  | first :: rest =>
    let key := (first.get? name).getD .null
    (first :: rest).filter fun row => ((row.get? name).getD .null).same key

end EntityQuery
