import EntityQuery.Filter.Basic
import Mathlib.Data.List.Basic
import Mathlib.Tactic.SplitIfs

/-!
# Conditions by number

A condition at the top of a group stands among the leaves under its number
(`Group.getElem?_leaves_of_mem_topLevel`). Of the conditions that are dropped those inside a
compound filter are left (`Group.leaves_withoutFrom`), and none where only conditions at the top are
dropped (`Group.leaves_without`). Conditions that take the place of others take it among the leaves
(`Group.leaves_replaceFrom`, `Group.leaves_replace`) and, where the others stand at the top, among
the conditions at the top (`Group.topLevel_replace`). Nothing else moves.
-/

namespace EntityQuery

theorem Group.topLevel_mk (op : LogicalOperator) (fs : List Filter) (gs : List Group) :
    (Group.mk op fs gs).topLevel = if op = .and then Group.numberedFrom 0 fs else [] := rfl

/-- The conditions of filters in order, each with whether it is inside a compound one. -/
def placedFilters : List Filter → List (Condition × Bool)
  | [] => []
  | .condition c :: fs => (c, false) :: placedFilters fs
  | .compound g _ :: fs => g.leaves.map (·, true) ++ placedFilters fs

mutual

/-- The conditions of a group in order, each with whether it is inside a compound filter. -/
def Group.placed : Group → List (Condition × Bool)
  | .mk _ fs gs => placedFilters fs ++ placedGroups gs

/-- The conditions of groups in order, each with whether it is inside a compound filter. -/
def placedGroups : List Group → List (Condition × Bool)
  | [] => []
  | g :: gs => g.placed ++ placedGroups gs

end

theorem map_fst_placedFilters (fs : List Filter) :
    (placedFilters fs).map Prod.fst = leavesOfFilters fs := by
  induction fs with
  | nil => rfl
  | cons f fs ih =>
    cases f with
    | condition c =>
      rw [placedFilters, List.map_cons, ih]
      rfl
    | compound g l =>
      rw [placedFilters, List.map_append, ih, leavesOfFilters, Filter.leaves, List.map_map]
      simp [Function.comp_def]

mutual

theorem Group.map_fst_placed : ∀ g : Group, g.placed.map Prod.fst = g.leaves
  | .mk op fs gs => by
    rw [Group.placed, List.map_append, map_fst_placedFilters, map_fst_placedGroups gs, Group.leaves]

theorem map_fst_placedGroups : ∀ gs : List Group,
    (placedGroups gs).map Prod.fst = leavesOfGroups gs
  | [] => rfl
  | g :: gs => by
    rw [placedGroups, List.map_append, g.map_fst_placed, map_fst_placedGroups gs, leavesOfGroups]

end

theorem getElem?_placed_of_mem_numberedFrom {start : Nat} {l : Nat × Condition}
    {fs : List Filter} (h : l ∈ Group.numberedFrom start fs) :
    start ≤ l.1 ∧ (placedFilters fs)[l.1 - start]? = some (l.2, false) := by
  induction fs generalizing start with
  | nil => cases h
  | cons f fs ih =>
    cases f with
    | condition x =>
      rw [Group.numberedFrom] at h
      rcases List.mem_cons.1 h with rfl | h
      · simp [placedFilters]
      · obtain ⟨hle, hget⟩ := ih h
        refine ⟨by omega, ?_⟩
        rw [placedFilters, show l.1 - start = l.1 - (start + 1) + 1 by omega,
          List.getElem?_cons_succ, hget]
    | compound g _ =>
      rw [Group.numberedFrom] at h
      obtain ⟨hle, hget⟩ := ih h
      refine ⟨by omega, ?_⟩
      rw [placedFilters, List.getElem?_append_right (by rw [List.length_map]; omega),
        List.length_map, show l.1 - start - g.leaves.length = l.1 - (start + g.leaves.length) by
          omega, hget]

/-- A condition at the top has its number and is inside no compound filter. -/
theorem Group.getElem?_placed_of_mem_topLevel {g : Group} {l : Nat × Condition}
    (h : l ∈ g.topLevel) : g.placed[l.1]? = some (l.2, false) := by
  cases g with
  | mk op fs gs =>
    rw [Group.topLevel_mk] at h
    split_ifs at h
    · obtain ⟨-, hget⟩ := getElem?_placed_of_mem_numberedFrom h
      rw [Nat.sub_zero] at hget
      obtain ⟨hlt, -⟩ := List.getElem?_eq_some_iff.1 hget
      rw [Group.placed, List.getElem?_append_left hlt]
      exact hget
    · cases h

theorem Group.getElem?_leaves_of_mem_topLevel {g : Group} {l : Nat × Condition}
    (h : l ∈ g.topLevel) : g.leaves[l.1]? = some l.2 := by
  rw [← g.map_fst_placed, List.getElem?_map, Group.getElem?_placed_of_mem_topLevel h]
  rfl

theorem Group.mem_leaves_of_mem_topLevel {g : Group} {l : Nat × Condition}
    (h : l ∈ g.topLevel) : l.2 ∈ g.leaves :=
  List.mem_of_getElem? (Group.getElem?_leaves_of_mem_topLevel h)

theorem Group.lt_of_mem_numberedFrom {start : Nat} {l : Nat × Condition} {fs : List Filter}
    (h : l ∈ Group.numberedFrom start fs) :
    start ≤ l.1 ∧ l.1 < start + (leavesOfFilters fs).length := by
  obtain ⟨hle, hget⟩ := getElem?_placed_of_mem_numberedFrom h
  obtain ⟨hlt, -⟩ := List.getElem?_eq_some_iff.1 hget
  rw [← map_fst_placedFilters, List.length_map]
  omega

section Dropping

variable {drop : Nat → Bool}

theorem Group.keepFilters_eq_self {start : Nat} {fs : List Filter}
    (h : ∀ i, start ≤ i → i < start + (leavesOfFilters fs).length → drop i = false) :
    Group.keepFilters drop start fs = fs := by
  induction fs generalizing start with
  | nil => rfl
  | cons f fs ih =>
    rw [leavesOfFilters, List.length_append] at h
    cases f with
    | condition c =>
      rw [Filter.leaves, List.length_singleton] at h
      rw [keepFilters, if_neg (by rw [h start (by omega) (by omega)]; exact Bool.false_ne_true),
        ih fun i hle hlt => h i (by omega) (by omega)]
    | compound g l =>
      rw [Filter.leaves] at h
      rw [keepFilters, ih fun i hle hlt => h i (by omega) (by omega)]

mutual

/-- A group keeps what has no number to be dropped. -/
theorem Group.withoutFrom_eq_self : ∀ (g : Group) (start : Nat),
    (∀ i, start ≤ i → i < start + g.leaves.length → drop i = false) → g.withoutFrom drop start = g
  | .mk op fs gs, start, h => by
    rw [Group.leaves, List.length_append] at h
    rw [Group.withoutFrom, Group.keepFilters_eq_self fun i hle hlt => h i hle (by omega),
      withoutGroups_eq_self gs _ fun i hle hlt => h i (by omega) (by omega)]

theorem withoutGroups_eq_self : ∀ (gs : List Group) (start : Nat),
    (∀ i, start ≤ i → i < start + (leavesOfGroups gs).length → drop i = false) →
      Group.withoutGroups drop start gs = gs
  | [], _, _ => rfl
  | g :: gs, start, h => by
    rw [leavesOfGroups, List.length_append] at h
    rw [Group.withoutGroups, g.withoutFrom_eq_self start fun i hle hlt => h i hle (by omega),
      withoutGroups_eq_self gs _ fun i hle hlt => h i (by omega) (by omega)]

end

theorem Group.without_nil (g : Group) : g.without [] = g :=
  g.withoutFrom_eq_self 0 fun _ _ _ => by simp

theorem Group.keepFilters_sublist (drop : Nat → Bool) (start : Nat) (fs : List Filter) :
    (Group.keepFilters drop start fs).Sublist fs := by
  induction fs generalizing start with
  | nil => exact .refl _
  | cons f fs ih =>
    cases f with
    | condition c =>
      rw [keepFilters]
      split_ifs
      · exact (ih _).cons _
      · exact (ih _).cons_cons _
    | compound g l => exact (ih _).cons_cons _

/-- The conditions of a list, numbered from `start` on, whose numbers are kept. -/
def keptFrom (drop : Nat → Bool) (start : Nat) (cs : List Condition) : List Condition :=
  ((cs.zipIdx start).filter fun l => !drop l.2).map Prod.fst

theorem keptFrom_subset (start : Nat) (cs : List Condition) : keptFrom drop start cs ⊆ cs := by
  intro c hc
  obtain ⟨l, hl, rfl⟩ := List.mem_map.1 hc
  exact List.fst_mem_of_mem_zipIdx (List.mem_filter.1 hl).1

/-- What is left of conditions, numbered from `start` on, when those of given numbers are dropped
unless they are inside a compound filter. -/
def leftFrom (drop : Nat → Bool) (start : Nat) (xs : List (Condition × Bool)) : List Condition :=
  ((xs.zipIdx start).filter fun l => l.1.2 || !drop l.2).map fun l => l.1.1

theorem leftFrom_append (start : Nat) (xs ys : List (Condition × Bool)) :
    leftFrom drop start (xs ++ ys) =
      leftFrom drop start xs ++ leftFrom drop (start + xs.length) ys := by
  rw [leftFrom, List.zipIdx_append, List.filter_append, List.map_append]
  rfl

/-- Inside a compound filter nothing is dropped. -/
theorem leftFrom_map_true (start : Nat) (cs : List Condition) :
    leftFrom drop start (cs.map (·, true)) = cs := by
  have hall : ((cs.map (·, true)).zipIdx start).filter (fun l => l.1.2 || !drop l.2) =
      (cs.map (·, true)).zipIdx start := by
    rw [List.filter_eq_self]
    intro l hl
    obtain ⟨c, -, hc⟩ := List.mem_map.1 (List.fst_mem_of_mem_zipIdx hl)
    simp [← hc]
  calc leftFrom drop start (cs.map (·, true))
      = (((cs.map (·, true)).zipIdx start).map Prod.fst).map Prod.fst := by
        rw [leftFrom, hall, List.map_map]
        rfl
    _ = cs := by simp [List.zipIdx_map_fst, Function.comp_def]

/-- A stronger test leaves the same of a list exactly if it holds wherever the weaker one does. -/
theorem map_filter_eq_map_filter_iff {α β : Type*} {f : α → β} {p q : α → Bool} {xs : List α}
    (hqp : ∀ x, q x = true → p x = true) :
    (xs.filter p).map f = (xs.filter q).map f ↔ ∀ x ∈ xs, p x = true → q x = true := by
  constructor
  · intro h x hx hpx
    have hlength := congrArg List.length h
    rw [List.length_map, List.length_map] at hlength
    have hsame := (List.monotone_filter_right xs hqp).eq_of_length hlength.symm
    have hmem : x ∈ xs.filter q := by
      rw [hsame]
      exact List.mem_filter.2 ⟨hx, hpx⟩
    exact (List.mem_filter.1 hmem).2
  · intro h
    congr 1
    exact List.filter_congr fun x hx => Bool.eq_iff_iff.2 ⟨h x hx, hqp x⟩

/-- All conditions that are dropped are gone exactly if none of them is inside a compound filter. -/
theorem leftFrom_eq_keptFrom_iff {start : Nat} {xs : List (Condition × Bool)} :
    leftFrom drop start xs = keptFrom drop start (xs.map Prod.fst) ↔
      ∀ l ∈ xs.zipIdx start, l.1.2 = true → drop l.2 = false := by
  have hkept : keptFrom drop start (xs.map Prod.fst) =
      ((xs.zipIdx start).filter fun l => !drop l.2).map fun l => l.1.1 := by
    rw [keptFrom, List.zipIdx_map, List.filter_map, List.map_map]
    rfl
  rw [leftFrom, hkept, map_filter_eq_map_filter_iff fun l hl => by rw [hl, Bool.or_true]]
  refine forall₂_congr fun l _ => ?_
  cases l.1.2 <;> cases drop l.2 <;> simp

theorem leavesOfFilters_keepFilters (start : Nat) (fs : List Filter) :
    leavesOfFilters (Group.keepFilters drop start fs) =
      leftFrom drop start (placedFilters fs) := by
  induction fs generalizing start with
  | nil => rfl
  | cons f fs ih =>
    cases f with
    | condition c =>
      have hcons : leftFrom drop start ((c, false) :: placedFilters fs) =
          leftFrom drop start [(c, false)] ++
            leavesOfFilters (Group.keepFilters drop (start + 1) fs) := by
        rw [ih, ← List.singleton_append, leftFrom_append, List.length_singleton]
      rw [placedFilters, hcons, Group.keepFilters]
      cases hdrop : drop start <;> simp [leftFrom, hdrop, leavesOfFilters, Filter.leaves]
    | compound g l =>
      rw [placedFilters, leftFrom_append, leftFrom_map_true, List.length_map, ← ih,
        Group.keepFilters, leavesOfFilters, Filter.leaves]

mutual

/-- What is left of a group is what stands inside compound filters and what is not dropped. -/
theorem Group.leaves_withoutFrom : ∀ (start : Nat) (g : Group),
    (g.withoutFrom drop start).leaves = leftFrom drop start g.placed
  | start, .mk op fs gs => by
    rw [Group.withoutFrom, Group.leaves, Group.placed, leftFrom_append,
      leavesOfFilters_keepFilters, leaves_withoutGroups, ← map_fst_placedFilters, List.length_map]

theorem leaves_withoutGroups : ∀ (start : Nat) (gs : List Group),
    leavesOfGroups (Group.withoutGroups drop start gs) = leftFrom drop start (placedGroups gs)
  | _, [] => rfl
  | start, g :: gs => by
    rw [Group.withoutGroups, leavesOfGroups, placedGroups, leftFrom_append,
      Group.leaves_withoutFrom start g, leaves_withoutGroups, ← g.map_fst_placed, List.length_map]

end

/-- Dropping conditions at the top of a group leaves its nested groups as they are. -/
theorem Group.without_cases {g : Group} {drop : List Nat}
    (h : ∀ i ∈ drop, ∃ c, (i, c) ∈ g.topLevel) :
    (drop = [] ∧ g.without drop = g) ∨ ∃ fs gs, g = .mk .and fs gs ∧
      (∀ i ∈ drop, ∃ c, (i, c) ∈ Group.numberedFrom 0 fs) ∧
      g.without drop = .mk .and (Group.keepFilters (· ∈ drop) 0 fs) gs := by
  cases g with
  | mk op fs gs =>
    rw [Group.topLevel_mk] at h
    by_cases hop : op = .and
    · rw [if_pos hop] at h
      refine .inr ⟨fs, gs, by rw [hop], h, ?_⟩
      rw [hop, Group.without, Group.withoutFrom, withoutGroups_eq_self]
      intro i hle hlt
      refine decide_eq_false fun hi => ?_
      obtain ⟨c, hc⟩ := h i hi
      have hnumber := Group.lt_of_mem_numberedFrom hc
      omega
    · rw [if_neg hop] at h
      obtain rfl : drop = [] :=
        List.eq_nil_iff_forall_not_mem.2 fun i hi => List.not_mem_nil (h i hi).choose_spec
      exact .inl ⟨rfl, Group.without_nil _⟩

/-- Dropping conditions at the top of a group leaves all others. -/
theorem Group.leaves_without {g : Group} {drop : List Nat}
    (h : ∀ i ∈ drop, ∃ c, (i, c) ∈ g.topLevel) :
    (g.without drop).leaves = keptFrom (· ∈ drop) 0 g.leaves := by
  rw [Group.without, Group.leaves_withoutFrom, ← g.map_fst_placed, leftFrom_eq_keptFrom_iff]
  intro l hl hinside
  refine decide_eq_false fun hi => ?_
  obtain ⟨c, hc⟩ := h l.2 hi
  have hplaced := Group.getElem?_placed_of_mem_topLevel hc
  rw [List.mem_zipIdx_iff_getElem?.1 hl] at hplaced
  rw [Option.some.inj hplaced] at hinside
  cases hinside

end Dropping

section Replacing

variable (old : Nat → Bool) (c : Condition)

/-- The condition `c` at given places of a list that is numbered from `start` on. -/
def substituteFrom (start : Nat) (cs : List Condition) : List Condition :=
  cs.mapIdx fun k x => if old (start + k) then c else x

theorem substituteFrom_cons (start : Nat) (x : Condition) (xs : List Condition) :
    substituteFrom old c start (x :: xs) =
      (if old start then c else x) :: substituteFrom old c (start + 1) xs := by
  unfold substituteFrom
  rw [List.mapIdx_cons, Nat.add_zero]
  congr 2
  funext k y
  rw [Nat.add_right_comm, Nat.add_assoc]

theorem substituteFrom_append (start : Nat) (xs ys : List Condition) :
    substituteFrom old c start (xs ++ ys) =
      substituteFrom old c start xs ++ substituteFrom old c (start + xs.length) ys := by
  induction xs generalizing start with
  | nil => rfl
  | cons x xs ih =>
    rw [List.cons_append, substituteFrom_cons, substituteFrom_cons, ih, List.cons_append,
      List.length_cons, Nat.add_right_comm, ← Nat.add_assoc]

theorem substituteFrom_zero (index : Nat) (cs : List Condition) :
    substituteFrom (· = index) c 0 cs = cs.set index c := by
  refine List.ext_getElem (by simp [substituteFrom]) fun k _ _ => ?_
  simp [substituteFrom, List.getElem_set, eq_comm]

mutual

theorem Group.leaves_replaceFrom : ∀ (start : Nat) (g : Group),
    (g.replaceFrom old (.condition c) start).leaves = substituteFrom old c start g.leaves
  | start, .mk op fs gs => by
    rw [Group.replaceFrom, Group.leaves, Group.leaves, substituteFrom_append,
      leaves_replaceFilters start fs, leaves_replaceGroups (start + (leavesOfFilters fs).length) gs]

theorem leaves_replaceFilters : ∀ (start : Nat) (fs : List Filter),
    leavesOfFilters (Group.replaceFilters old (.condition c) start fs) =
      substituteFrom old c start (leavesOfFilters fs)
  | _, [] => rfl
  | start, .condition x :: fs => by
    have ih := leaves_replaceFilters (start + 1) fs
    rw [Group.replaceFilters, leavesOfFilters, ih, leavesOfFilters, Filter.leaves,
      List.singleton_append, substituteFrom_cons]
    split_ifs <;> rfl
  | start, .compound g l :: fs => by
    have ihg := Group.leaves_replaceFrom start g
    have ihfs := leaves_replaceFilters (start + g.leaves.length) fs
    rw [Group.replaceFilters, leavesOfFilters, leavesOfFilters, Filter.leaves, Filter.leaves, ihg,
      ihfs, substituteFrom_append]

theorem leaves_replaceGroups : ∀ (start : Nat) (gs : List Group),
    leavesOfGroups (Group.replaceGroups old (.condition c) start gs) =
      substituteFrom old c start (leavesOfGroups gs)
  | _, [] => rfl
  | start, g :: gs => by
    have ihg := Group.leaves_replaceFrom start g
    have ihgs := leaves_replaceGroups (start + g.leaves.length) gs
    rw [Group.replaceGroups, leavesOfGroups, leavesOfGroups, ihg, ihgs, substituteFrom_append]

end

theorem Group.leaves_replace (index : Nat) (g : Group) :
    (g.replace index (.condition c)).leaves = g.leaves.set index c := by
  rw [Group.replace, Group.leaves_replaceFrom, substituteFrom_zero]

theorem Group.numberedFrom_replaceFilters (start : Nat) (fs : List Filter) :
    Group.numberedFrom start (Group.replaceFilters old (.condition c) start fs) =
      (Group.numberedFrom start fs).map fun l => if old l.1 then (l.1, c) else l := by
  induction fs generalizing start with
  | nil => rfl
  | cons f fs ih =>
    cases f with
    | condition x =>
      rw [Group.replaceFilters, Group.numberedFrom, List.map_cons, ← ih]
      split_ifs with h
      · rw [Group.numberedFrom]
      · rw [Group.numberedFrom]
    | compound g l =>
      have hlength : (g.replaceFrom old (.condition c) start).leaves.length =
          g.leaves.length := by
        rw [Group.leaves_replaceFrom, substituteFrom, List.length_mapIdx]
      rw [Group.replaceFilters, Group.numberedFrom, Group.numberedFrom, hlength, ih]

theorem Group.topLevel_replace (index : Nat) (g : Group) :
    (g.replace index (.condition c)).topLevel =
      g.topLevel.map fun l => if l.1 = index then (index, c) else l := by
  cases g with
  | mk op fs gs =>
    rw [Group.replace, Group.replaceFrom, Group.topLevel_mk, Group.topLevel_mk]
    by_cases hop : op = .and
    · rw [if_pos hop, if_pos hop, Group.numberedFrom_replaceFilters]
      refine List.map_congr_left fun l _ => ?_
      by_cases hl : l.1 = index <;> simp [hl]
    · rw [if_neg hop, if_neg hop, List.map_nil]

end Replacing

end EntityQuery
