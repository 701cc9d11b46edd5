import EntityQuery.Proofs.LeafNumber

/-!
# Conditions as objects

Equal conditions of a group may be different objects, and one object may stand at several places:
an assignment of objects to the numbers of the conditions tells which is which. An object that is
replaced gives way at each of its places, at every depth of nested groups and compound filters, and
all else stays as it is (`Group.replaceObject_swaps`). Objects that are dropped are left where they
stand inside a compound filter and are gone from all other places (`Group.leaves_withoutFrom`), so
that all of them are gone only if none stands there (`Group.leaves_withoutObjects_iff`).
-/

namespace EntityQuery

section Objects

variable {ι : Type*}

/-- The conditions of a group in order, each with the object that it is; `object` assigns them to
the numbers. -/
def Group.objects (object : Nat → ι) (g : Group) : List (ι × Condition) :=
  g.leaves.zipIdx.map fun l => (object l.2, l.1)

theorem Group.fst_mem_objects {object : Nat → ι} {g : Group} {i : Nat} (h : i < g.leaves.length) :
    object i ∈ (g.objects object).map Prod.fst := by
  rw [objects, List.map_map]
  exact List.mem_map.2 ⟨(g.leaves[i], i), by simp [List.mem_zipIdx_iff_getElem?], rfl⟩

variable [DecidableEq ι]

/-- The group with an object replaced by a filter at each of its places. -/
def Group.replaceObject (g : Group) (object : Nat → ι) (old : ι) (new : Filter) : Group :=
  g.replaceFrom (fun i => object i = old) new 0

/-- The group with given objects dropped. -/
def Group.withoutObjects (g : Group) (object : Nat → ι) (drop : List ι) : Group :=
  g.withoutFrom (fun i => object i ∈ drop) 0

end Objects

theorem Group.replace_eq_replaceObject (g : Group) (index : Nat) (new : Filter) :
    g.replace index new = g.replaceObject id index new := rfl

theorem Group.without_eq_withoutObjects (g : Group) (drop : List Nat) :
    g.without drop = g.withoutObjects id drop := rfl

mutual

/-- The group with all conditions left blank: its operators, its nesting and the number of members
of each group. -/
def Group.outline : Group → Group
  | .mk op fs gs => .mk op (outlineFilters fs) (outlineGroups gs)

/-- Filters with all conditions left blank. -/
def outlineFilters : List Filter → List Filter
  | [] => []
  | .condition _ :: fs => .condition default :: outlineFilters fs
  | .compound g l :: fs => .compound g.outline l :: outlineFilters fs

/-- Nested groups with all conditions left blank. -/
def outlineGroups : List Group → List Group
  | [] => []
  | g :: gs => g.outline :: outlineGroups gs

end

section Replacing

variable (old : Nat → Bool) (c : Condition)

mutual

theorem Group.outline_replaceFrom : ∀ (start : Nat) (g : Group),
    (g.replaceFrom old (.condition c) start).outline = g.outline
  | start, .mk op fs gs => by
    rw [Group.replaceFrom, Group.outline, Group.outline, outline_replaceFilters start fs,
      outline_replaceGroups (start + (leavesOfFilters fs).length) gs]

theorem outline_replaceFilters : ∀ (start : Nat) (fs : List Filter),
    outlineFilters (Group.replaceFilters old (.condition c) start fs) = outlineFilters fs
  | _, [] => rfl
  | start, .condition x :: fs => by
    have ih := outline_replaceFilters (start + 1) fs
    rw [Group.replaceFilters]
    split_ifs <;> rw [outlineFilters, outlineFilters, ih]
  | start, .compound g l :: fs => by
    have ihg := Group.outline_replaceFrom start g
    have ihfs := outline_replaceFilters (start + g.leaves.length) fs
    rw [Group.replaceFilters, outlineFilters, outlineFilters, ihg, ihfs]

theorem outline_replaceGroups : ∀ (start : Nat) (gs : List Group),
    outlineGroups (Group.replaceGroups old (.condition c) start gs) = outlineGroups gs
  | _, [] => rfl
  | start, g :: gs => by
    have ihg := Group.outline_replaceFrom start g
    have ihgs := outline_replaceGroups (start + g.leaves.length) gs
    rw [Group.replaceGroups, outlineGroups, outlineGroups, ihg, ihgs]

end

end Replacing

section Absent

variable {old : Nat → Bool} {new : Filter}

mutual

/-- A group in which no number is to be replaced stays as it is. -/
theorem Group.replaceFrom_eq_self : ∀ (g : Group) (start : Nat),
    (∀ i, start ≤ i → i < start + g.leaves.length → old i = false) →
      g.replaceFrom old new start = g
  | .mk op fs gs, start, h => by
    rw [Group.leaves, List.length_append] at h
    rw [Group.replaceFrom, replaceFilters_eq_self fs start fun i hle hlt => h i hle (by omega),
      replaceGroups_eq_self gs _ fun i hle hlt => h i (by omega) (by omega)]

theorem replaceFilters_eq_self : ∀ (fs : List Filter) (start : Nat),
    (∀ i, start ≤ i → i < start + (leavesOfFilters fs).length → old i = false) →
      Group.replaceFilters old new start fs = fs
  | [], _, _ => rfl
  | .condition c :: fs, start, h => by
    rw [leavesOfFilters, Filter.leaves, List.length_append, List.length_singleton] at h
    have hkeep : ¬old start = true := by simp [h start (by omega) (by omega)]
    rw [Group.replaceFilters, if_neg hkeep,
      replaceFilters_eq_self fs _ fun i hle hlt => h i (by omega) (by omega)]
  | .compound g l :: fs, start, h => by
    rw [leavesOfFilters, Filter.leaves, List.length_append] at h
    rw [Group.replaceFilters, g.replaceFrom_eq_self start fun i hle hlt => h i hle (by omega),
      replaceFilters_eq_self fs _ fun i hle hlt => h i (by omega) (by omega)]

theorem replaceGroups_eq_self : ∀ (gs : List Group) (start : Nat),
    (∀ i, start ≤ i → i < start + (leavesOfGroups gs).length → old i = false) →
      Group.replaceGroups old new start gs = gs
  | [], _, _ => rfl
  | g :: gs, start, h => by
    rw [leavesOfGroups, List.length_append] at h
    rw [Group.replaceGroups, g.replaceFrom_eq_self start fun i hle hlt => h i hle (by omega),
      replaceGroups_eq_self gs _ fun i hle hlt => h i (by omega) (by omega)]

end

end Absent

/-- An object that is replaced by a condition gives way at each of its places and no other object
does. Operators, nesting and the members of each group stay, and a group without the object is the
same as before. -/
theorem Group.replaceObject_swaps {ι : Type*} [DecidableEq ι] (g : Group) (object : Nat → ι)
    (old : ι) (c : Condition) :
    (g.replaceObject object old (.condition c)).leaves =
        (g.objects object).map (fun x => if x.1 = old then c else x.2) ∧
      (g.replaceObject object old (.condition c)).outline = g.outline ∧
      (old ∉ (g.objects object).map Prod.fst →
        g.replaceObject object old (.condition c) = g) := by
  refine ⟨?_, Group.outline_replaceFrom _ c 0 g, fun habsent => ?_⟩
  · rw [replaceObject, Group.leaves_replaceFrom, substituteFrom, List.mapIdx_eq_zipIdx_map, objects,
      List.map_map]
    refine List.map_congr_left fun l _ => ?_
    simp
  · refine g.replaceFrom_eq_self 0 fun i _ hlt => decide_eq_false ?_
    rintro rfl
    exact habsent (Group.fst_mem_objects (by omega))

def idTest (value : Int) : Condition := { target := .address "id", value := .int value }

def sharedGroup : Group :=
  .mk .or [.condition (idTest 1),
      .compound (.mk .and [.condition (idTest 1), .condition (idTest 1)] []) false]
    [.mk .xor [.condition (idTest 1)] []]

theorem Group.replaceObject_shared :
    let object := fun i : Nat => if i = 1 then "other" else "shared"
    (sharedGroup.replaceObject object "shared" (.condition (idTest 2))).leaves =
        [idTest 2, idTest 1, idTest 2, idTest 2] ∧
      "absent" ∉ (sharedGroup.objects object).map Prod.fst ∧
      sharedGroup.replaceObject object "absent" (.condition (idTest 2)) = sharedGroup := by
  intro object
  obtain ⟨hleaves, -, -⟩ := Group.replaceObject_swaps sharedGroup object "shared" (idTest 2)
  obtain ⟨-, -, hsame⟩ := Group.replaceObject_swaps sharedGroup object "absent" (idTest 2)
  have habsent : "absent" ∉ (sharedGroup.objects object).map Prod.fst := by decide
  exact ⟨hleaves, habsent, hsame habsent⟩

/-- The objects that stand inside compound filters of a group, at every depth of nested groups. -/
def Group.enclosed {ι : Type*} (object : Nat → ι) (g : Group) : List ι :=
  (g.placed.zipIdx.filter (·.1.2)).map fun l => object l.2

/-- Dropping objects leaves all others and nothing else exactly if none of those that are dropped
stands inside a compound filter. -/
theorem Group.leaves_withoutObjects_iff {ι : Type*} [DecidableEq ι] (g : Group) (object : Nat → ι)
    (drop : List ι) :
    (g.withoutObjects object drop).leaves =
        ((g.objects object).filter fun x => x.1 ∉ drop).map Prod.snd ↔
      ∀ o ∈ g.enclosed object, o ∉ drop := by
  have hkept : ((g.objects object).filter fun x => x.1 ∉ drop).map Prod.snd =
      keptFrom (fun i => object i ∈ drop) 0 (g.placed.map Prod.fst) := by
    rw [g.map_fst_placed, objects, keptFrom, List.filter_map, List.map_map]
    simp [Function.comp_def]
  rw [withoutObjects, Group.leaves_withoutFrom, hkept, leftFrom_eq_keptFrom_iff]
  constructor
  · intro h o ho
    obtain ⟨l, hl, rfl⟩ := List.mem_map.1 ho
    obtain ⟨hmem, hinside⟩ := List.mem_filter.1 hl
    exact of_decide_eq_false (h l hmem hinside)
  · intro h l hmem hinside
    exact decide_eq_false (h _ (List.mem_map.2 ⟨l, List.mem_filter.2 ⟨hmem, hinside⟩, rfl⟩))

def enclosedGroup : Group :=
  .mk .and [.compound (.mk .and [.condition (idTest 1), .condition (idTest 2)] []) false] []

/-- The first of two conditions inside a compound filter is still there when it is dropped. -/
theorem Group.leaves_without_enclosed :
    0 ∈ (enclosedGroup.objects id).map Prod.fst ∧
      (enclosedGroup.without [0]).leaves = [idTest 1, idTest 2] ∧
      (enclosedGroup.withoutObjects id [0]).leaves ≠
        ((enclosedGroup.objects id).filter fun x => x.1 ∉ [0]).map Prod.snd := by
  refine ⟨List.mem_cons_self, rfl, fun h => ?_⟩
  have hlength : 2 = 1 := congrArg List.length h
  cases hlength

end EntityQuery
