import EntityQuery.Data.Value
import EntityQuery.Proofs.Outcome
import Mathlib.Data.List.Induction
import Mathlib.Data.List.Nodup
import Mathlib.Data.List.ReduceOption
import Mathlib.Tactic.SplitIfs

/-!
# Entries of rows

What stands under a name after values are put into a row one by one. A later value takes the place
of an earlier one of the same name (`Row.get?_ofEntries_append`), and no name stands twice.
-/

namespace EntityQuery

namespace Row

variable {row : Row} {name : String} {v : Value} {entries : List (String × Value)}

theorem mem_names_iff : name ∈ row.names ↔ (row.get? name).isSome := by
  simp only [names, List.mem_map, get?, List.lookup_isSome_iff, beq_iff_eq]
  exact exists_congr fun entry => and_congr_right fun _ => eq_comm

/-- In a map without repeated names every entry is the one that its name leads to. -/
theorem get?_of_mem (h : row.names.Nodup) (hv : (name, v) ∈ row) : row.get? name = some v := by
  obtain ⟨before, after, rfl⟩ := List.append_of_mem hv
  refine List.lookup_eq_some_iff.2 ⟨before, after, rfl, fun entry hentry => ?_⟩
  rw [names, List.map_append, List.map_cons, List.nodup_middle, List.nodup_cons] at h
  have hbefore : entry.1 ∈ before.map Prod.fst := List.mem_map_of_mem hentry
  exact bne_iff_ne.2 (ne_of_mem_of_not_mem (List.mem_append_left _ hbefore) h.1).symm

theorem names_put (row : Row) (name : String) (v : Value) :
    (row.put name v).names = if name ∈ row.names then row.names else row.names ++ [name] := by
  induction row with
  | nil => rfl
  | cons entry row ih =>
    obtain ⟨k, w⟩ := entry
    by_cases hk : k = name
    · simp [put, names, hk]
    · have hne : name ≠ k := Ne.symm hk
      simp only [put, if_neg hk, names, List.map_cons, List.mem_cons, hne, false_or] at ih ⊢
      by_cases hmem : name ∈ row.map Prod.fst <;> simp [ih, hmem]

theorem nodup_put (h : row.names.Nodup) (name : String) (v : Value) :
    (row.put name v).names.Nodup := by
  rw [names_put]
  split_ifs with hmem
  · exact h
  · exact (List.nodup_cons.2 ⟨hmem, h⟩).perm (List.perm_append_singleton _ _).symm

theorem get?_foldl_put (row : Row) (h : ∀ e ∈ entries, e.1 ≠ name) :
    (entries.foldl (fun row e => row.put e.1 e.2) row).get? name = row.get? name := by
  induction entries generalizing row with
  | nil => rfl
  | cons e entries ih =>
    rw [List.forall_mem_cons] at h
    rw [List.foldl_cons, ih _ h.2, get?_put, if_neg (Ne.symm h.1)]

theorem get?_foldl_put_eq (entries : List (String × Value)) (row : Row) (name : String) :
    (entries.foldl (fun row e => row.put e.1 e.2) row).get? name =
      ((ofEntries entries).get? name).or (row.get? name) := by
  induction entries using List.reverseRecOn with
  | nil => rfl
  | append_singleton entries e ih =>
    rw [ofEntries, List.foldl_concat, List.foldl_concat, get?_put, get?_put, ih]
    split_ifs <;> rfl

theorem nodup_ofEntries (entries : List (String × Value)) : (ofEntries entries).names.Nodup := by
  induction entries using List.reverseRecOn with
  | nil => exact List.nodup_nil
  | append_singleton entries e ih =>
    rw [ofEntries, List.foldl_concat]
    exact nodup_put ih _ _

/-- Later entries take the place of earlier ones. -/
theorem get?_ofEntries_append (entries later : List (String × Value)) (name : String) :
    (ofEntries (entries ++ later)).get? name =
      ((ofEntries later).get? name).or ((ofEntries entries).get? name) := by
  rw [ofEntries, List.foldl_append, get?_foldl_put_eq]
  rfl

theorem mem_of_get?_ofEntries (h : (ofEntries entries).get? name = some v) :
    (name, v) ∈ entries := by
  induction entries using List.reverseRecOn with
  | nil => cases h
  | append_singleton entries e ih =>
    rw [ofEntries, List.foldl_concat, get?_put] at h
    split_ifs at h with hname
    · cases h
      rw [hname]
      simp
    · exact List.mem_append_left _ (ih h)

theorem exists_get?_ofEntries (h : (name, v) ∈ entries) :
    ∃ w, (ofEntries entries).get? name = some w := by
  obtain ⟨before, after, rfl⟩ := List.append_of_mem h
  rw [get?_ofEntries_append, ofEntries, List.foldl_cons, get?_foldl_put_eq]
  cases (ofEntries after).get? name <;> simp [get?_put]

theorem isSome_get?_ofEntries_iff :
    ((ofEntries entries).get? name).isSome ↔ ∃ v, (name, v) ∈ entries := by
  rw [Option.isSome_iff_exists]
  exact ⟨fun ⟨v, hv⟩ => ⟨v, mem_of_get?_ofEntries hv⟩, fun ⟨_, hv⟩ => exists_get?_ofEntries hv⟩

/-- Entries without repeated names stay what they are. -/
theorem get?_ofEntries_of_nodup (h : row.names.Nodup) (name : String) :
    (ofEntries row).get? name = row.get? name := by
  ext v
  constructor
  · exact fun hv => get?_of_mem h (mem_of_get?_ofEntries hv)
  · intro hv
    have hmem : ∃ w, (name, w) ∈ row := by
      obtain ⟨before, after, hrow, -⟩ := List.lookup_eq_some_iff.1 hv
      exact ⟨v, hrow ▸ List.mem_append_right _ List.mem_cons_self⟩
    obtain ⟨w, hw⟩ := Option.isSome_iff_exists.1 (isSome_get?_ofEntries_iff.2 hmem)
    rw [hw, ← get?_of_mem h (mem_of_get?_ofEntries hw), hv]

/-- The last entry of a name stays. -/
theorem get?_ofEntries_filterMap_iff {α : Type} {f : α → Option (String × Value)} {xs : List α} :
    (ofEntries (xs.filterMap f)).get? name = some v ↔
      ∃ before x after, xs = before ++ x :: after ∧ f x = some (name, v) ∧
        ∀ y ∈ after, ∀ w, f y ≠ some (name, w) := by
  constructor
  · intro h
    induction xs using List.reverseRecOn with
    | nil => cases h
    | append_singleton xs x ih =>
      rw [List.filterMap_append, get?_ofEntries_append] at h
      by_cases hx : ∃ w, f x = some (name, w)
      · obtain ⟨w, hw⟩ := hx
        obtain rfl : w = v := by simpa [hw, ofEntries, put, get?] using h
        exact ⟨xs, x, [], rfl, hw, List.forall_mem_nil _⟩
      · rw [not_exists] at hx
        have hnone : (ofEntries ([x].filterMap f)).get? name = none := by
          refine Option.eq_none_iff_forall_ne_some.2 fun w hw => ?_
          obtain ⟨y, hy, hf⟩ := List.mem_filterMap.1 (mem_of_get?_ofEntries hw)
          exact hx w (List.mem_singleton.1 hy ▸ hf)
        rw [hnone, Option.none_or] at h
        obtain ⟨before, y, after, rfl, hy, hlater⟩ := ih h
        refine ⟨before, y, after ++ [x], by simp, hy, fun z hz => ?_⟩
        rcases List.mem_append.1 hz with hz | hz
        · exact hlater z hz
        · exact List.mem_singleton.1 hz ▸ hx
  · rintro ⟨before, x, after, rfl, hx, hlater⟩
    have hkept : ∀ e ∈ after.filterMap f, e.1 ≠ name := by
      rintro e he rfl
      obtain ⟨y, hy, hf⟩ := List.mem_filterMap.1 he
      exact hlater y hy e.2 hf
    rw [List.filterMap_append, List.filterMap_cons_some hx, get?_ofEntries_append, ofEntries,
      List.foldl_cons, get?_foldl_put _ hkept, get?_put, if_pos rfl, Option.some_or]

/-- A run that puts at most one entry a step puts the entries of its steps. -/
theorem exists_entries_of_foldlM {ε α : Type} {step : Row → α → Except ε Row}
    {put? : α → Except ε (Option (String × Value))} {xs : List α} {start row : Row}
    (hstep : ∀ row x, step row x = do
      match ← put? x with
      | some e => .ok (row.put e.1 e.2)
      | none => .ok row)
    (h : xs.foldlM step start = .ok row) :
    ∃ es, List.Forall₂ (fun x e => put? x = .ok e) xs es ∧
      row = es.reduceOption.foldl (fun row e => row.put e.1 e.2) start := by
  induction xs generalizing start with
  | nil =>
    cases h
    exact ⟨[], .nil, rfl⟩
  | cons x xs ih =>
    rw [List.foldlM_cons, hstep] at h
    obtain ⟨row', hput, h⟩ := Except.bind_eq_ok_iff.1 h
    obtain ⟨e, he, hput⟩ := Except.bind_eq_ok_iff.1 hput
    obtain ⟨es, hes, rfl⟩ := ih h
    refine ⟨e :: es, .cons he hes, ?_⟩
    cases e <;> cases hput
    · rw [List.reduceOption_cons_of_none]
    · rw [List.reduceOption_cons_of_some, List.foldl_cons]

end Row

end EntityQuery
