import EntityQuery.Proofs.RowEntries
import EntityQuery.Proofs.WrappedValue
import Mathlib.Data.List.Nodup

/-!
# Values set at several paths

Values are set one after the other at lists of names of which none begins another (`Path.Apart`).
What stands under a name afterwards is what the lists that begin with it say, the rest of each list
set in a map of its own (`Path.get?_putAll_cases`), so that no later value disturbs an earlier one.
By recursion on the names, the map holds every value at its names (`Path.at?_putAll`) and nothing
else (`Path.exists_of_at?_putAll`), and the order of the values makes no difference but that of the
entries (`Path.equal_putAll`).
-/

namespace EntityQuery

/-- What names lead to in nested maps, if all are there. -/
def Value.at? : Value → List String → Option Value
  | v, [] => some v
  | v, name :: rest => (v.get? name).bind (·.at? rest)

/-- Two values are equal whatever the order of entries: they are one value, or maps without repeated
names that have the same names, with equal values under each. -/
inductive Value.Equal : Value → Value → Prop
  | refl (v : Value) : Equal v v
  | map {a b : Row} (ha : a.names.Nodup) (hb : b.names.Nodup)
      (hnames : ∀ name, (a.get? name).isSome = (b.get? name).isSome)
      (hvalues : ∀ name v w, a.get? name = some v → b.get? name = some w → Equal v w) :
      Equal (.map a) (.map b)

namespace Value

variable {v w : Value}

theorem sameEntries_iff {a b : Row} : sameEntries a b = true ↔
    ∀ entry ∈ a, ∃ w, b.get? entry.1 = some w ∧ entry.2.same w = true := by
  induction a with
  | nil => simp [sameEntries]
  | cons entry a ih =>
    rw [sameEntries, List.forall_mem_cons, ← ih, Row.get?]
    cases b.lookup entry.1 <;> simp

/-- Equal values are told equal, unless some part of them is told different from itself. -/
theorem Equal.same (h : Equal v w) (hv : v.same v = true) : v.same w = true := by
  induction h with
  | refl => exact hv
  | @map a b ha hb hnames hvalues ih =>
    rw [Value.same, Bool.and_eq_true] at hv ⊢
    have hperm : a.names.Perm b.names :=
      (List.perm_ext_iff_of_nodup ha hb).2 fun name => by
        rw [Row.mem_names_iff, Row.mem_names_iff, hnames]
    have hlength : a.length = b.length := by
      simpa [Row.names] using hperm.length_eq
    refine ⟨beq_iff_eq.2 hlength, sameEntries_iff.2 ?_⟩
    rintro ⟨name, x⟩ hx
    have hget := Row.get?_of_mem ha hx
    obtain ⟨y, hy⟩ := Option.isSome_iff_exists.1 ((hnames name).symm.trans (hget ▸ rfl))
    obtain ⟨x', hx', hself⟩ := sameEntries_iff.1 hv.2 _ hx
    cases hget.symm.trans hx'
    exact ⟨y, hy, ih name x y hget hy hself⟩

end Value

namespace Path

variable {row : Row} {places places' : List (List String × Value)} {name : String}
  {names : List String} {v : Value}

/-- Sets values one after the other, each at its names. -/
def putAll (row : Row) (places : List (List String × Value)) : Row :=
  places.foldl (fun row x => putAt row x.1 x.2) row

/-- The values whose names begin with a given one, each at the rest of its names. -/
def under (name : String) (places : List (List String × Value)) : List (List String × Value) :=
  places.filterMap fun x =>
    match x.1 with
    | [] => none
    | k :: rest => if k = name then some (rest, x.2) else none

/-- Every value has names, and those of none begin those of another. -/
structure Apart (places : List (List String × Value)) : Prop where
  named : ∀ x ∈ places, x.1 ≠ []
  apart : places.Pairwise fun x y => ¬x.1 <+: y.1 ∧ ¬y.1 <+: x.1

/-- The entries of a value that may be there; none where it is no map. -/
def entriesOf : Option Value → Row
  | some (.map entries) => entries
  | _ => []

/-- What a value becomes when one is set at names behind it. -/
def settle (old : Option Value) (x : List String × Value) : Option Value :=
  some (if x.1 = [] then x.2 else .map (putAt (entriesOf old) x.1 x.2))

theorem get?_putAt (row : Row) (k : String) (rest : List String) (v : Value) (name : String) :
    (putAt row (k :: rest) v).get? name =
      if name = k then settle (row.get? k) (rest, v) else row.get? name := by
  cases rest <;> exact Row.get?_put ..

theorem nodup_putAt (h : row.names.Nodup) (names : List String) (v : Value) :
    (putAt row names v).names.Nodup := by
  cases names with
  | nil => exact h
  | cons k rest => cases rest <;> exact Row.nodup_put h ..

theorem nodup_putAll (h : row.names.Nodup) (places : List (List String × Value)) :
    (putAll row places).names.Nodup := by
  induction places generalizing row with
  | nil => exact h
  | cons x places ih => exact ih (nodup_putAt h x.1 x.2)

theorem mem_under : (names, v) ∈ under name places ↔ (name :: names, v) ∈ places := by
  simp only [under, List.mem_filterMap]
  constructor
  · rintro ⟨⟨_ | ⟨k, rest⟩, w⟩, hx, h⟩
    · cases h
    · dsimp only at h
      split_ifs at h with hk
      cases h
      exact hk ▸ hx
  · exact fun h => ⟨_, h, if_pos rfl⟩

/-- Only the values whose names begin with a name have a say in what stands under it. -/
theorem get?_putAll (row : Row) (places : List (List String × Value)) (name : String) :
    (putAll row places).get? name = (under name places).foldl settle (row.get? name) := by
  induction places generalizing row with
  | nil => rfl
  | cons x places ih =>
    obtain ⟨_ | ⟨k, rest⟩, v⟩ := x
    · exact ih row
    · rw [putAll, List.foldl_cons, ← putAll, ih, get?_putAt]
      by_cases hk : k = name
      · simp [under, hk]
      · simp [under, hk, Ne.symm hk]

theorem foldl_settle (h : ∀ x ∈ places, x.1 ≠ []) (hne : places ≠ []) (old : Option Value) :
    places.foldl settle old = some (.map (putAll (entriesOf old) places)) := by
  induction places generalizing old with
  | nil => exact absurd rfl hne
  | cons x places ih =>
    rw [List.forall_mem_cons] at h
    rw [List.foldl_cons, settle, if_neg h.1]
    cases places with
    | nil => rfl
    | cons y places => exact ih h.2 (List.cons_ne_nil _ _) _

theorem Apart.perm (h : Apart places) (hperm : places.Perm places') : Apart places' where
  named x hx := h.named x (hperm.mem_iff.2 hx)
  apart := h.apart.perm hperm fun h => h.symm

theorem apart_under (h : Apart places) (name : String) :
    (under name places).Pairwise fun x y => ¬x.1 <+: y.1 ∧ ¬y.1 <+: x.1 := by
  rw [under, List.pairwise_filterMap]
  refine h.apart.imp ?_
  rintro ⟨_ | ⟨k, rest⟩, v⟩ ⟨_ | ⟨l, rest'⟩, w⟩ hxy x hx y hy <;> try contradiction
  dsimp only at hx hy
  split_ifs at hx hy with hk hl
  cases hx
  cases hy
  subst hk hl
  simpa using hxy

/-- A value right under a name is the only one whose names begin with it. -/
theorem Apart.eq_of_mem_under (h : Apart places) (hv : ([], v) ∈ under name places) :
    under name places = [([], v)] := by
  obtain ⟨before, after, hsplit⟩ := List.append_of_mem hv
  have hpair := apart_under h name
  rw [hsplit, List.pairwise_append, List.pairwise_cons] at hpair
  obtain ⟨-, ⟨hafter, -⟩, hbefore⟩ := hpair
  have hnoneAfter : after = [] := List.eq_nil_iff_forall_not_mem.2 fun x hx =>
    (hafter x hx).1 List.nil_prefix
  have hnoneBefore : before = [] := List.eq_nil_iff_forall_not_mem.2 fun x hx =>
    (hbefore x hx _ List.mem_cons_self).2 List.nil_prefix
  rw [hsplit, hnoneBefore, hnoneAfter, List.nil_append]

/-- What stands under a name: nothing, the value right under it, or a map of the values further
below. -/
theorem get?_putAll_cases (h : Apart places) (name : String) :
    (under name places = [] ∧ (putAll [] places).get? name = none) ∨
    (∃ v, under name places = [([], v)] ∧ (putAll [] places).get? name = some v) ∨
    (under name places ≠ [] ∧ Apart (under name places) ∧
      (putAll [] places).get? name = some (.map (putAll [] (under name places)))) := by
  have hget := get?_putAll [] places name
  by_cases hnone : under name places = []
  · rw [hnone] at hget
    exact .inl ⟨hnone, hget⟩
  by_cases hleaf : ∃ v, ([], v) ∈ under name places
  · obtain ⟨v, hv⟩ := hleaf
    have hone := h.eq_of_mem_under hv
    rw [hone] at hget
    exact .inr (.inl ⟨v, hone, hget⟩)
  · have hinner : ∀ x ∈ under name places, x.1 ≠ [] := by
      rintro ⟨_ | ⟨k, rest⟩, v⟩ hx
      · exact absurd ⟨v, hx⟩ hleaf
      · exact List.cons_ne_nil _ _
    rw [foldl_settle hinner hnone] at hget
    exact .inr (.inr ⟨hnone, ⟨hinner, apart_under h name⟩, hget⟩)

/-- Every value is found at its names. -/
theorem at?_putAll (h : Apart places) (hv : (names, v) ∈ places) :
    (Value.map (putAll [] places)).at? names = some v := by
  induction names generalizing places with
  | nil => exact absurd rfl (h.named _ hv)
  | cons name names ih =>
    have hunder := mem_under.2 hv
    show ((putAll [] places).get? name).bind (·.at? names) = some v
    rcases get?_putAll_cases h name with ⟨hnone, -⟩ | ⟨w, hone, hget⟩ | ⟨-, hinner, hget⟩
    · rw [hnone] at hunder
      cases hunder
    · rw [hone, List.mem_singleton] at hunder
      cases hunder
      rw [hget]
      rfl
    · rw [hget]
      exact ih hinner hunder

/-- Names that lead to anything are on the way to a value, or lead on from one. -/
theorem exists_of_at?_putAll (h : Apart places) (hne : names ≠ [])
    (hat : (Value.map (putAll [] places)).at? names = some v) :
    ∃ x ∈ places, names <+: x.1 ∨ x.1 <+: names := by
  induction names generalizing places with
  | nil => exact absurd rfl hne
  | cons name names ih =>
    have hat : ((putAll [] places).get? name).bind (·.at? names) = some v := hat
    rcases get?_putAll_cases h name with ⟨-, hget⟩ | ⟨w, hone, -⟩ | ⟨hsome, hinner, hget⟩
    · rw [hget] at hat
      cases hat
    · have hw : ([name], w) ∈ places := mem_under.1 (hone ▸ List.mem_singleton_self _)
      exact ⟨_, hw, .inr (List.prefix_cons_inj name |>.2 List.nil_prefix)⟩
    · rw [hget] at hat
      cases names with
      | nil =>
        obtain ⟨⟨rest, w⟩, hw⟩ := List.exists_mem_of_ne_nil _ hsome
        exact ⟨_, mem_under.1 hw, .inl (List.prefix_cons_inj name |>.2 List.nil_prefix)⟩
      | cons k names =>
        obtain ⟨⟨rest, w⟩, hw, hprefix⟩ := ih hinner (List.cons_ne_nil _ _) hat
        refine ⟨_, mem_under.1 hw, ?_⟩
        simpa only [List.prefix_cons_inj] using hprefix

theorem isSome_get?_putAll (h : Apart places) (name : String) :
    ((putAll [] places).get? name).isSome = !(under name places).isEmpty := by
  rcases get?_putAll_cases h name with ⟨hnone, hget⟩ | ⟨v, hone, hget⟩ | ⟨hsome, -, hget⟩
  · rw [hget, hnone]
    rfl
  · rw [hget, hone]
    rfl
  · rw [hget, List.isEmpty_eq_false_iff.2 hsome]
    rfl

/-- Whatever the order in which values are set, the map that holds them is the same but for the
order of its entries. The induction is on the length of the names. -/
theorem equal_putAll (h : Apart places) (hperm : places.Perm places') :
    (Value.map (putAll [] places)).Equal (.map (putAll [] places')) := by
  obtain ⟨n, hn⟩ : ∃ n, ∀ x ∈ places, x.1.length ≤ n :=
    ⟨(places.map (·.1.length)).max?.getD 0, fun x hx =>
      List.le_max?_getD_of_mem (List.mem_map_of_mem hx)⟩
  induction n generalizing places places' with
  | zero =>
    have hnil : places = [] := List.eq_nil_iff_forall_not_mem.2 fun x hx =>
      h.named x hx (List.length_eq_zero_iff.1 (Nat.le_zero.1 (hn x hx)))
    subst hnil
    rw [hperm.nil_eq]
    exact .refl _
  | succ n ih =>
    have h' := h.perm hperm
    have hunder (name : String) : (under name places).Perm (under name places') :=
      hperm.filterMap _
    have hnil : (Row.names []).Nodup := List.nodup_nil
    refine .map (nodup_putAll hnil _) (nodup_putAll hnil _) ?_ ?_
    · intro name
      rw [isSome_get?_putAll h, isSome_get?_putAll h', (hunder name).isEmpty_eq]
    · intro name v w hv hw
      rcases get?_putAll_cases h name with ⟨-, hget⟩ | ⟨u, hone, hget⟩ | ⟨hsome, hinner, hget⟩ <;>
        rw [hget] at hv
      · cases hv
      · have hone' : under name places' = [([], u)] :=
          List.perm_singleton.1 (hone ▸ hunder name).symm
        rw [get?_putAll, hone'] at hw
        cases hv
        cases hw
        exact .refl _
      · have hinner' := hinner.perm (hunder name)
        have hsome' : under name places' ≠ [] := fun hnone =>
          hsome (List.perm_nil.1 (hnone ▸ hunder name))
        rw [get?_putAll, foldl_settle hinner'.named hsome'] at hw
        cases hv
        cases hw
        refine ih hinner (hunder name) fun x hx => ?_
        exact Nat.le_of_succ_le_succ (hn _ (mem_under.1 hx))

/-- A path of names leads to what its names lead to. -/
theorem findSteps_of_at? (hnames : ∀ name ∈ names, IsName name ∧ name ≠ "") {w : Value}
    (h : v.at? names = some w) : findSteps names v = .ok w := by
  induction names generalizing v with
  | nil =>
    cases h
    rfl
  | cons name names ih =>
    rw [List.forall_mem_cons] at hnames
    obtain ⟨u, hu, hrest⟩ := Option.bind_eq_some_iff.1 h
    cases v with
    | map entries =>
      have hget : Row.get? entries name = some u := hu
      rw [findSteps_map hnames.1.1 hnames.1.2, hget, Option.getD_some]
      exact ih hnames.2 hrest
    | _ => cases hu

end Path

end EntityQuery
