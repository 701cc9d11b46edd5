import EntityQuery.Sorter
import Mathlib.Data.List.Basic

/-!
# Sorting by insertion

Where an order is consistent on the items of a list (`WeakOrderOn`), an item goes behind the items
that it is not less than and before the others (`insertItem_append`), wherever the search for its
place looks. So the run that a sort starts with may as well be inserted item by item
(`sortBy_eq_foldl`), and the result is in order (`sorted_sortBy`), in which items that were in order
keep theirs (`sublist_sortBy`).

Insertion does not look at the other items, which is why a sort commutes with leaving items out
(`filter_sortBy`), and why sorting what is in order changes nothing (`sortBy_of_sorted`).
-/

namespace EntityQuery

variable {α : Type} {lt : α → α → Bool}

/-- Nothing is less than what is less than it, and what is not less than something that is not
less than a third is not less than the third, as far as the items of a list go. -/
structure WeakOrderOn (lt : α → α → Bool) (xs : List α) : Prop where
  asymm : ∀ a ∈ xs, ∀ b ∈ xs, lt a b = true → lt b a = false
  trans : ∀ a ∈ xs, ∀ b ∈ xs, ∀ c ∈ xs, lt a b = false → lt b c = false → lt a c = false

/-- No item is less than one before it. -/
def Sorted (lt : α → α → Bool) (xs : List α) : Prop := xs.Pairwise fun a b => lt b a = false

namespace WeakOrderOn

variable {xs ys : List α}

theorem mono (h : WeakOrderOn lt ys) (hsub : ∀ a ∈ xs, a ∈ ys) : WeakOrderOn lt xs where
  asymm a ha b hb := h.asymm a (hsub a ha) b (hsub b hb)
  trans a ha b hb c hc := h.trans a (hsub a ha) b (hsub b hb) c (hsub c hc)

theorem lt_trans (h : WeakOrderOn lt xs) {a b c : α} (ha : a ∈ xs) (hb : b ∈ xs) (hc : c ∈ xs)
    (hab : lt a b = true) (hbc : lt b c = true) : lt a c = true := by
  by_contra hac
  have hcb := h.asymm b hb c hc hbc
  have := h.trans a ha c hc b hb (by simpa using hac) hcb
  rw [hab] at this
  exact absurd this (by simp)

end WeakOrderOn

/-- The search ends between the items that `x` is not less than and those that it is less than.
The bounds keep to the two kinds, and each step brings them closer. -/
theorem insertionPoint_spec {x : α} {xs : List α}
    (hmono : ∀ i j (hi : i < xs.length) (hj : j < xs.length), i ≤ j → lt x xs[i] = true →
      lt x xs[j] = true) :
    ∀ (fuel low high : ℕ), low ≤ high → high ≤ xs.length → high - low ≤ fuel →
      (∀ i (hi : i < xs.length), i < low → lt x xs[i] = false) →
      (∀ i (hi : i < xs.length), high ≤ i → lt x xs[i] = true) →
      (∀ i (hi : i < xs.length), i < insertionPoint lt x xs low high fuel →
        lt x xs[i] = false) ∧
      ∀ i (hi : i < xs.length), insertionPoint lt x xs low high fuel ≤ i → lt x xs[i] = true
  | 0, low, high, hle, _, hfuel, hlow, hhigh => by
    have : low = high := by omega
    subst this
    exact ⟨hlow, hhigh⟩
  | fuel + 1, low, high, hle, hlen, hfuel, hlow, hhigh => by
    by_cases hlt : low < high
    · have hmid : low + (high - low) / 2 < xs.length := by omega
      simp only [insertionPoint, if_pos hlt, List.getElem?_eq_getElem hmid]
      by_cases hx : lt x xs[low + (high - low) / 2] = true
      · rw [if_pos hx]
        refine insertionPoint_spec hmono fuel low _ (by omega) (by omega) (by omega) hlow ?_
        exact fun i hi hmi => hmono _ i hmid hi hmi hx
      · rw [if_neg hx]
        refine insertionPoint_spec hmono fuel _ high (by omega) hlen (by omega) ?_ hhigh
        intro i hi him
        by_contra hxi
        exact hx (hmono i _ hi hmid (by omega) (by simpa using hxi))
    · have : low = high := by omega
      subst this
      simp only [insertionPoint, Nat.lt_irrefl, if_false]
      exact ⟨hlow, hhigh⟩

theorem lt_of_sorted {x : α} {xs : List α} (h : WeakOrderOn lt (x :: xs)) (hs : Sorted lt xs)
    (i j : ℕ) (hi : i < xs.length) (hj : j < xs.length) (hij : i ≤ j)
    (hx : lt x xs[i] = true) : lt x xs[j] = true := by
  rcases Nat.lt_or_eq_of_le hij with hij | rfl
  · have hji := List.pairwise_iff_getElem.1 hs i j hi hj hij
    by_contra hxj
    have := h.trans x (by simp) xs[j] (by simp) xs[i] (by simp) (by simpa using hxj) hji
    rw [hx] at this
    exact absurd this (by simp)
  · exact hx

theorem exists_insertItem_eq {x : α} {xs : List α} (h : WeakOrderOn lt (x :: xs))
    (hs : Sorted lt xs) :
    ∃ l r, xs = l ++ r ∧ insertItem lt xs x = l ++ x :: r ∧ (∀ y ∈ l, lt x y = false) ∧
      ∀ y ∈ r, lt x y = true := by
  obtain ⟨hbefore, hafter⟩ := insertionPoint_spec (lt_of_sorted h hs) xs.length 0 xs.length
    (by omega) (Nat.le_refl _) (by omega) (by omega) (by omega)
  refine ⟨_, _, (List.take_append_drop _ xs).symm, rfl, fun y hy => ?_, fun y hy => ?_⟩
  · obtain ⟨i, hi, rfl⟩ := List.mem_take_iff_getElem.1 hy
    exact hbefore i (by omega) (by omega)
  · obtain ⟨i, hi, rfl⟩ := List.mem_drop_iff_getElem.1 hy
    exact hafter _ (by omega) (by omega)

/-- An item goes behind those that it is not less than and before those that it is less than. -/
theorem insertItem_append {x : α} {l r : List α} (h : WeakOrderOn lt (x :: (l ++ r)))
    (hs : Sorted lt (l ++ r)) (hl : ∀ y ∈ l, lt x y = false) (hr : ∀ y ∈ r, lt x y = true) :
    insertItem lt (l ++ r) x = l ++ x :: r := by
  obtain ⟨l', r', he, hi, hl', hr'⟩ := exists_insertItem_eq h hs
  have hleft : ∀ a b : List α, (∀ y ∈ a, lt x y = false) → (∀ y ∈ b, lt x y = true) →
      (a ++ b).filter (fun y => !lt x y) = a := by
    intro a b ha hb
    rw [List.filter_append, List.filter_eq_self.2 fun y hy => by simp [ha y hy],
      List.filter_eq_nil_iff.2 fun y hy => by simp [hb y hy], List.append_nil]
  obtain rfl : l = l' := by rw [← hleft l r hl hr, he, hleft l' r' hl' hr']
  obtain rfl : r = r' := List.append_cancel_left he
  exact hi

theorem sorted_insertItem {x : α} {xs : List α} (h : WeakOrderOn lt (x :: xs))
    (hs : Sorted lt xs) : Sorted lt (insertItem lt xs x) := by
  obtain ⟨l, r, rfl, hi, hl, hr⟩ := exists_insertItem_eq h hs
  obtain ⟨hsl, hsr, hlr⟩ := List.pairwise_append.1 hs
  rw [hi, Sorted, List.pairwise_append, List.pairwise_cons]
  refine ⟨hsl, ⟨fun y hy => ?_, hsr⟩, fun y hy z hz => ?_⟩
  · exact h.asymm x (by simp) y (by simp [hy]) (hr y hy)
  · rcases List.mem_cons.1 hz with rfl | hz
    · exact hl y hy
    · exact hlr y hy z hz

/-- Leaving items out before or after one is inserted makes no difference. -/
theorem filter_insertItem {x : α} {xs : List α} (p : α → Bool) (h : WeakOrderOn lt (x :: xs))
    (hs : Sorted lt xs) :
    (insertItem lt xs x).filter p =
      if p x then insertItem lt (xs.filter p) x else xs.filter p := by
  have hsub : WeakOrderOn lt (x :: xs.filter p) := h.mono fun y hy => by
    rcases List.mem_cons.1 hy with rfl | hy
    · simp
    · exact List.mem_cons_of_mem x (List.mem_filter.1 hy).1
  have hsf : Sorted lt (xs.filter p) := List.Pairwise.filter p hs
  obtain ⟨l, r, rfl, hi, hl, hr⟩ := exists_insertItem_eq h hs
  rw [List.filter_append] at hsub hsf
  rw [hi, List.filter_append, List.filter_append, List.filter_cons,
    insertItem_append hsub hsf (fun y hy => hl y (List.mem_filter.1 hy).1)
      fun y hy => hr y (List.mem_filter.1 hy).1]
  by_cases hp : p x = true
  · rw [if_pos hp, if_pos hp]
  · rw [if_neg hp, if_neg hp]

theorem mem_insertItem {x y : α} {xs : List α} : y ∈ insertItem lt xs x ↔ y = x ∨ y ∈ xs := by
  rw [(perm_insertItem lt xs x).mem_iff, List.mem_cons]

theorem weakOrderOn_insertItem {x : α} {xs ys : List α}
    (h : WeakOrderOn lt (ys ++ x :: xs)) : WeakOrderOn lt (insertItem lt ys x ++ xs) :=
  h.mono fun a ha => by
    rcases List.mem_append.1 ha with ha | ha
    · rcases mem_insertItem.1 ha with rfl | ha <;> simp [*]
    · simp [ha]

theorem weakOrderOn_head {x : α} {xs ys : List α} (h : WeakOrderOn lt (ys ++ x :: xs)) :
    WeakOrderOn lt (x :: ys) :=
  h.mono fun a ha => by
    rcases List.mem_cons.1 ha with rfl | ha <;> simp [*]

theorem sorted_foldl_insertItem (xs : List α) : ∀ ys : List α, WeakOrderOn lt (ys ++ xs) →
    Sorted lt ys → Sorted lt (xs.foldl (insertItem lt) ys) := by
  induction xs with
  | nil => exact fun ys _ hs => hs
  | cons x xs ih =>
    intro ys h hs
    exact ih _ (weakOrderOn_insertItem h) (sorted_insertItem (weakOrderOn_head h) hs)

theorem filter_foldl_insertItem (p : α → Bool) (xs : List α) : ∀ ys : List α,
    WeakOrderOn lt (ys ++ xs) → Sorted lt ys →
      (xs.foldl (insertItem lt) ys).filter p =
        (xs.filter p).foldl (insertItem lt) (ys.filter p) := by
  induction xs with
  | nil => exact fun ys _ _ => rfl
  | cons x xs ih =>
    intro ys h hs
    have hx := weakOrderOn_head h
    rw [List.foldl_cons, ih _ (weakOrderOn_insertItem h) (sorted_insertItem hx hs),
      filter_insertItem p hx hs, List.filter_cons]
    by_cases hp : p x = true
    · rw [if_pos hp, if_pos hp, List.foldl_cons]
    · rw [if_neg hp, if_neg hp]

/-- Items that are in order keep it while others are put between them. -/
theorem sublist_foldl_insertItem (xs : List α) : ∀ {ys zs ws : List α}, WeakOrderOn lt (ys ++ xs) →
    Sorted lt ys → zs.Sublist ys → ws.Sublist xs → Sorted lt (zs ++ ws) →
      (zs ++ ws).Sublist (xs.foldl (insertItem lt) ys) := by
  induction xs with
  | nil =>
    intro ys zs ws _ _ hzs hws _
    rw [List.sublist_nil.1 hws, List.append_nil]
    exact hzs
  | cons x xs ih =>
    intro ys zs ws h hs hzs hws hsorted
    have hx := weakOrderOn_head h
    obtain ⟨l, r, rfl, hi, hl, hr⟩ := exists_insertItem_eq hx hs
    have hs' := sorted_insertItem hx hs
    have hweak := weakOrderOn_insertItem h
    rw [List.foldl_cons]
    rw [hi] at hs' hweak ⊢
    rcases List.sublist_cons_iff.1 hws with hws | ⟨rest, rfl, hrest⟩
    · exact ih hweak hs' (hzs.trans (List.Sublist.append_left (List.sublist_cons_self x r) l)) hws
        hsorted
    · obtain ⟨zs₁, zs₂, rfl, hzs₁, hzs₂⟩ := List.sublist_append_iff.1 hzs
      have hnone : zs₂ = [] := List.eq_nil_iff_forall_not_mem.2 fun z hz => by
        have hxz := (List.pairwise_append.1 hsorted).2.2 z (List.mem_append_right _ hz) x
          List.mem_cons_self
        rw [hr z (hzs₂.subset hz)] at hxz
        cases hxz
      subst hnone
      rw [List.append_nil] at hsorted ⊢
      have hzx : (zs₁ ++ [x]).Sublist (l ++ x :: r) :=
        hzs₁.append (List.singleton_sublist.2 List.mem_cons_self)
      have := ih hweak hs' hzx hrest (by simpa using hsorted)
      simpa using this

/-- What is in order stays as it is. -/
theorem foldl_insertItem_of_sorted (xs : List α) : ∀ ys : List α, WeakOrderOn lt (ys ++ xs) →
    Sorted lt (ys ++ xs) → xs.foldl (insertItem lt) ys = ys ++ xs := by
  induction xs with
  | nil => exact fun ys _ _ => (List.append_nil ys).symm
  | cons x xs ih =>
    intro ys h hs
    obtain ⟨hys, -, hyx⟩ := List.pairwise_append.1 hs
    have hlast : insertItem lt ys x = ys ++ [x] := by
      have := insertItem_append (r := []) (by simpa using weakOrderOn_head h)
        (by rwa [List.append_nil]) (fun y hy => hyx y hy x (by simp)) (by simp)
      rwa [List.append_nil] at this
    rw [List.foldl_cons, hlast, ih _ (by simpa using h) (by simpa using hs), List.append_assoc,
      List.singleton_append]

/-- A strictly falling run is turned round. -/
theorem foldl_insertItem_of_falling (xs : List α) : ∀ ys : List α, WeakOrderOn lt (ys ++ xs) →
    Sorted lt ys → xs.Pairwise (fun a b => lt b a = true) →
    (∀ x ∈ xs, ∀ y ∈ ys, lt x y = true) →
      xs.foldl (insertItem lt) ys = xs.reverse ++ ys := by
  induction xs with
  | nil => exact fun ys _ _ _ _ => rfl
  | cons x xs ih =>
    intro ys h hs hfall hless
    obtain ⟨hx, hxs⟩ := List.pairwise_cons.1 hfall
    have hfirst : insertItem lt ys x = x :: ys :=
      insertItem_append (l := []) (weakOrderOn_head h) hs (by simp) (hless x (by simp))
    have hsorted : Sorted lt (x :: ys) :=
      hfirst ▸ sorted_insertItem (weakOrderOn_head h) hs
    rw [List.foldl_cons, hfirst, ih _ (hfirst ▸ weakOrderOn_insertItem h) hsorted hxs ?_,
      List.reverse_cons, List.append_assoc, List.singleton_append]
    intro z hz y hy
    rcases List.mem_cons.1 hy with rfl | hy
    · exact hx z hz
    · exact hless z (List.mem_cons_of_mem x hz) y hy

/-- The run at the start of a list goes one way throughout. -/
theorem pairwise_run {falling : Bool} {xs : List α} : ∀ {a : α}, WeakOrderOn lt (a :: xs) →
    ((a :: xs).take (1 + runLength lt falling a xs)).Pairwise fun a b => lt b a = falling := by
  induction xs with
  | nil => intro a _; simp [runLength]
  | cons b xs ih =>
    intro a h
    by_cases hb : lt b a = falling
    · have hrun := ih (h.mono fun y hy => List.mem_cons_of_mem a hy)
      have hlen : 1 + runLength lt falling a (b :: xs) =
          (1 + runLength lt falling b xs) + 1 := by
        rw [runLength, if_pos (by simpa using hb), Nat.add_comm]
      rw [hlen, List.take_succ_cons, List.pairwise_cons]
      refine ⟨fun y hy => ?_, hrun⟩
      have hmem : y ∈ a :: b :: xs := List.mem_cons_of_mem a (List.mem_of_mem_take hy)
      rw [Nat.add_comm, List.take_succ_cons] at hy hrun
      rcases List.mem_cons.1 hy with rfl | hy
      · exact hb
      · have hyb := (List.pairwise_cons.1 hrun).1 y hy
        cases falling with
        | false => exact h.trans y hmem b (by simp) a (by simp) hyb hb
        | true => exact h.lt_trans hmem (by simp) (by simp) hyb hb
    · rw [runLength, if_neg (by simpa using hb)]
      simp

/-- The run at the start may as well be inserted item by item. -/
theorem sortBy_eq_foldl {xs : List α} (h : WeakOrderOn lt xs) :
    sortBy lt xs = xs.foldl (insertItem lt) [] := by
  match xs, h with
  | [], _ => rfl
  | [_], _ => rfl
  | a :: b :: rest, h =>
    have hrun : ((a :: b :: rest).take (1 + runLength lt (lt b a) a (b :: rest))).Pairwise
        fun x y => lt y x = lt b a := pairwise_run h
    simp only [sortBy]
    generalize 1 + runLength lt (lt b a) a (b :: rest) = n at hrun ⊢
    have htake : WeakOrderOn lt ([] ++ (a :: b :: rest).take n) :=
      h.mono fun y hy => List.mem_of_mem_take hy
    conv_rhs => rw [← List.take_append_drop n (a :: b :: rest), List.foldl_append]
    congr 1
    by_cases hf : lt b a = true
    · rw [hf] at hrun
      rw [if_pos hf, foldl_insertItem_of_falling _ _ htake .nil hrun (by simp),
        List.append_nil]
    · rw [Bool.not_eq_true] at hf
      rw [hf] at hrun
      rw [hf, if_neg (by simp), foldl_insertItem_of_sorted _ _ htake hrun, List.nil_append]

theorem sorted_sortBy {xs : List α} (h : WeakOrderOn lt xs) : Sorted lt (sortBy lt xs) := by
  rw [sortBy_eq_foldl h]
  exact sorted_foldl_insertItem xs [] h .nil

theorem sortBy_of_sorted {xs : List α} (h : WeakOrderOn lt xs) (hs : Sorted lt xs) :
    sortBy lt xs = xs := by
  rw [sortBy_eq_foldl h, foldl_insertItem_of_sorted xs [] h hs, List.nil_append]

/-- Items that are in order keep it. -/
theorem sublist_sortBy {xs ys : List α} (h : WeakOrderOn lt xs) (hsub : ys.Sublist xs)
    (hs : Sorted lt ys) : ys.Sublist (sortBy lt xs) := by
  rw [sortBy_eq_foldl h]
  exact sublist_foldl_insertItem xs h .nil (List.nil_sublist []) hsub hs

/-- Sorting commutes with leaving items out. -/
theorem filter_sortBy {xs : List α} (p : α → Bool) (h : WeakOrderOn lt xs) :
    (sortBy lt xs).filter p = sortBy lt (xs.filter p) := by
  rw [sortBy_eq_foldl h, filter_foldl_insertItem p xs [] h .nil,
    sortBy_eq_foldl (h.mono fun y hy => (List.mem_filter.1 hy).1), List.filter_nil]

end EntityQuery
