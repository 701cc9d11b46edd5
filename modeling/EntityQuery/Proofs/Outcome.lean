import EntityQuery.Error
import Mathlib.Data.List.Forall2

/-!
# Results that may be errors

What a run in `Except` did before: if it ended well, its first step ended well, and so did every
step over a list; if not, one of the steps failed.
-/

namespace Except

variable {ε ε' α β : Type}

theorem bind_of_ok {x : Except ε α} {a : α} (f : α → Except ε β) (h : x = .ok a) :
    x >>= f = f a := by
  subst h
  rfl

theorem bind_eq_ok_iff {x : Except ε α} {f : α → Except ε β} {b : β} :
    (x >>= f) = .ok b ↔ ∃ a, x = .ok a ∧ f a = .ok b := by
  cases x with
  | error e => simp [bind, Except.bind]
  | ok a => simp [bind, Except.bind]

theorem bind_eq_error_iff {x : Except ε α} {f : α → Except ε β} {e : ε} :
    (x >>= f) = .error e ↔ x = .error e ∨ ∃ a, x = .ok a ∧ f a = .error e := by
  cases x with
  | error e' => simp [bind, Except.bind]
  | ok a => simp [bind, Except.bind]

theorem mapError_eq_ok_iff {f : ε → ε'} {x : Except ε α} {a : α} :
    x.mapError f = .ok a ↔ x = .ok a := by
  cases x <;> simp [Except.mapError]

end Except

namespace List

variable {ε α β : Type}

theorem mapM_eq_ok_iff {f : α → Except ε β} {xs : List α} {ys : List β} :
    xs.mapM f = .ok ys ↔ Forall₂ (fun x y => f x = .ok y) xs ys := by
  induction xs generalizing ys with
  | nil => simp [pure, Except.pure, eq_comm]
  | cons x xs ih =>
    rw [mapM_cons, Except.bind_eq_ok_iff]
    constructor
    · rintro ⟨y, hy, h⟩
      obtain ⟨ys', hys, h⟩ := Except.bind_eq_ok_iff.1 h
      cases h
      exact .cons hy (ih.1 hys)
    · rintro (_ | ⟨hy, hys⟩)
      exact ⟨_, hy, Except.bind_eq_ok_iff.2 ⟨_, ih.2 hys, rfl⟩⟩

theorem mapM_eq_mapError {ε' : Type} {e : ε → ε'} {f : α → Except ε' β} {g : α → Except ε β}
    {xs : List α} (h : ∀ x ∈ xs, f x = (g x).mapError e) : xs.mapM f = (xs.mapM g).mapError e := by
  induction xs with
  | nil => rfl
  | cons x xs ih =>
    rw [forall_mem_cons] at h
    rw [mapM_cons, mapM_cons, h.1, ih h.2]
    cases g x with
    | error _ => rfl
    | ok _ => cases xs.mapM g <;> rfl

theorem exists_of_mapM_eq_error {f : α → Except ε β} {xs : List α} {e : ε}
    (h : xs.mapM f = .error e) : ∃ x ∈ xs, f x = .error e := by
  induction xs with
  | nil => cases h
  | cons x xs ih =>
    rw [mapM_cons] at h
    rcases Except.bind_eq_error_iff.1 h with hx | ⟨y, -, h⟩
    · exact ⟨x, mem_cons_self, hx⟩
    rcases Except.bind_eq_error_iff.1 h with hxs | ⟨ys, -, h⟩
    · obtain ⟨x', hx', hfails⟩ := ih hxs
      exact ⟨x', mem_cons_of_mem _ hx', hfails⟩
    · cases h

theorem exists_of_foldlM_eq_error {f : β → α → Except ε β} {xs : List α} {b : β} {e : ε}
    (h : xs.foldlM f b = .error e) : ∃ b', ∃ x ∈ xs, f b' x = .error e := by
  induction xs generalizing b with
  | nil => cases h
  | cons x xs ih =>
    rw [foldlM_cons] at h
    rcases Except.bind_eq_error_iff.1 h with hx | ⟨b', -, h⟩
    · exact ⟨b, x, mem_cons_self, hx⟩
    · obtain ⟨b', x', hx', hfails⟩ := ih h
      exact ⟨b', x', mem_cons_of_mem _ hx', hfails⟩

/-- A fold none of whose steps fails does what the steps do. -/
theorem foldlM_of_ok {f : β → α → Except ε β} {g : β → α → β} {xs : List α}
    (h : ∀ b, ∀ x ∈ xs, f b x = .ok (g b x)) (b : β) : xs.foldlM f b = .ok (xs.foldl g b) := by
  induction xs generalizing b with
  | nil => rfl
  | cons x xs ih =>
    rw [foldlM_cons, Except.bind_of_ok _ (h b x mem_cons_self)]
    exact ih (fun b x hx => h b x (mem_cons_of_mem _ hx)) _

theorem Forall₂.exists_of_mem {R : α → β → Prop} {xs : List α} {ys : List β} (h : Forall₂ R xs ys)
    {x : α} (hx : x ∈ xs) : ∃ y, R x y := by
  induction h with
  | nil => cases hx
  | cons hone _ ih =>
    rcases mem_cons.1 hx with rfl | hx
    · exact ⟨_, hone⟩
    · exact ih hx

theorem Forall₂.and_mem {R : α → β → Prop} {xs : List α} {ys : List β} (h : Forall₂ R xs ys) :
    Forall₂ (fun x y => (x ∈ xs ∧ y ∈ ys) ∧ R x y) xs ys := by
  obtain ⟨hlength, hzip⟩ := forall₂_iff_zip.1 h
  exact forall₂_iff_zip.2 ⟨hlength, fun hmem => ⟨of_mem_zip hmem, hzip hmem⟩⟩

/-- What stands between the entries of two lists can be listed. -/
theorem Forall₂.exists_between {γ : Type} {R : α → γ → Prop} {S : β → γ → Prop} {xs : List α}
    {ys : List β} (h : Forall₂ (fun x y => ∃ z, R x z ∧ S y z) xs ys) :
    ∃ zs, Forall₂ R xs zs ∧ Forall₂ S ys zs := by
  induction h with
  | nil => exact ⟨[], .nil, .nil⟩
  | cons hone _ ih =>
    obtain ⟨zs, hR, hS⟩ := ih
    obtain ⟨z, hx, hy⟩ := hone
    exact ⟨z :: zs, .cons hx hR, .cons hy hS⟩

/-- Entries are related in two steps if the lists are, through one between them. -/
theorem forall₂_exists_iff {γ : Type} {R : α → γ → Prop} {S : γ → β → Prop} {xs : List α}
    {ys : List β} : Forall₂ (fun x y => ∃ z, R x z ∧ S z y) xs ys ↔
      ∃ zs, Forall₂ R xs zs ∧ Forall₂ S zs ys := by
  constructor
  · intro h
    obtain ⟨zs, hR, hS⟩ := h.exists_between (S := fun y z => S z y)
    exact ⟨zs, hR, hS.flip⟩
  · rintro ⟨zs, hR, hS⟩
    induction hR generalizing ys with
    | nil =>
      cases hS
      exact .nil
    | cons hx _ ih =>
      cases hS with
      | cons hy hS => exact .cons ⟨_, hx, hy⟩ (ih hS)

/-- Where every entry is related to something, the list is to a list. -/
theorem exists_forall₂ {R : α → β → Prop} {xs : List α} (h : ∀ x ∈ xs, ∃ y, R x y) :
    ∃ ys, Forall₂ R xs ys := by
  induction xs with
  | nil => exact ⟨[], .nil⟩
  | cons x xs ih =>
    obtain ⟨y, hy⟩ := h x mem_cons_self
    obtain ⟨ys, hys⟩ := ih fun x hx => h x (mem_cons_of_mem _ hx)
    exact ⟨y :: ys, .cons hy hys⟩

/-- A run over a list ends well if each of its steps does. -/
theorem exists_mapM_eq_ok_iff {f : α → Except ε β} {xs : List α} :
    (∃ ys, xs.mapM f = .ok ys) ↔ ∀ x ∈ xs, ∃ y, f x = .ok y := by
  simp only [mapM_eq_ok_iff]
  exact ⟨fun ⟨_, h⟩ _ hx => h.exists_of_mem hx, exists_forall₂⟩

/-- A fold whose steps do or do not end well whatever came before ends well if each of them does. -/
theorem exists_foldlM_eq_ok_iff {f : β → α → Except ε β} {P : α → Prop} {xs : List α}
    (h : ∀ b, ∀ x ∈ xs, (∃ b', f b x = .ok b') ↔ P x) (b : β) :
    (∃ b', xs.foldlM f b = .ok b') ↔ ∀ x ∈ xs, P x := by
  induction xs generalizing b with
  | nil => exact iff_of_true ⟨b, rfl⟩ nofun
  | cons x xs ih =>
    have ih := ih fun b x hx => h b x (mem_cons_of_mem _ hx)
    rw [forall_mem_cons, ← h b x mem_cons_self, foldlM_cons]
    constructor
    · rintro ⟨b'', hrun⟩
      obtain ⟨b', hone, hrun⟩ := Except.bind_eq_ok_iff.1 hrun
      exact ⟨⟨b', hone⟩, (ih b').1 ⟨b'', hrun⟩⟩
    · rintro ⟨⟨b', hone⟩, hrest⟩
      obtain ⟨b'', hrun⟩ := (ih b').2 hrest
      exact ⟨b'', Except.bind_eq_ok_iff.2 ⟨b', hone, hrun⟩⟩

end List
