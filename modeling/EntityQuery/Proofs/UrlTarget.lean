import EntityQuery.Proofs.Outcome
import EntityQuery.Proofs.Separation
import EntityQuery.Url.Split

/-!
# What a URL asks its host for

A request names the path and the query string of its URL (`target`); the path that `split` finds is
the part before the query (`path_of_split`). A text behind a URL that ends in a slash is left as it
is, and comes behind what the URL itself asks for (`exists_hierarchy_append`).
-/

namespace EntityQuery.Url

/-- Whether a character counts inside a URL. -/
def isSignificant (c : Char) : Bool := c != '\t' && c != '\n' && c != '\r'

/-- The characters of a URL that count. -/
def significant (url : String) : List Char :=
  (url.toList.dropWhile fun c => c.toNat ≤ 0x20).filter isSignificant

/-- Whether a character stands in an authority. -/
def isInAuthority (c : Char) : Bool := c != '/' && c != '?' && c != '#'

/-- What follows the authority, if there is one. -/
def afterAuthority : List Char → List Char
  | '/' :: '/' :: r => r.dropWhile isInAuthority
  | r => r

/-- What follows scheme and authority of a URL. -/
def hierarchy (url : String) : List Char := afterAuthority (takeScheme (significant url)).2

/-- The path of a URL with its query string. -/
def target (url : String) : String := String.ofList ((hierarchy url).takeWhile (· != '#'))

theorem path_of_split {url : String} {p : Parts} (h : split url = .ok p) :
    p.path = String.ofList ((target url).toList.takeWhile (· != '?')) := by
  have hpath : (target url).toList.takeWhile (· != '?') =
      (hierarchy url).takeWhile fun c => c != '#' && c != '?' := by
    rw [target, String.toList_ofList, List.takeWhile_takeWhile]
    congr 1
    funext c
    cases hc : c != '#' <;> cases hq : c != '?' <;> simp_all
  rw [hpath, hierarchy]
  have hsignificant : ((url.toList.dropWhile fun c => c.toNat ≤ 0x20).filter
      fun c => c != '\t' && c != '\n' && c != '\r') = significant url := rfl
  unfold split at h
  dsimp only at h
  rw [hsignificant] at h
  generalize (takeScheme (significant url)).2 = rest at h ⊢
  split at h
  · split_ifs at h
    cases h
    exact congrArg (fun cs => String.ofList (List.takeWhile _ cs)) (List.drop_length_takeWhile _ _)
  · rename_i hrest
    split_ifs at h
    cases h
    rw [afterAuthority]
    exact hrest

theorem exists_significant (b : String) : ∃ k, ∀ t : String,
    (∀ c ∈ t.toList, isSignificant c = true) →
      significant (b ++ "/" ++ t) = k ++ '/' :: t.toList := by
  refine ⟨(b.toList.dropWhile fun c => c.toNat ≤ 0x20).filter isSignificant, fun t ht => ?_⟩
  have hlist : (b ++ "/" ++ t).toList = b.toList ++ '/' :: t.toList := by simp
  rw [significant, hlist, List.dropWhile_append_cons (by decide), List.filter_append,
    List.filter_cons_of_pos (by decide), List.filter_eq_self.2 ht]

theorem takeScheme_of_not_mem {cs : List Char} (h : ':' ∉ cs) : (takeScheme cs).2 = cs := by
  unfold takeScheme
  split
  · dsimp only
    rw [List.takeWhile_ne_eq_self h, if_neg (by simp)]
  · rfl

/-- Whether a text before a colon is a scheme. -/
def isScheme (cs : List Char) : Bool := cs.head?.any Char.isAlpha && cs.all isSchemeChar

theorem takeScheme_append_colon {a r : List Char} (h : ':' ∉ a) :
    (takeScheme (a ++ ':' :: r)).2 = if isScheme a then r else a ++ ':' :: r := by
  have hscheme : (a ++ ':' :: r).takeWhile (· != ':') = a := by
    rw [List.takeWhile_append_of_pos (fun c hc => by simpa using ne_of_mem_of_not_mem hc h),
      List.takeWhile_cons_of_neg (by decide), List.append_nil]
  cases a with
  | nil => rfl
  | cons x a =>
    have hlength : (x :: a).length < (x :: (a ++ ':' :: r)).length := by simp
    have hvalid : isScheme (x :: a) = (x.isAlpha && (x :: a).all isSchemeChar) := rfl
    unfold takeScheme
    simp only [List.cons_append] at hscheme ⊢
    simp only [hscheme, decide_eq_true hlength, Bool.and_true, ← hvalid]
    split <;> simp

/-- A scheme ends before the first slash. -/
theorem exists_takeScheme (k : List Char) :
    ∃ k', ∀ t, (takeScheme (k ++ '/' :: t)).2 = k' ++ '/' :: t := by
  by_cases hk : ':' ∈ k
  · obtain ⟨a, b, rfl, ha⟩ := List.eq_append_cons_of_mem hk
    by_cases hscheme : isScheme a = true
    · refine ⟨b, fun t => ?_⟩
      rw [List.append_assoc, List.cons_append, takeScheme_append_colon ha, if_pos hscheme]
    · refine ⟨a ++ ':' :: b, fun t => ?_⟩
      rw [List.append_assoc, List.cons_append, takeScheme_append_colon ha, if_neg hscheme]
  · refine ⟨k, fun t => ?_⟩
    by_cases ht : ':' ∈ t
    · obtain ⟨a, b, rfl, ha⟩ := List.eq_append_cons_of_mem ht
      have hslash : ':' ∉ k ++ '/' :: a := by simp [hk, ha]
      rw [← List.cons_append, ← List.append_assoc, takeScheme_append_colon hslash, if_neg]
      simp [isScheme, isSchemeChar]
    · exact takeScheme_of_not_mem (by simp [hk, ht])

theorem exists_afterAuthority (k : List Char) : k = ['/'] ∨ ∃ h, ∀ t : List Char,
    t.head? ≠ some '/' → afterAuthority (k ++ '/' :: t) = h ++ '/' :: t := by
  rcases k with _ | ⟨x, k⟩
  · refine .inr ⟨[], fun t ht => ?_⟩
    cases t with
    | nil => rfl
    | cons c t =>
      have hc : c ≠ '/' := fun h => ht (congrArg some h)
      simp [afterAuthority, hc]
  by_cases hx : x = '/'
  · rcases k with _ | ⟨y, k⟩
    · exact .inl (by rw [hx])
    by_cases hy : y = '/'
    · subst hx hy
      exact .inr ⟨k.dropWhile isInAuthority, fun t _ => List.dropWhile_append_cons (by decide) _ _⟩
    · exact .inr ⟨x :: y :: k, fun t _ => by simp [afterAuthority, hy]⟩
  · exact .inr ⟨x :: k, fun t _ => by simp [afterAuthority, hx]⟩

/-- What follows scheme and authority of a URL that ends in a slash stays there when a text is
added, unless the slash is the second one before an authority, which the text begins then. -/
theorem exists_hierarchy_append (b : String) :
    (∀ t : String, (∀ c ∈ t.toList, isSignificant c = true) →
      hierarchy (b ++ "/" ++ t) = t.toList.dropWhile isInAuthority) ∨
    ∃ h, ∀ t : String, (∀ c ∈ t.toList, isSignificant c = true) →
      t.toList.head? ≠ some '/' → hierarchy (b ++ "/" ++ t) = h ++ '/' :: t.toList := by
  obtain ⟨k, hk⟩ := exists_significant b
  obtain ⟨k', hk'⟩ := exists_takeScheme k
  have hrest (t : String) (ht : ∀ c ∈ t.toList, isSignificant c = true) :
      hierarchy (b ++ "/" ++ t) = afterAuthority (k' ++ '/' :: t.toList) := by
    rw [hierarchy, hk t ht, hk']
  rcases exists_afterAuthority k' with rfl | ⟨h, hh⟩
  · exact .inl hrest
  · exact .inr ⟨h, fun t ht hslash => (hrest t ht).trans (hh _ hslash)⟩

/-- A query and a fragment are never part of scheme and authority. -/
theorem mem_hierarchy {url : String} {c : Char} (hc : c = '?' ∨ c = '#') (h : c ∈ url.toList) :
    c ∈ hierarchy url := by
  have hsignificant : c ∈ significant url := by
    refine List.mem_filter.2 ⟨List.mem_dropWhile_of_mem ?_ h, ?_⟩ <;>
      rcases hc with rfl | rfl <;> decide
  have hrest : c ∈ (takeScheme (significant url)).2 := by
    generalize significant url = cs at hsignificant ⊢
    by_cases hcolon : ':' ∈ cs
    · obtain ⟨a, r, rfl, ha⟩ := List.eq_append_cons_of_mem hcolon
      rw [takeScheme_append_colon ha]
      split_ifs with hscheme
      · rw [isScheme, Bool.and_eq_true, List.all_eq_true] at hscheme
        rcases List.mem_append.1 hsignificant with hmem | hmem
        · have hvalid := hscheme.2 c hmem
          rcases hc with rfl | rfl <;> cases hvalid
        · rcases List.mem_cons.1 hmem with rfl | hmem
          · rcases hc with hc | hc <;> cases hc
          · exact hmem
      · exact hsignificant
    · rwa [takeScheme_of_not_mem hcolon]
  unfold hierarchy
  generalize (takeScheme (significant url)).2 = rest at hrest
  unfold afterAuthority
  split
  · refine List.mem_dropWhile_of_mem ?_ ?_
    · rcases hc with rfl | rfl <;> decide
    · rcases hc with rfl | rfl <;> simpa using hrest
  · exact hrest

theorem sublist_takeScheme (cs : List Char) : (takeScheme cs).2.Sublist cs := by
  by_cases hcolon : ':' ∈ cs
  · obtain ⟨a, r, rfl, ha⟩ := List.eq_append_cons_of_mem hcolon
    rw [takeScheme_append_colon ha]
    split_ifs
    · exact (List.sublist_cons_self _ _).trans (List.sublist_append_right _ _)
    · exact List.Sublist.refl _
  · rw [takeScheme_of_not_mem hcolon]

theorem sublist_hierarchy (url : String) : (hierarchy url).Sublist url.toList := by
  have hafter (cs : List Char) : (afterAuthority cs).Sublist cs := by
    unfold afterAuthority
    split
    · exact (List.dropWhile_sublist _).trans (by simp)
    · exact List.Sublist.refl _
  have hsignificant : (significant url).Sublist url.toList :=
    List.filter_sublist.trans (List.dropWhile_sublist _)
  exact (hafter _).trans ((sublist_takeScheme _).trans hsignificant)

theorem length_target_le (url : String) : (target url).length ≤ url.length := by
  rw [target, ← String.length_toList, ← String.length_toList, String.toList_ofList]
  exact ((List.takeWhile_sublist _).trans (sublist_hierarchy url)).length_le

/-- Behind a query or a fragment, a text adds nothing to the path. -/
theorem takeWhile_append_of_mark {cs : List Char} (h : '?' ∈ cs ∨ '#' ∈ cs) (ys : List Char) :
    ∃ rest, (cs ++ ys).takeWhile (· != '#') =
        (cs.takeWhile (· != '#')).takeWhile (· != '?') ++ rest ∧
      (rest = [] ∨ rest.head? = some '?') := by
  induction cs with
  | nil => simp at h
  | cons c cs ih =>
    by_cases hf : c = '#'
    · subst hf
      exact ⟨[], by simp, .inl rfl⟩
    by_cases hq : c = '?'
    · subst hq
      exact ⟨_, by simp; rfl, .inr rfl⟩
    · obtain ⟨rest, hrest, hhead⟩ := ih (by simpa [Ne.symm hf, Ne.symm hq] using h)
      exact ⟨rest, by simpa [hf, hq] using hrest, hhead⟩

end EntityQuery.Url
