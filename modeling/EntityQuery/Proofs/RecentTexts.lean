import EntityQuery.Html.Cache
import EntityQuery.Html.Table
import EntityQuery.Proofs.Outcome
import Mathlib.Data.List.Dedup
import Mathlib.Data.List.DropRight
import Mathlib.Data.List.Induction

/-!
# What a cache of parsed texts keeps

Where different texts have different digests, a cache does not show: every call ends as parsing
does, and one that fails changes nothing (`Cache.Holds.fetchBy_eq`). After any calls it keeps the
texts that were parsed, each once and in the order of their last use, as far back as its size goes
(`Cache.after_keeps`). A step puts a text at the end and takes away where it was before, and whether
the oldest texts are left out before or after that makes no difference (`List.rtake_moved`).
-/

namespace List

variable {α : Type}

theorem rtake_append_of_le {xs ys : List α} {k : ℕ} (h : k ≤ ys.length) :
    (xs ++ ys).rtake k = ys.rtake k := by
  rw [rtake, rtake, length_append, Nat.add_sub_assoc h, drop_append]
  simp

variable [DecidableEq α]

theorem dedup_concat (xs : List α) (a : α) :
    (xs ++ [a]).dedup = xs.dedup.filter (· != a) ++ [a] := by
  induction xs with
  | nil => rfl
  | cons x xs ih =>
    rw [cons_append, dedup_cons, dedup_cons, ih]
    by_cases hx : x ∈ xs
    · simp [hx]
    · by_cases ha : x = a
      · subst ha
        simp [hx]
      · simp [hx, ha]

/-- The last entries after one is moved to the end are found among the last entries before. -/
theorem rtake_moved {xs : List α} (h : xs.Nodup) (a : α) (k : ℕ) :
    ((xs.rtake k).filter (· != a) ++ [a]).rtake k = (xs.filter (· != a) ++ [a]).rtake k := by
  rcases k with _ | k
  · simp
  rw [rtake_concat_succ, rtake_concat_succ]
  rcases Nat.le_total xs.length (k + 1) with hshort | hlong
  · have hall : xs.rtake (k + 1) = xs := by rw [rtake, Nat.sub_eq_zero_of_le hshort, drop_zero]
    rw [hall]
  · have hlength : (xs.rtake (k + 1)).length = k + 1 := by
      rw [rtake, length_drop]
      omega
    have hkept : k ≤ ((xs.rtake (k + 1)).filter (· != a)).length := by
      have hnodup : (xs.rtake (k + 1)).Nodup := h.sublist (drop_sublist _ _)
      have herase : _ ≤ ((xs.rtake (k + 1)).erase a).length := le_length_erase
      rw [hnodup.erase_eq_filter, hlength] at herase
      exact herase
    have hsplit : xs = xs.take (xs.length - (k + 1)) ++ xs.rtake (k + 1) :=
      (take_append_drop _ _).symm
    conv_rhs => rw [hsplit, filter_append, rtake_append_of_le hkept]

end List

namespace EntityQuery.Html.Cache

variable {α ε : Type} {digest : String → String} {parse : String → Except ε α} {c : Cache α}
  {kept : List String} {text : String} {parsed : α}

/-- A cache has an entry for each of some texts, in their order. -/
def Holds (digest : String → String) (parse : String → Except ε α) (kept : List String)
    (c : Cache α) : Prop :=
  List.Forall₂ (fun text e => e.1 = digest text ∧ parse text = .ok e.2) kept c.entries

/-- The texts of some calls that were parsed, each once, in the order of their last use. -/
def usedTexts (parse : String → Except ε α) (calls : List String) : List String :=
  (calls.filter fun text => (parse text).isOk).dedup

/-- An empty cache after calls in turn. -/
def after (digest : String → String) (parse : String → Except ε α) (size : Int)
    (calls : List String) : Cache α :=
  calls.foldl (fun c text => (c.fetchBy digest parse text).2) (.empty size)

theorem Holds.parse_of_get? (h : Holds digest parse kept c)
    (hdigest : ∀ u ∈ kept, digest u = digest text → u = text)
    (hget : c.get? (digest text) = some parsed) : parse text = .ok parsed := by
  obtain ⟨before, after, hentries, -⟩ := List.lookup_eq_some_iff.1 hget
  have hmem : (digest text, parsed) ∈ c.entries :=
    hentries ▸ List.mem_append_right _ List.mem_cons_self
  obtain ⟨u, ⟨hu, -⟩, hkey, hparse⟩ := (List.Forall₂.and_mem h).flip.exists_of_mem hmem
  rwa [← hdigest u hu hkey.symm]

/-- A call ends as parsing does. It uses the text if that can be parsed and otherwise changes
nothing. -/
theorem Holds.fetchBy_eq (h : Holds digest parse kept c)
    (hdigest : ∀ u ∈ kept, digest u = digest text → u = text) :
    c.fetchBy digest parse text = (parse text,
      match parse text with
      | .ok parsed => c.use (digest text) parsed
      | .error _ => c) := by
  unfold fetchBy
  split
  · rename_i parsed hget
    rw [h.parse_of_get? hdigest hget]
  · cases parse text <;> rfl

/-- A text that is used becomes the newest, and the oldest are left out. -/
theorem Holds.use (h : Holds digest parse kept c)
    (hdigest : ∀ u ∈ kept, digest u = digest text → u = text) (hparse : parse text = .ok parsed) :
    Holds digest parse ((kept.filter (· != text) ++ [text]).rtake c.size)
      (c.use (digest text) parsed) := by
  have hothers : List.Forall₂ (fun text e => e.1 = digest text ∧ parse text = .ok e.2)
      (kept.filter (· != text)) (c.entries.filter (·.1 != digest text)) := by
    refine (List.rel_filter ?_ (List.Forall₂.and_mem h)).imp fun _ _ => And.right
    rintro u e ⟨⟨hu, -⟩, hkey, -⟩
    simp only [bne_iff_ne, hkey, not_iff_not]
    exact ⟨fun hsame => hsame ▸ rfl, hdigest u hu⟩
  have hlast : List.Forall₂ (fun text e => e.1 = digest text ∧ parse text = .ok e.2)
      [text] [(digest text, parsed)] := .cons ⟨rfl, hparse⟩ .nil
  have hall := List.rel_append hothers hlast
  unfold Holds Cache.use List.rtake
  rw [hall.length_eq]
  exact List.forall₂_drop _ hall

theorem size_fetchBy (c : Cache α) (text : String) :
    (c.fetchBy digest parse text).2.size = c.size := by
  unfold fetchBy
  split
  · rfl
  · split <;> rfl

theorem after_concat (size : Int) (calls : List String) (text : String) :
    after digest parse size (calls ++ [text]) =
      ((after digest parse size calls).fetchBy digest parse text).2 := by
  simp [after]

theorem size_after (size : Int) (calls : List String) :
    (after digest parse size calls).size = size.toNat := by
  induction calls using List.reverseRecOn with
  | nil => rfl
  | append_singleton calls text ih => rw [after_concat, size_fetchBy, ih]

theorem mem_of_mem_rtake_usedTexts {calls : List String} {k : ℕ}
    (h : text ∈ (usedTexts parse calls).rtake k) : text ∈ calls :=
  (List.mem_filter.1 (List.mem_dedup.1 (List.drop_subset _ _ h))).1

theorem usedTexts_concat_of_ok (h : parse text = .ok parsed) (calls : List String) :
    usedTexts parse (calls ++ [text]) = (usedTexts parse calls).filter (· != text) ++ [text] := by
  have hok : (parse text).isOk = true := by rw [h]; rfl
  rw [usedTexts, List.filter_append, List.filter_singleton, hok, cond_true, List.dedup_concat]
  rfl

theorem usedTexts_concat_of_error {e : ε} (h : parse text = .error e) (calls : List String) :
    usedTexts parse (calls ++ [text]) = usedTexts parse calls := by
  have hfails : (parse text).isOk = false := by rw [h]; rfl
  rw [usedTexts, List.filter_append, List.filter_singleton, hfails, cond_false, List.append_nil]
  rfl

theorem holds_after (size : Int) {calls : List String}
    (hdigest : ∀ s ∈ calls, ∀ t ∈ calls, digest s = digest t → s = t) :
    Holds digest parse ((usedTexts parse calls).rtake size.toNat)
      (after digest parse size calls) := by
  induction calls using List.reverseRecOn with
  | nil =>
    rw [usedTexts, List.filter_nil, List.dedup_nil, List.rtake_nil]
    exact .nil
  | append_singleton calls text ih =>
    have h := ih fun s hs t ht => hdigest s (by simp [hs]) t (by simp [ht])
    have hkept : ∀ u ∈ (usedTexts parse calls).rtake size.toNat,
        digest u = digest text → u = text := by
      intro u hu
      have hcall := mem_of_mem_rtake_usedTexts hu
      exact hdigest u (by simp [hcall]) text (by simp)
    rw [after_concat, h.fetchBy_eq hkept]
    cases hparse : parse text with
    | ok parsed =>
      have hused := h.use hkept hparse
      have hnodup : (usedTexts parse calls).Nodup := List.nodup_dedup _
      rw [size_after, List.rtake_moved hnodup] at hused
      rwa [usedTexts_concat_of_ok hparse]
    | error e => rwa [usedTexts_concat_of_error hparse]

/-- Where different texts have different digests, every call ends as parsing its text does, one that
fails leaves the cache as it is, and after every call the cache keeps the texts that were used last,
up to its size, in the order of their last use. -/
theorem after_keeps (digest : String → String) (parse : String → Except ε α) (size : Int)
    {calls : List String} {text : String}
    (hdigest : ∀ s ∈ calls ++ [text], ∀ t ∈ calls ++ [text], digest s = digest t → s = t) :
    ∃ c, (after digest parse size calls).fetchBy digest parse text = (parse text, c) ∧
      (∀ e, parse text = .error e → c = after digest parse size calls) ∧
      Holds digest parse ((usedTexts parse (calls ++ [text])).rtake size.toNat) c ∧
      c.entries.length = min (max size 0).toNat (usedTexts parse (calls ++ [text])).length := by
  have hbefore : Holds digest parse ((usedTexts parse calls).rtake size.toNat)
      (after digest parse size calls) :=
    holds_after size fun s hs t ht => hdigest s (by simp [hs]) t (by simp [ht])
  have hkept : ∀ u ∈ (usedTexts parse calls).rtake size.toNat, digest u = digest text → u = text :=
    fun u hu => hdigest u (by simp [mem_of_mem_rtake_usedTexts hu]) text (by simp)
  have hstep := hbefore.fetchBy_eq hkept
  have hafter : Holds digest parse _ _ := holds_after size hdigest
  rw [after_concat, hstep] at hafter
  refine ⟨_, hstep, fun e he => ?_, hafter, ?_⟩
  · rw [he]
  · have hlength := List.Forall₂.length_eq hafter
    rw [List.rtake, List.length_drop] at hlength
    rw [← hlength]
    omega

/-- The digests of three short pages and of a comment that is no page. -/
def pageDigests : List (String × String) := [
  ("<p>a</p>", "9fb83da5876b087ddc72927b565f223a"),
  ("<p>b</p>", "db85e08f6654df1dff03cb0a907e28db"),
  ("<p>c</p>", "579beec8e96730f739d3a4fabec082b7"),
  ("<!-- empty -->", "a9b72fe462df43b45cd87271c7b70997")]

def pageDigest (text : String) : String := (pageDigests.lookup text).getD ""

def pageCalls : List String := ["<p>a</p>", "<p>b</p>", "<!-- empty -->", "<p>a</p>"]

/-- A page that is used again outlives one that was first used later, and a text that is no page
takes no place. -/
theorem after_keeps_pages :
    (∀ s ∈ pageCalls ++ ["<p>c</p>"], ∀ t ∈ pageCalls ++ ["<p>c</p>"],
      pageDigest s = pageDigest t → s = t) ∧
    ∃ c, (after pageDigest document 2 pageCalls).fetchBy pageDigest document "<p>c</p>" =
        (document "<p>c</p>", c) ∧
      Holds pageDigest document ["<p>a</p>", "<p>c</p>"] c ∧ c.entries.length = 2 := by
  have hdigest : ∀ s ∈ pageCalls ++ ["<p>c</p>"], ∀ t ∈ pageCalls ++ ["<p>c</p>"],
      pageDigest s = pageDigest t → s = t := by decide +kernel
  obtain ⟨c, hcall, -, hholds, hlength⟩ := after_keeps pageDigest document 2 hdigest
  have hused : usedTexts document (pageCalls ++ ["<p>c</p>"]) =
      ["<p>b</p>", "<p>a</p>", "<p>c</p>"] := by decide +kernel
  rw [hused] at hholds hlength
  exact ⟨hdigest, c, hcall, hholds, hlength⟩

end EntityQuery.Html.Cache
