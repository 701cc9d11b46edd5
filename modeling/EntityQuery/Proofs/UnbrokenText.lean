import EntityQuery.Proofs.Framing
import EntityQuery.Proofs.QueryRoundTrip
import EntityQuery.Proofs.UrlTarget

/-!
# Texts that break no line

What the head of a request is made of holds no end of a line: capitals hold none that was not there
before (`unbroken_upper`), an encoded address holds none at all (`unbroken_encodedUri`), and the
address of a service loses those it had when it is split (`unbroken_service`).
-/

namespace EntityQuery.Batch

open Text

theorem ofNat_ne_of_le {n : Nat} (h : 0x20 ≤ n) : Char.ofNat n ≠ '\r' ∧ Char.ofNat n ≠ '\n' := by
  have hn : (Char.ofNat n).toNat = n ∨ (Char.ofNat n).toNat = 0 := by
    by_cases hv : n.isValidChar
    · exact .inl (congrArg Char.toNat (dif_pos hv))
    · exact .inr (congrArg Char.toNat (dif_neg hv))
  have hlarge {c : Char} (he : Char.ofNat n = c) : 0x20 ≤ c.toNat ∨ c.toNat = 0 := by
    subst he
    omega
  exact ⟨fun he => absurd (hlarge he) (by decide), fun he => absurd (hlarge he) (by decide)⟩

theorem unbroken_upper {s : String} (h : Unbroken s) : Unbroken (upper s) := by
  have hascii : ∀ n < 0x80, Char.ofNat n ≠ '\r' ∧ Char.ofNat n ≠ '\n' →
      (Char.ofNat n).toUpper ≠ '\r' ∧ (Char.ofNat n).toUpper ≠ '\n' := by decide
  have hruns : ∀ r ∈ upperRuns, r.last < 0x80 ∨ 0x20 ≤ r.first + r.offset := by decide +kernel
  have hexpansions : ∀ p ∈ upperExpansions, ∀ n ∈ p.2, 0x20 ≤ n := by decide +kernel
  intro c hc
  rw [upper, String.toList_ofList, List.mem_flatMap] at hc
  obtain ⟨x, hx, hc⟩ := hc
  split at hc
  · rename_i hlt
    rw [List.mem_singleton.1 hc, ← Char.ofNat_toNat x]
    exact hascii _ hlt (by rw [Char.ofNat_toNat]; exact h x hx)
  · rename_i hlarge
    unfold mapCase at hc
    split at hc
    · rename_i ns hns
      obtain ⟨n, hn, rfl⟩ := List.mem_map.1 hc
      obtain ⟨l, r, hlr, -⟩ := List.lookup_eq_some_iff.1 hns
      exact ofNat_ne_of_le (hexpansions (x.toNat, ns) (by simp [hlr]) n hn)
    · split at hc
      · rename_i r hr
        have hcontains := List.find?_some hr
        simp only [CaseRun.contains, Bool.and_eq_true, decide_eq_true_eq] at hcontains
        rw [List.mem_singleton.1 hc]
        have hrun := hruns r (List.mem_of_find?_eq_some hr)
        exact ofNat_ne_of_le (by omega)
      · rw [List.mem_singleton.1 hc]
        exact h x hx

theorem unbroken_natText (n : Nat) : Unbroken (Number.natText n) := by
  intro c hc
  have hdigit := Number.isDigit_of_mem_natText hc
  constructor <;> rintro rfl <;> exact absurd hdigit (by decide)

theorem unbroken_encodedUri (r : Request) : Unbroken r.encodedUri := by
  intro c hc
  have hsent := Request.mem_encodedUri hc
  constructor <;> rintro rfl <;> exact absurd hsent (by decide)

theorem unbroken_of_split {url : String} {p : Url.Parts} (h : Url.split url = .ok p) :
    Unbroken p.authority ∧ Unbroken p.path := by
  unfold Url.split at h
  dsimp only at h
  have hrest : ∀ c ∈ (Url.takeScheme ((url.toList.dropWhile fun c => c.toNat ≤ 0x20).filter
      fun c => c != '\t' && c != '\n' && c != '\r')).2, c ≠ '\r' ∧ c ≠ '\n' := by
    intro c hc
    have hkept := (List.mem_filter.1 ((Url.sublist_takeScheme _).subset hc)).2
    simp only [Bool.and_eq_true, bne_iff_ne] at hkept
    exact ⟨hkept.2, hkept.1.2⟩
  generalize (Url.takeScheme _).2 = rest at h hrest
  have htaken {q : Char → Bool} {cs : List Char} (hcs : cs ⊆ rest) :
      Unbroken (String.ofList (cs.takeWhile q)) := by
    intro c hc
    rw [String.toList_ofList] at hc
    exact hrest c (hcs ((List.takeWhile_sublist _).subset hc))
  split at h
  · rename_i r
    have hr : r ⊆ '/' :: '/' :: r := by simp
    split at h
    · cases h
      exact ⟨htaken hr, htaken (List.Subset.trans (List.drop_subset _ _) hr)⟩
    · cases h
  · split at h
    · cases h
      exact ⟨nofun, htaken (List.Subset.refl _)⟩
    · cases h

theorem unbroken_service {baseUrl : String} {s : Service} (hs : Service.ofUrl baseUrl = .ok s) :
    Unbroken s.host ∧ Unbroken s.basePath := by
  obtain ⟨p, hp, hpure⟩ := Except.bind_eq_ok_iff.1 hs
  cases hpure
  obtain ⟨hauthority, hpath⟩ := unbroken_of_split hp
  refine ⟨hauthority, ?_⟩
  show Unbroken (if p.path = "" then "/" else p.path)
  split
  · decide
  · exact hpath

end EntityQuery.Batch
