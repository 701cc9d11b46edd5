import EntityQuery.Text.Casing
import Mathlib.Tactic.Common

/-!
# Small letters stay small

A text in small letters has no other small letters (`lower_lower`): where a run of capitals moves
to, no run of capitals begins or passes.
-/

namespace EntityQuery.Text

/-- A character that small letters leave alone, wherever it stands. -/
structure IsSmall (c : Char) : Prop where
  ne_sigma : c.toNat ≠ 0x3A3
  ascii : c.toNat < 0x80 → c.toLower = c
  mapped : 0x80 ≤ c.toNat → mapCase lowerRuns lowerExpansions c = [c]

instance (c : Char) : Decidable (IsSmall c) :=
  decidable_of_iff (c.toNat ≠ 0x3A3 ∧ (c.toNat < 0x80 → c.toLower = c) ∧
    (0x80 ≤ c.toNat → mapCase lowerRuns lowerExpansions c = [c]))
    ⟨fun ⟨h₁, h₂, h₃⟩ => ⟨h₁, h₂, h₃⟩, fun h => ⟨h.ne_sigma, h.ascii, h.mapped⟩⟩

/-- Whether a run holds none of the code points between two ends: it lies elsewhere, or, where only
every second one counts, between them. -/
def CaseRun.avoids (first last : Nat) (everySecond : Bool) (q : CaseRun) : Bool :=
  Nat.blt last q.first || Nat.blt q.last first ||
    everySecond && q.step == 2 && (first + q.first) % 2 == 1

/-- Whether a run has every second code point between its ends, or a single one. -/
def CaseRun.isSparse (r : CaseRun) : Bool := r.step == 2 || r.first == r.last

theorem CaseRun.not_contains_of_avoids {r q : CaseRun} (hleast : 0 ≤ r.first + r.offset)
    (h : q.avoids (r.first + r.offset).toNat (r.last + r.offset).toNat r.isSparse = true)
    {n m : Nat} (hn : r.contains n = true) (hm : (m : Int) = n + r.offset) :
    q.contains m = false := by
  by_contra hq
  simp only [Bool.not_eq_false, contains, Bool.and_eq_true, decide_eq_true_eq, beq_iff_eq] at hn hq
  obtain ⟨⟨hfirst, hlast⟩, hstep⟩ := hn
  obtain ⟨⟨hfirst', hlast'⟩, hstep'⟩ := hq
  simp only [avoids, isSparse, Bool.or_eq_true, Bool.and_eq_true, Nat.blt_eq, beq_iff_eq] at h
  rcases h with (h | h) | ⟨⟨hr, htwo⟩, hodd⟩
  · omega
  · omega
  · rw [htwo] at hstep'
    rcases hr with hr | hr
    · rw [hr] at hstep
      omega
    · omega

/-- What a run moves by its offset lies in no run. -/
theorem avoids_lowerRuns : (lowerRuns.all fun r => lowerRuns.all (CaseRun.avoids
    (r.first + r.offset).toNat (r.last + r.offset).toNat r.isSparse)) = true := by
  decide +kernel

/-- Where capitals past ASCII move to: a letter of ASCII, or past it. -/
theorem lowerRuns_bounds : ∀ r ∈ lowerRuns, r.last < 0x80 ∨ (r.first + r.offset = 0x6B ∧
    r.first = r.last) ∨ ((0x80 : Int) ≤ r.first + r.offset ∧ (r.last + r.offset < 0x130 ∨
      (0x130 : Int) < r.first + r.offset) ∧ (r.last + r.offset < 0x3A3 ∨
      (0x3A3 : Int) < r.first + r.offset) ∧ (r.last + r.offset < 0xD800 ∨
      (0xDFFF : Int) < r.first + r.offset) ∧ r.last + r.offset < 0x110000) := by
  decide +kernel

theorem lookup_lowerExpansions {n : Nat} (h : n ≠ 0x130) : lowerExpansions.lookup n = none := by
  simp [lowerExpansions, List.lookup_cons, beq_false_of_ne h]

theorem isSmall_mapCase {c d : Char} (hc : 0x80 ≤ c.toNat) (hsigma : c.toNat ≠ 0x3A3)
    (hd : d ∈ mapCase lowerRuns lowerExpansions c) : IsSmall d := by
  by_cases hi : c.toNat = 0x130
  · have hchars : mapCase lowerRuns lowerExpansions c = [Char.ofNat 0x69, Char.ofNat 0x307] := by
      rw [mapCase, hi]
      rfl
    have hsmall : ∀ d ∈ [Char.ofNat 0x69, Char.ofNat 0x307], IsSmall d :=
      List.forall_mem_cons.2 ⟨by decide +kernel, List.forall_mem_singleton.2 (by decide +kernel)⟩
    exact hsmall d (hchars ▸ hd)
  rw [mapCase, lookup_lowerExpansions hi] at hd
  cases hrun : lowerRuns.find? (·.contains c.toNat) with
  | none =>
    rw [hrun] at hd
    obtain rfl := List.mem_singleton.1 hd
    exact ⟨hsigma, fun hlt => by omega, fun _ => by
      rw [mapCase, lookup_lowerExpansions hi, hrun]⟩
  | some r =>
    rw [hrun] at hd
    obtain rfl := List.mem_singleton.1 hd
    have hr := List.mem_of_find?_eq_some hrun
    have hholds := List.find?_some hrun
    have hrange := hholds
    simp only [CaseRun.contains, Bool.and_eq_true, decide_eq_true_eq] at hrange
    rcases lowerRuns_bounds r hr with
      hascii | ⟨hkelvin, hsingle⟩ | ⟨hleast, hi', hsigma', hgap, hmost⟩
    · omega
    · have hk : ((c.toNat : Int) + r.offset).toNat = 0x6B := by omega
      rw [hk]
      decide
    · have hvalid : ((c.toNat : Int) + r.offset).toNat.isValidChar := by
        unfold Nat.isValidChar
        omega
      have hnat : (Char.ofNat ((c.toNat : Int) + r.offset).toNat).toNat =
          ((c.toNat : Int) + r.offset).toNat := congrArg Char.toNat (dif_pos hvalid)
      refine ⟨by omega, fun hlt => by omega, fun _ => ?_⟩
      have hnone : lowerRuns.find?
          (·.contains (Char.ofNat ((c.toNat : Int) + r.offset).toNat).toNat) = none := by
        rw [List.find?_eq_none]
        intro q hq
        have havoids := List.all_eq_true.1 (List.all_eq_true.1 avoids_lowerRuns r hr) q hq
        rw [CaseRun.not_contains_of_avoids (by omega) havoids hholds (by omega)]
        exact Bool.false_ne_true
      rw [mapCase, lookup_lowerExpansions (by omega), hnone]

theorem isSmall_lowerAfter {before cs : List Char} {d : Char} (hd : d ∈ lowerAfter before cs) :
    IsSmall d := by
  have hascii : ∀ n < 0x80, IsSmall (Char.ofNat n).toLower := by decide +kernel
  have hsigmas : IsSmall 'ς' ∧ IsSmall 'σ' := by decide +kernel
  induction cs generalizing before with
  | nil => cases hd
  | cons c cs ih =>
    rw [lowerAfter, List.mem_append] at hd
    refine hd.elim (fun hd => ?_) ih
    split_ifs at hd with hsigma hfinal hlt
    · exact List.mem_singleton.1 hd ▸ hsigmas.1
    · exact List.mem_singleton.1 hd ▸ hsigmas.2
    · rw [List.mem_singleton.1 hd, ← Char.ofNat_toNat c]
      exact hascii _ hlt
    · exact isSmall_mapCase (by omega) hsigma hd

theorem lowerAfter_of_isSmall {before cs : List Char} (h : ∀ c ∈ cs, IsSmall c) :
    lowerAfter before cs = cs := by
  induction cs generalizing before with
  | nil => rfl
  | cons c cs ih =>
    rw [List.forall_mem_cons] at h
    rw [lowerAfter, ih h.2, if_neg h.1.ne_sigma]
    split_ifs with hlt
    · rw [h.1.ascii hlt]
      rfl
    · rw [h.1.mapped (by omega)]
      rfl

theorem lower_lower (s : String) : lower (lower s) = lower s := by
  rw [lower, lowerAfter_of_isSmall fun c hc => ?_, String.ofList_toList]
  rw [lower, String.toList_ofList] at hc
  exact isSmall_lowerAfter hc

end EntityQuery.Text
