import EntityQuery.Execution.Read
import EntityQuery.Proofs.Exchange

/-!
# Services that answer the same way each time

A service is steady for some requests when it answers each of them as it did at first, however many
of them were sent before (`Transport.Steady`). What sends only such requests ends the same way
whenever it is run (`Transport.Repeats`), and so does all that a plan fetches
(`Plan.repeats_fetchAll`).
-/

namespace EntityQuery

namespace Transport

variable {σ α β : Type} {t : Transport σ} {asked : Request → Prop} {s s' : σ}

/-- The state that requests lead to. -/
def after (t : Transport σ) (sent : List Request) (s : σ) : σ :=
  sent.foldl (fun s r => (t.send r s).2) s

/-- From a state on, the requests `asked` are answered the same way each time, whatever requests of
them were sent before. -/
def Steady (t : Transport σ) (asked : Request → Prop) (s : σ) : Prop :=
  ∀ sent : List Request, (∀ r ∈ sent, asked r) → ∀ r, asked r →
    (t.send r (t.after sent s)).1 = (t.send r s).1

/-- Whether requests of `asked` lead from one state to another. -/
def Leads (t : Transport σ) (asked : Request → Prop) (s s' : σ) : Prop :=
  ∃ sent : List Request, (∀ r ∈ sent, asked r) ∧ t.after sent s = s'

/-- Whether an exchange ends the same way in every state that requests of `asked` lead to, and
leads to such a state again. -/
def Repeats (t : Transport σ) (asked : Request → Prop) (s : σ) (x : Exchange σ α) : Prop :=
  ∀ s', t.Leads asked s s' → (x s').1 = (x s).1 ∧ t.Leads asked s (x s').2

theorem Leads.refl (t : Transport σ) (asked : Request → Prop) (s : σ) : t.Leads asked s s :=
  ⟨[], by simp, rfl⟩

theorem Leads.send (h : t.Leads asked s s') {r : Request} (hr : asked r) :
    t.Leads asked s (t.send r s').2 := by
  obtain ⟨sent, hsent, rfl⟩ := h
  refine ⟨sent ++ [r], ?_, by simp [after]⟩
  intro r' hr'
  rcases List.mem_append.1 hr' with hr' | hr'
  · exact hsent r' hr'
  · rwa [List.mem_singleton.1 hr']

theorem repeats_send (ht : t.Steady asked s) {r : Request} (hr : asked r) :
    t.Repeats asked s (t.send r) := by
  intro s' hs'
  refine ⟨?_, hs'.send hr⟩
  obtain ⟨sent, hsent, rfl⟩ := hs'
  exact ht sent hsent r hr

theorem repeats_lift (x : Except Error α) : t.Repeats asked s (liftM x : Exchange σ α) := by
  intro s' hs'
  rw [Exchange.lift_apply, Exchange.lift_apply]
  exact ⟨rfl, hs'⟩

theorem repeats_bind {x : Exchange σ α} {f : α → Exchange σ β} (hx : t.Repeats asked s x)
    (hf : ∀ a, (x s).1 = .ok a → t.Repeats asked s (f a)) : t.Repeats asked s (x >>= f) := by
  intro s' hs'
  obtain ⟨hsame, hleads⟩ := hx s' hs'
  obtain ⟨-, hleads₀⟩ := hx s (.refl t asked s)
  rcases hrun : x s' with ⟨e | a, s₁⟩ <;> rcases hrun₀ : x s with ⟨e₀ | a₀, s₂⟩ <;>
    rw [hrun, hrun₀] at hsame <;> cases hsame
  · rw [Exchange.bind_of_error f hrun, Exchange.bind_of_error f hrun₀]
    rw [hrun] at hleads
    exact ⟨rfl, hleads⟩
  · rw [Exchange.bind_of_ok f hrun, Exchange.bind_of_ok f hrun₀]
    rw [hrun] at hleads
    rw [hrun₀] at hleads₀
    have ha : (x s).1 = .ok a := by rw [hrun₀]
    obtain ⟨hs₁, hleads₁⟩ := hf a ha s₁ hleads
    obtain ⟨hs₂, -⟩ := hf a ha s₂ hleads₀
    exact ⟨hs₁.trans hs₂.symm, hleads₁⟩

end Transport

namespace Plan

variable {σ : Type} {d : Dialect} {p : Plan} {t : Transport σ} {asked : Request → Prop} {s : σ}

theorem repeats_fetch? (ht : t.Steady asked s)
    (hp : ∀ r, p.readRequest? d = .ok (some r) → asked r) (itemScoped : Bool) :
    t.Repeats asked s (p.fetch? d t itemScoped) := by
  unfold fetch?
  refine Transport.repeats_bind (Transport.repeats_lift _) fun r hr => ?_
  rw [Exchange.lift_apply] at hr
  cases r with
  | none => exact Transport.repeats_lift (.ok none)
  | some request =>
    refine Transport.repeats_bind (Transport.repeats_send ht (hp request hr)) fun answer _ => ?_
    refine Transport.repeats_bind (Transport.repeats_lift _) fun body _ => ?_
    refine Transport.repeats_bind (Transport.repeats_lift _) fun rows _ => ?_
    refine Transport.repeats_bind (Transport.repeats_lift _) fun count _ => ?_
    exact Transport.repeats_lift (.ok _)

theorem repeats_fetchAll (ht : t.Steady asked s) (itemScoped : Bool) {plans : List Plan}
    (hplans : ∀ p ∈ plans, ∀ r, p.readRequest? d = .ok (some r) → asked r) :
    t.Repeats asked s (fetchAll d t itemScoped plans) := by
  induction plans with
  | nil => exact Transport.repeats_lift (.ok [])
  | cons p plans ih =>
    rw [List.forall_mem_cons] at hplans
    refine Transport.repeats_bind (repeats_fetch? ht hplans.1 itemScoped) fun fetched _ => ?_
    refine Transport.repeats_bind (ih hplans.2) fun others _ => ?_
    exact Transport.repeats_lift (.ok _)

end Plan

end EntityQuery
