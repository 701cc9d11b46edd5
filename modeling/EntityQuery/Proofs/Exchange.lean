import EntityQuery.Transport.Session

/-!
# Exchanges step by step

An exchange is run on a state and gives a result and the state after it. A step that ends well
hands its value and its state to the next, and what needs no service leaves the state alone.
-/

namespace EntityQuery.Exchange

variable {σ α β : Type} {s s' : σ} {a : α}

theorem bind_of_ok {x : Exchange σ α} (f : α → Exchange σ β) (h : x s = (.ok a, s')) :
    (x >>= f) s = f a s' := by
  simp only [bind, ExceptT.bind, ExceptT.mk, StateT.bind, h, ExceptT.bindCont]

theorem bind_of_eq {x y : Exchange σ α} (f : α → Exchange σ β) (h : x s = y s') :
    (x >>= f) s = (y >>= f) s' := by
  simp only [bind, ExceptT.bind, ExceptT.mk, StateT.bind, h]

theorem map_of_ok {x : Exchange σ α} (f : α → β) (h : x s = (.ok a, s')) :
    (f <$> x) s = (.ok (f a), s') := by
  rw [map_eq_pure_bind, bind_of_ok _ h]
  rfl

/-- Where nothing fails, nothing is caught. -/
theorem tryCatch_of_ok {x : Exchange σ α} (f : Error → Exchange σ α) (h : x s = (.ok a, s')) :
    tryCatch x f s = (.ok a, s') := by
  simp only [tryCatch, tryCatchThe, MonadExceptOf.tryCatch, ExceptT.tryCatch, ExceptT.mk, bind,
    StateT.bind, h]
  rfl

theorem map_of_error {x : Exchange σ α} {e : Error} (f : α → β) (h : x s = (.error e, s')) :
    (f <$> x) s = (.error e, s') := by
  simp only [Functor.map, ExceptT.map, ExceptT.mk, bind, StateT.bind, h]
  rfl

theorem tryCatch_of_error {x : Exchange σ α} {e : Error} (f : Error → Exchange σ α)
    (h : x s = (.error e, s')) : tryCatch x f s = f e s' := by
  simp only [tryCatch, tryCatchThe, MonadExceptOf.tryCatch, ExceptT.tryCatch, ExceptT.mk, bind,
    StateT.bind, h]

theorem lift_bind_of_ok {x : Except Error α} (f : α → Exchange σ β) (h : x = .ok a) :
    ((liftM x : Exchange σ α) >>= f) s = f a s := by
  subst h
  rfl

theorem bind_of_error {x : Exchange σ α} {e : Error} (f : α → Exchange σ β)
    (h : x s = (.error e, s')) : (x >>= f) s = (.error e, s') := by
  simp only [bind, ExceptT.bind, ExceptT.mk, StateT.bind, h, ExceptT.bindCont]
  rfl

/-- Where an exchange of two steps ends well, both do. -/
theorem exists_of_bind_ok {x : Exchange σ α} {f : α → Exchange σ β} {b : β}
    (h : (x >>= f) s = (.ok b, s')) : ∃ a s₁, x s = (.ok a, s₁) ∧ f a s₁ = (.ok b, s') := by
  rcases hx : x s with ⟨e | a, s₁⟩
  · rw [bind_of_error _ hx] at h
    cases h
  · exact ⟨a, s₁, rfl, bind_of_ok f hx ▸ h⟩

theorem exists_of_lift_bind_ok {x : Except Error α} {f : α → Exchange σ β} {b : β}
    (h : ((liftM x : Exchange σ α) >>= f) s = (.ok b, s')) :
    ∃ a, x = .ok a ∧ f a s = (.ok b, s') := by
  cases x with
  | error e => cases h
  | ok a => exact ⟨a, rfl, h⟩

theorem exists_of_lift_name_bind_ok {x : Except NameFault α} {f : α → Exchange σ β} {b : β}
    (h : ((liftM x : Exchange σ α) >>= f) s = (.ok b, s')) :
    ∃ a, x = .ok a ∧ f a s = (.ok b, s') := by
  cases x with
  | error e => cases h
  | ok a => exact ⟨a, rfl, h⟩

/-- What follows an exchange without needing the service changes its result alone. -/
theorem bind_lift_apply (x : Exchange σ α) (f : α → Except Error β) (s : σ) :
    (x >>= fun a => (liftM (f a) : Exchange σ β)) s = ((x s).1 >>= f, (x s).2) := by
  rcases hx : x s with ⟨e | a, s'⟩
  · exact bind_of_error _ hx
  · exact bind_of_ok _ hx

theorem bind_pure_apply (x : Exchange σ α) (f : α → β) (s : σ) :
    (x >>= fun a => (pure (f a) : Exchange σ β)) s = ((x s).1.map f, (x s).2) := by
  rcases hx : x s with ⟨e | a, s'⟩
  · exact bind_of_error _ hx
  · exact bind_of_ok _ hx

theorem pure_apply (a : α) (s : σ) : (pure a : Exchange σ α) s = (.ok a, s) := rfl

theorem lift_apply (x : Except Error α) (s : σ) : (liftM x : Exchange σ α) s = (x, s) := by
  cases x <;> rfl

end EntityQuery.Exchange
