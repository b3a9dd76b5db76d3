import Mathlib.Tactic.Lemma

namespace Locator

section Failing

variable {ε α β : Type} {x : Except ε α} {b : β}

lemma bind_eq_ok {f : α → Except ε β} : x.bind f = .ok b ↔ ∃ a, x = .ok a ∧ f a = .ok b := by
  cases x <;> simp [Except.bind]

lemma map_eq_ok {f : α → β} : x.map f = .ok b ↔ ∃ a, x = .ok a ∧ f a = b := by
  cases x <;> simp [Except.map]

lemma toOption_eq_some {a : α} : x.toOption = some a ↔ x = .ok a := by
  cases x <;> simp [Except.toOption]

@[simp] lemma mapError_ok {δ : Type} {f : ε → δ} {a : α} :
    (.ok a : Except ε α).mapError f = .ok a := rfl

@[simp] lemma mapError_error {δ : Type} {f : ε → δ} {e : ε} :
    (.error e : Except ε α).mapError f = .error (f e) := rfl

end Failing

lemma run_map {σ α β : Type} (f : α → β) (x : StateM σ α) (s : σ) :
    (f <$> x).run s = (f (x.run s).1, (x.run s).2) := rfl

lemma run_bind_of {σ α β : Type} {x : StateM σ α} {f : α → StateM σ β} {s s' : σ} {a : α}
    (h : x.run s = (a, s')) : (x >>= f).run s = (f a).run s' := by
  rw [StateT.run_bind, h]
  rfl

lemma run_run_bind_of {ρ σ α β : Type} {x : StateT ρ (StateM σ) α} {f : α → StateT ρ (StateM σ) β}
    {t : ρ} {s s' : σ} {ran : α × ρ} (h : (x.run t).run s = (ran, s')) :
    ((x >>= f).run t).run s = ((f ran.1).run ran.2).run s' := by
  rw [StateT.run_bind]
  exact run_bind_of h

end Locator
