import Watershed.Proofs.Outcome

namespace Watershed

variable {ε σ α β : Type}

theorem run_bind_ok {x : EStateM ε σ α} {s s' : σ} {a : α} (h : x.run s = .ok a s')
    (f : α → EStateM ε σ β) : (x >>= f).run s = (f a).run s' := by
  rw [EStateM.run_bind, h]

@[simp] theorem run_ofExcept (x : Except ε α) (s : σ) :
    (MonadExcept.ofExcept x : EStateM ε σ α).run s = match x with
      | .ok a => .ok a s
      | .error e => .error e s := by
  cases x <;> rfl

theorem run_tryCatch (x : EStateM ε σ α) (f : ε → EStateM ε σ α) (s : σ) :
    (tryCatch x f).run s = match x.run s with
      | .ok a s => .ok a s
      | .error e s => (f e).run s := by
  show EStateM.tryCatch x f s = match x s with
    | .ok a s => .ok a s
    | .error e s => f e s
  delta EStateM.tryCatch
  dsimp only
  cases x s <;> rfl

end Watershed
