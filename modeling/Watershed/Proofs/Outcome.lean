import Watershed.Count

namespace Watershed

variable {ε δ α β : Type}

@[simp] theorem ok_bind (a : α) (f : α → Except ε β) : (Except.ok a >>= f) = f a := rfl

@[simp] theorem error_bind (e : ε) (f : α → Except ε β) :
    ((Except.error e : Except ε α) >>= f) = .error e := rfl

theorem bind_eq_ok {x : Except ε α} {f : α → Except ε β} {b : β} :
    (x >>= f) = .ok b ↔ ∃ a, x = .ok a ∧ f a = .ok b := by
  cases x <;> simp [bind, Except.bind]

theorem map_eq_ok {x : Except ε α} {f : α → β} {b : β} :
    x.map f = .ok b ↔ ∃ a, x = .ok a ∧ f a = b := by
  cases x <;> simp [Except.map]

theorem map_eq_error {x : Except ε α} {f : α → β} {e : ε} :
    x.map f = .error e ↔ x = .error e := by
  cases x <;> simp [Except.map]

theorem mapError_eq_ok {x : Except ε α} {f : ε → δ} {a : α} :
    x.mapError f = .ok a ↔ x = .ok a := by
  cases x with
  | error e => exact iff_of_false (fun h => by cases h) fun h => by cases h
  | ok a' =>
    show (Except.ok a' : Except δ α) = .ok a ↔ _
    simp

theorem mapError_eq_error {x : Except ε α} {f : ε → δ} {e : δ} :
    x.mapError f = .error e ↔ ∃ e', x = .error e' ∧ f e' = e := by
  cases x with
  | error e' =>
    show (Except.error (f e') : Except δ α) = .error e ↔ _
    simp
  | ok a =>
    refine iff_of_false (fun h => by cases h) ?_
    rintro ⟨e', he, _⟩
    cases he

theorem bind_eq_error {x : Except ε α} {f : α → Except ε β} {e : ε} :
    (x >>= f) = .error e ↔ x = .error e ∨ ∃ a, x = .ok a ∧ f a = .error e := by
  cases x <;> simp [bind, Except.bind]

theorem toOption_eq_some {x : Except ε α} {a : α} : x.toOption = some a ↔ x = .ok a := by
  cases x <;> simp [Except.toOption]

theorem toOption_map_eq_some {x : Except ε α} {f : α → β} {b : β} :
    x.toOption.map f = some b ↔ ∃ a, x = .ok a ∧ f a = b := by
  cases x <;> simp [Except.toOption]

theorem forM_congr {f g : α → Except ε Unit} {l : List α} (h : ∀ a ∈ l, f a = g a) :
    l.forM f = l.forM g := by
  induction l with
  | nil => rfl
  | cons a l ih =>
    obtain ⟨ha, hl⟩ := List.forall_mem_cons.mp h
    show (f a >>= fun _ => l.forM f) = (g a >>= fun _ => l.forM g)
    rw [ha, ih hl]

theorem mapM_eq_map {f : α → Option β} {g : α → β} {l : List α} (h : ∀ a ∈ l, f a = some (g a)) :
    l.mapM f = some (l.map g) := by
  induction l with
  | nil => rfl
  | cons a l ih =>
    obtain ⟨ha, hl⟩ := List.forall_mem_cons.mp h
    simp [List.mapM_cons, ha, ih hl]

theorem mapM_eq_some [Inhabited β] {f : α → Option β} {l : List α} {r : List β} :
    l.mapM f = some r ↔ ∃ g : α → β, (∀ a ∈ l, f a = some (g a)) ∧ r = l.map g := by
  induction l generalizing r with
  | nil => exact ⟨fun h => ⟨fun _ => default, by simp, (Option.some.inj h).symm⟩,
      fun ⟨_, _, hr⟩ => by rw [hr]; rfl⟩
  | cons a l ih =>
    simp only [List.mapM_cons, Option.bind_eq_bind, Option.bind_eq_some_iff, Option.pure_def,
      Option.some.injEq, ih]
    constructor
    · rintro ⟨b, hb, bs, ⟨g, hg, rfl⟩, rfl⟩
      have hget : ∀ x ∈ a :: l, f x = some ((f x).getD default) := by
        refine List.forall_mem_cons.mpr ⟨by rw [hb]; rfl, fun x hx => by rw [hg x hx]; rfl⟩
      refine ⟨fun x => (f x).getD default, hget, ?_⟩
      rw [List.map_cons, hb]
      refine congrArg (b :: ·) (List.map_congr_left fun x hx => ?_)
      rw [hg x hx]
      rfl
    · rintro ⟨g, hg, rfl⟩
      obtain ⟨ha, hl⟩ := List.forall_mem_cons.mp hg
      exact ⟨g a, ha, _, ⟨g, hl, rfl⟩, rfl⟩

theorem mem_of_mapM_eq_ok {f : α → Except ε β} {l : List α} {r : List β} (h : l.mapM f = .ok r)
    {b : β} : b ∈ r ↔ ∃ a ∈ l, f a = .ok b := by
  induction l generalizing r with
  | nil =>
    obtain rfl := Except.ok.inj h
    simp
  | cons a l ih =>
    rw [List.mapM_cons] at h
    obtain ⟨b₀, ha, h⟩ := bind_eq_ok.mp h
    obtain ⟨bs, hl, h⟩ := bind_eq_ok.mp h
    obtain rfl := Except.ok.inj h
    simp [ih hl, ha, eq_comm]

theorem exists_mapM_ok {f : α → Except ε β} {l : List α} :
    (∃ r, l.mapM f = .ok r) ↔ ∀ a ∈ l, ∃ b, f a = .ok b := by
  induction l with
  | nil => simp [pure, Except.pure]
  | cons a l ih =>
    rw [List.forall_mem_cons, ← ih]
    simp only [List.mapM_cons, bind_eq_ok, pure, Except.pure]
    constructor
    · rintro ⟨_, b, ha, bs, hl, _⟩
      exact ⟨⟨b, ha⟩, bs, hl⟩
    · rintro ⟨⟨b, ha⟩, bs, hl⟩
      exact ⟨_, b, ha, bs, hl, rfl⟩

theorem foldlM_invariant {f : β → α → Except ε β} {I : List α → β → Prop} {l : List α}
    (hstep : ∀ pre a b b', pre ++ [a] <+: l → I pre b → f b a = .ok b' → I (pre ++ [a]) b')
    {b b' : β} (h₀ : I [] b) (h : l.foldlM f b = .ok b') : I l b' := by
  suffices H : ∀ rest pre b, pre ++ rest = l → I pre b → rest.foldlM f b = .ok b' → I l b' from
    H l [] b rfl h₀ h
  intro rest
  induction rest with
  | nil =>
    intro pre b hl hb h
    obtain rfl := Except.ok.inj h
    simpa [← hl] using hb
  | cons a rest ih =>
    intro pre b hl hb h
    obtain ⟨b₁, ha, h⟩ := bind_eq_ok.mp (List.foldlM_cons.symm.trans h)
    have hl : pre ++ [a] ++ rest = l := by simpa using hl
    exact ih (pre ++ [a]) b₁ hl (hstep pre a b b₁ ⟨rest, hl⟩ hb ha) h

theorem foldlM_progress {f : β → α → Except ε β} {I : List α → β → Prop} {l : List α}
    (hstep : ∀ pre a b, pre ++ [a] <+: l → I pre b → ∃ b', f b a = .ok b' ∧ I (pre ++ [a]) b')
    {b : β} (h₀ : I [] b) : ∃ b', l.foldlM f b = .ok b' ∧ I l b' := by
  suffices H : ∀ rest pre b, pre ++ rest = l → I pre b → ∃ b', rest.foldlM f b = .ok b' ∧ I l b' from
    H l [] b rfl h₀
  intro rest
  induction rest with
  | nil =>
    intro pre b hl hb
    exact ⟨b, rfl, by simpa [← hl] using hb⟩
  | cons a rest ih =>
    intro pre b hl hb
    have hl : pre ++ [a] ++ rest = l := by simpa using hl
    obtain ⟨b₁, ha, hb₁⟩ := hstep pre a b ⟨rest, hl⟩ hb
    obtain ⟨b', h, hb'⟩ := ih (pre ++ [a]) b₁ hl hb₁
    exact ⟨b', List.foldlM_cons.trans (bind_eq_ok.mpr ⟨b₁, ha, h⟩), hb'⟩

end Watershed
