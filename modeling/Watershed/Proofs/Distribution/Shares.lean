import Watershed.Proofs.Distribution.Laid

namespace Watershed.Shares

def total (s : Shares) : Nat := s.sum fun x => x.2.val

theorem of_eq {s : Shares} {p : PlayerId} {n : Count} (h : s.find? p = some (p, n)) : s.of p = n := by
  rw [of, h]

theorem find?_of_contains {s : Shares} {p : PlayerId} (h : s.contains p = true) :
    s.find? p = some (p, s.of p) := by
  obtain ⟨⟨p', n⟩, hf⟩ := Option.isSome_iff_exists.mp h
  obtain rfl : p' = p := Roll.key_of_find? hf
  rw [of_eq hf, hf]

theorem of_eq_getD (s : Shares) (p : PlayerId) :
    ((s.find? p).map fun x => x.2.val).getD 0 = (s.of p).val := by
  rw [of]
  cases s.find? p <;> rfl

theorem of_zero (players : Roll Player) (p : PlayerId) : (Shares.zero players).of p = 0 := by
  rw [of, zero, Roll.find?_tabulate]
  cases players.find? p <;> rfl

theorem contains_zero {players : Roll Player} {p : Player} (hp : p ∈ players.toList) :
    (Shares.zero players).contains p.id = true :=
  Roll.contains_iff.mpr ⟨_, List.mem_map_of_mem hp, rfl⟩

theorem total_zero (players : Roll Player) : (Shares.zero players).total = 0 := by
  rw [total, zero, Roll.tabulate, Roll.sum_map]
  exact Roll.sum_zero

theorem ofList_players (players : Roll Player) (s : Player → Count) :
    Roll.ofList (players.toList.map fun p => (p.id, s p)) = players.tabulate s := by
  have hkeys : ((players.toList.map fun p => (p.id, s p)).map key).Nodup := by
    rw [List.map_map]
    exact Roll.nodup_keys players
  exact Roll.ext_mem fun x => Roll.mem_ofList_of_nodup hkeys

theorem find?_tabulate {players : Roll Player} {s : Player → Count} {p : Player}
    (hp : p ∈ players.toList) : (players.tabulate s).find? p.id = some (p.id, s p) := by
  have hf : players.find? p.id = some p := Roll.find?_of_mem hp
  rw [Roll.find?_tabulate, hf]
  rfl

theorem total_tabulate (players : Roll Player) (s : Player → Count) :
    total (players.tabulate s) = players.sum fun p => (s p).val := Roll.sum_map

theorem of_addFor? {s s' : Shares} {owner : Option PlayerId} {n : Count}
    (h : s.addFor? owner n = some s') (p : PlayerId) :
    (s'.of p).val = (s.of p).val + if owner = some p then n.val else 0 := by
  cases owner with
  | none =>
    obtain rfl := Option.some.inj h
    simp
  | some o =>
    obtain ⟨total, ht, rfl⟩ := Option.map_eq_some_iff.mp h
    have ht := Count.add?_eq_some.mp ht
    by_cases ho : o = p
    · subst ho
      have hf : (s.put (o, total)).find? o = some (o, total) :=
        Roll.find?_put_self s (o, total)
      rw [of_eq hf, if_pos rfl]
      exact ht.symm
    · have hf : (s.put (o, total)).find? p = s.find? p :=
        Roll.find?_put_of_ne (a := (o, total)) ho
      rw [of, hf, if_neg (fun e => ho (Option.some.inj e))]
      rfl

theorem contains_addFor? {s s' : Shares} {owner : Option PlayerId} {n : Count}
    (h : s.addFor? owner n = some s') {p : PlayerId} (hp : s.contains p = true) :
    s'.contains p = true := by
  cases owner with
  | none =>
    obtain rfl := Option.some.inj h
    exact hp
  | some o =>
    obtain ⟨total, _, rfl⟩ := Option.map_eq_some_iff.mp h
    obtain ⟨x, hx, rfl⟩ := Roll.contains_iff.mp hp
    by_cases hk : key x = o
    · exact Roll.contains_iff.mpr ⟨(o, total), Roll.mem_put.mpr (Or.inl rfl), hk.symm⟩
    · exact Roll.contains_iff.mpr ⟨x, Roll.mem_put.mpr (Or.inr ⟨hx, hk⟩), rfl⟩

theorem total_addFor? {s s' : Shares} {owner : Option PlayerId} {n : Count}
    (h : s.addFor? owner n = some s') :
    s'.total = s.total + if owner.isSome then n.val else 0 := by
  cases owner with
  | none =>
    obtain rfl := Option.some.inj h
    rfl
  | some o =>
    obtain ⟨m, hm, rfl⟩ := Option.map_eq_some_iff.mp h
    have hm := Count.add?_eq_some.mp hm
    have hput : total (s.put (o, m)) + (s.of o).val = s.total + m.val :=
      s.of_eq_getD o ▸ Roll.sum_put
    rw [Option.isSome_some, if_pos rfl]
    omega

theorem exists_addFor? {s : Shares} {owner : Option PlayerId} {n : Count}
    (h : ∀ p, owner = some p → (s.of p).val + n.val < 18446744073709551616) :
    ∃ s', s.addFor? owner n = some s' := by
  cases owner with
  | none => exact ⟨s, rfl⟩
  | some p =>
    obtain ⟨total, ht⟩ := Count.exists_ofNat? (h p rfl)
    exact ⟨s.put (p, total), Option.map_eq_some_iff.mpr ⟨total, ht, rfl⟩⟩

section Growth

variable {α : Type} (f : α → Parcel × Count) {l : List α} {s s' : Shares}

theorem of_foldlM (h : l.foldlM (fun s x => s.addFor? (f x).1.waterOwner (f x).2) s = some s')
    (p : PlayerId) : (s'.of p).val = (s.of p).val + Amounts.named (l.map f) p := by
  induction l generalizing s with
  | nil =>
    obtain rfl := Option.some.inj h
    rfl
  | cons x l ih =>
    obtain ⟨s₁, hs, h⟩ := Option.bind_eq_some_iff.mp (List.foldlM_cons.symm.trans h)
    rw [ih h, of_addFor? hs, Nat.add_assoc]
    rfl

theorem contains_foldlM
    (h : l.foldlM (fun s x => s.addFor? (f x).1.waterOwner (f x).2) s = some s') {p : PlayerId}
    (hp : s.contains p = true) : s'.contains p = true := by
  induction l generalizing s with
  | nil =>
    obtain rfl := Option.some.inj h
    exact hp
  | cons x l ih =>
    obtain ⟨s₁, hs, h⟩ := Option.bind_eq_some_iff.mp (List.foldlM_cons.symm.trans h)
    exact ih h (contains_addFor? hs hp)

theorem total_foldlM (h : l.foldlM (fun s x => s.addFor? (f x).1.waterOwner (f x).2) s = some s') :
    s'.total = s.total + ((l.map f).map fun x => if x.1.waterOwner.isSome then x.2.val else 0).sum := by
  induction l generalizing s with
  | nil =>
    obtain rfl := Option.some.inj h
    rfl
  | cons x l ih =>
    obtain ⟨s₁, hs, h⟩ := Option.bind_eq_some_iff.mp (List.foldlM_cons.symm.trans h)
    rw [ih h, total_addFor? hs, Nat.add_assoc]
    rfl

theorem exists_foldlM (h : ∀ p, (s.of p).val + Amounts.named (l.map f) p < 18446744073709551616) :
    ∃ s', l.foldlM (fun s x => s.addFor? (f x).1.waterOwner (f x).2) s = some s' := by
  induction l generalizing s with
  | nil => exact ⟨s, rfl⟩
  | cons x l ih =>
    have hcons : ∀ p, Amounts.named ((x :: l).map f) p =
        (if (f x).1.waterOwner = some p then (f x).2.val else 0) + Amounts.named (l.map f) p :=
      fun _ => rfl
    have hfirst : ∀ p, (f x).1.waterOwner = some p →
        (s.of p).val + (f x).2.val < 18446744073709551616 := by
      intro p ho
      have hp := h p
      rw [hcons, if_pos ho] at hp
      omega
    obtain ⟨s₁, hs⟩ := exists_addFor? hfirst
    have hrest : ∀ p, (s₁.of p).val + Amounts.named (l.map f) p < 18446744073709551616 := by
      intro p
      rw [of_addFor? hs, Nat.add_assoc, ← hcons]
      exact h p
    obtain ⟨s', hs'⟩ := ih hrest
    exact ⟨s', List.foldlM_cons.trans (Option.bind_eq_some_iff.mpr ⟨s₁, hs, hs'⟩)⟩

end Growth

end Watershed.Shares
