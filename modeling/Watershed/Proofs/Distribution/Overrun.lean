import Watershed.Distribution.Overrun
import Watershed.Proofs.Distribution.Progress

namespace Watershed

namespace Overrun

variable {o : Overrun}

theorem addWide_eq {m n : Nat} (h : o = .refuse → m + n ≤ Count.wideTop) :
    o.addWide m n = some (min (m + n) Count.wideTop) := by
  cases o with
  | stop => rfl
  | refuse => rw [addWide, if_pos (h rfl), Nat.min_eq_left (h rfl)]

theorem add_eq {a b : Count} (h : o = .refuse → a.val + b.val < 18446744073709551616) :
    o.add a b = some (a.addUpTo b) := by
  cases o with
  | stop => rfl
  | refuse =>
    rw [add, Count.add?_eq_some, Count.val_addUpTo]
    exact (Nat.min_eq_left (Nat.le_of_lt_succ (h rfl))).symm

theorem sub_eq {a b : Count} (h : o = .refuse → b.val ≤ a.val) :
    o.sub a b = some (a.subDownTo b) := by
  cases o with
  | stop => rfl
  | refuse =>
    rw [sub, Count.sub?_eq_some, Count.val_subDownTo]
    exact Nat.add_sub_cancel' (h rfl)

theorem foldlM_addWide {cs : List Count} {n : Nat} (hn : n ≤ Count.wideTop)
    (h : o = .refuse → n + Count.total cs ≤ Count.wideTop) :
    cs.foldlM (fun n c => o.addWide n c.val) n =
      some (min (n + Count.total cs) Count.wideTop) := by
  induction cs generalizing n with
  | nil =>
    rw [List.foldlM_nil, Count.total, Nat.add_zero, Nat.min_eq_left hn]
    rfl
  | cons c cs ih =>
    rw [Count.total, ← Nat.add_assoc] at h ⊢
    have hfirst : o = .refuse → n + c.val ≤ Count.wideTop :=
      fun ho => (Nat.le_add_right _ _).trans (h ho)
    have hrest : o = .refuse →
        min (n + c.val) Count.wideTop + Count.total cs ≤ Count.wideTop :=
      fun ho => (Nat.add_le_add_right (Nat.min_le_left _ _) _).trans (h ho)
    rw [List.foldlM_cons, addWide_eq hfirst]
    refine (ih (Nat.min_le_right _ _) hrest).trans (congrArg some ?_)
    omega

theorem foldlM_add {cs : List Count} {a : Count}
    (h : o = .refuse → a.val + Count.total cs < 18446744073709551616) :
    cs.foldlM o.add a = some (.clamp (a.val + Count.total cs)) := by
  induction cs generalizing a with
  | nil =>
    have hlt := a.val_lt
    refine congrArg some (Count.ext ?_)
    rw [Count.val_clamp, Count.total]
    omega
  | cons c cs ih =>
    rw [Count.total, ← Nat.add_assoc] at h ⊢
    have hfirst : o = .refuse → a.val + c.val < 18446744073709551616 :=
      fun ho => (Nat.le_add_right _ _).trans_lt (h ho)
    have hrest : o = .refuse →
        (a.addUpTo c).val + Count.total cs < 18446744073709551616 := by
      intro ho
      rw [Count.val_addUpTo]
      exact (Nat.add_le_add_right (Nat.min_le_left _ _) _).trans_lt (h ho)
    rw [List.foldlM_cons, add_eq hfirst]
    refine (ih hrest).trans (congrArg some (Count.ext ?_))
    rw [Count.val_clamp, Count.val_clamp, Count.val_addUpTo]
    omega

theorem sumWide_eq {cs : List Count} (h : o = .refuse → Count.total cs ≤ Count.wideTop) :
    o.sumWide cs = some (Count.wideSum cs) := by
  rw [sumWide, foldlM_addWide (Nat.zero_le _) fun ho => (Nat.zero_add _).trans_le (h ho),
    Nat.zero_add, Count.wideSum]

theorem sum_eq {cs : List Count} (h : o = .refuse → Count.total cs < 18446744073709551616) :
    o.sum cs = some (Count.sumUpTo cs) := by
  rw [sum, foldlM_add fun ho => (Nat.zero_add _).trans_lt (h ho), Count.val_zero, Nat.zero_add,
    Count.sumUpTo]

end Overrun

theorem Count.total_le_length_mul (cs : List Count) :
    total cs ≤ cs.length * 18446744073709551615 := by
  induction cs with
  | nil => exact Nat.zero_le _
  | cons c cs ih =>
    have := c.val_lt
    rw [total, List.length_cons, Nat.add_mul]
    omega

theorem Count.total_le_wideTop {cs : List Count} (h : cs.length < 18446744073709551616) :
    total cs ≤ wideTop := by
  refine (total_le_length_mul cs).trans ((Nat.mul_le_mul_right _ (Nat.le_of_lt_succ h)).trans ?_)
  decide

namespace Distribution

variable {o : Overrun} {b : Board} {water : Count}

def Small (o : Overrun) (b : Board) : Prop :=
  o = .refuse → b.players.size < 2 ^ 63 ∧ b.parcels.size < 2 ^ 63

theorem Small.players (h : Small o b) :
    o.sumWide (b.players.toList.map (·.entitlement)) =
      some (Count.wideSum (b.players.toList.map (·.entitlement))) := by
  refine Overrun.sumWide_eq fun ho => Count.total_le_wideTop ?_
  have hlt : b.players.toList.length < 2 ^ 63 := (h ho).1
  rw [List.length_map]
  omega

theorem Small.parcels (h : Small o b) {l : List Parcel} (hl : l.Sublist b.parcels.toList) :
    o.sumWide (l.map (·.rights)) = some (Count.wideSum (l.map (·.rights))) := by
  refine Overrun.sumWide_eq fun ho => Count.total_le_wideTop ?_
  have hlt : b.parcels.toList.length < 2 ^ 63 := (h ho).2
  have hle := hl.length_le
  rw [List.length_map]
  omega

theorem Fair.wholeBy?_eq (h : Small o b) : wholeBy? o b = some (whole b) := by
  have hwide : o.addWide (Count.wideSum (b.players.toList.map (·.entitlement)))
      (Count.wideSum (b.unowned.map (·.rights))) = some (whole b) := by
    rw [whole, Board.demand, Count.wideSum, Count.wideSum, Count.wideSum, Count.total_append,
      Overrun.addWide_eq fun ho => ?_]
    · congr 1
      omega
    · have hdemand : Count.total b.demand ≤ Count.wideTop := by
        refine Count.total_le_wideTop ?_
        have hplayers : b.players.toList.length < 2 ^ 63 := (h ho).1
        have hparcels : b.parcels.toList.length < 2 ^ 63 := (h ho).2
        have hunowned : b.unowned.length ≤ b.parcels.toList.length := List.length_filter_le _ _
        rw [Board.demand, List.length_append, List.length_map, List.length_map]
        omega
      rw [Board.demand, Count.total_append] at hdemand
      omega
  rw [wholeBy?, h.parcels (l := b.unowned) List.filter_sublist, h.players]
  exact hwide

theorem Fair.spread?_topUp (share : Count) (owned : List Parcel) :
    spread? share owned = (owned.mapM fun q =>
      (part? share (Count.wideSum (owned.map (·.rights))) q).map fun n => (q.id, n)).bind fun parts =>
        topUp? parts (share.subDownTo (Count.sumUpTo (parts.map (·.2)))) owned := rfl

theorem Fair.spreadBy?_eq (h : Small o b) (share : Count) (p : PlayerId) :
    spreadBy? o share (ownedBy b p) = spread? share (ownedBy b p) := by
  -- the parts of a share never come to more than the share, so that no difference is cut off
  have hle := sum_part_le share (ownedBy b p)
  have hlt := share.val_lt
  have hwhole := h.parcels (l := ownedBy b p) List.filter_sublist
  have hsum : o.sum ((parts share (ownedBy b p)).map (·.2)) =
      some (Count.sumUpTo ((parts share (ownedBy b p)).map (·.2))) := by
    refine Overrun.sum_eq fun _ => ?_
    rw [total_parts]
    omega
  have hsub : o.sub share (Count.sumUpTo ((parts share (ownedBy b p)).map (·.2))) =
      some (share.subDownTo (Count.sumUpTo ((parts share (ownedBy b p)).map (·.2)))) := by
    refine Overrun.sub_eq fun _ => ?_
    rw [Count.sumUpTo, Count.val_clamp, total_parts]
    omega
  rw [spread?_topUp]
  simp only [spreadBy?, hwhole, mapM_part?, hsum, hsub, Option.bind_eq_bind, Option.bind_some]

theorem Fair.distributeBy?_eq (h : Small o b) : distributeBy? o b water = distribute? b water := by
  simp only [distributeBy?, distribute?, wholeBy?_eq h, spreadBy?_eq h, Option.bind_eq_bind,
    Option.bind_some]

theorem PerParcel.distributeBy?_eq (h : Small o b) :
    distributeBy? o b water = distribute? b water := by
  rw [distributeBy?, h.parcels (l := b.owned) List.filter_sublist]
  rfl

theorem PlayerOnly.distributeBy?_eq (h : Small o b) :
    distributeBy? o b water = distribute? b water := by
  rw [distributeBy?, h.players]
  rfl

theorem Tiered.fillBy?_eq (o : Overrun) (cap remaining : Count) (s : Shares)
    (ts : List (List Parcel)) : fillBy? o cap remaining s ts = fill? cap remaining s ts := by
  -- no tier uses more than is left for it
  induction ts generalizing remaining s with
  | nil => rfl
  | cons tier ts ih =>
    rw [fillBy?, fill?]
    refine Option.bind_congr fun s' _ => Option.bind_congr fun used hused => ?_
    have hsub : o.sub remaining used = some (remaining.subDownTo used) := by
      refine Overrun.sub_eq fun _ => ?_
      rw [← Count.ofNat?_eq_some.mp hused, Nat.mul_comm, ← whole_evenly]
      exact whole_evenly_le cap remaining tier
    simp only [hsub, Option.bind_eq_bind, Option.bind_some, ih]

theorem Tiered.distributeBy?_eq (o : Overrun) (cap : Count) (b : Board) (water : Count) :
    distributeBy? o cap b water = distribute? cap b water := by
  rw [distributeBy?, fillBy?_eq]
  rfl

end Distribution

namespace Distributor

variable {o : Overrun} {b : Board} {water : Count}

theorem reckonBy?_eq (h : Distribution.Small o b) (d : Distributor) :
    d.reckonBy? o b water = (d.distribute b water).toOption := by
  cases d with
  | fair =>
    obtain ⟨r, hr, _⟩ := Distribution.Fair.exists_distribute? b water
    rw [reckonBy?, Distribution.Fair.distributeBy?_eq h, hr, fair_ok hr]
    rfl
  | perParcel =>
    obtain ⟨r, hr, _⟩ := Distribution.PerParcel.exists_distribute? b water
    rw [reckonBy?, Distribution.PerParcel.distributeBy?_eq h, hr, perParcel_ok hr]
    rfl
  | playerOnly =>
    have hr := Distribution.PlayerOnly.distribute?_eq b water
    rw [reckonBy?, Distribution.PlayerOnly.distributeBy?_eq h, hr, playerOnly_ok hr]
    rfl
  | tiered cap =>
    cases cap with
    | none => rfl
    | some cap =>
      obtain ⟨r, hr, _⟩ := Distribution.Tiered.exists_distribute? cap b water
      rw [reckonBy?, Option.bind_some, Distribution.Tiered.distributeBy?_eq, hr, tiered_ok hr]
      rfl

theorem reckonBy?_stop (d : Distributor) (b : Board) (water : Count) :
    d.reckonBy? .stop b water = (d.distribute b water).toOption :=
  reckonBy?_eq (fun ho => by cases ho) d

theorem distribute_unconfigured (b : Board) (water : Count) :
    (Distributor.tiered none).distribute b water =
      .error (.config (.notConfigured "tiered distributor")) := rfl

theorem never_overflows (b : Board) (water : Count) (hplayers : b.players.size < 2 ^ 63)
    (hparcels : b.parcels.size < 2 ^ 63) :
    (∀ d : Distributor, d.Configured → ∃ r, d.distribute b water = .ok r ∧
      ∀ o, d.reckonBy? o b water = some r) ∧
    (Distributor.tiered none).distribute b water =
      .error (.config (.notConfigured "tiered distributor")) ∧
    ∀ (d : Distributor) (name : String), d.distribute b water ≠ .error (.overflow name) := by
  refine ⟨fun d hd => ?_, distribute_unconfigured b water, fun d name hoverflow => ?_⟩
  · obtain ⟨r, hr⟩ := exists_distribute hd b water
    refine ⟨r, hr, fun o => ?_⟩
    rw [reckonBy?_eq fun _ => ⟨hplayers, hparcels⟩, hr]
    rfl
  · by_cases hd : d.Configured
    · obtain ⟨r, hr⟩ := exists_distribute hd b water
      cases hr.symm.trans hoverflow
    · cases d with
      | tiered cap =>
        obtain rfl := Option.not_isSome_iff_eq_none.mp hd
        cases hoverflow
      | _ => exact hd trivial

def brimming : Board where
  players := .ofList [⟨⟨.ofNat 1⟩, "farmer", .top, .top, .empty, 0⟩,
    ⟨⟨.ofNat 2⟩, "miller", .top, .top, .empty, 0⟩]
  parcels := .ofList [
    ⟨⟨.ofNat 3⟩, "meadow", "north", ⟨.zero, .zero⟩, .top, .top, some ⟨.ofNat 1⟩, none⟩,
    ⟨⟨.ofNat 4⟩, "marsh", "south", ⟨.zero, .zero⟩, .top, .top, some ⟨.ofNat 1⟩, none⟩,
    ⟨⟨.ofNat 5⟩, "moor", "south", ⟨.zero, .zero⟩, .top, .top, none, none⟩]

theorem brimming_never_overflows :
    brimming.players.size < 2 ^ 63 ∧ brimming.parcels.size < 2 ^ 63 ∧
    (∀ d : Distributor, d.Configured → ∃ r, d.distribute brimming .top = .ok r ∧
      ∀ o, d.reckonBy? o brimming .top = some r) ∧
    (Distributor.tiered none).distribute brimming .top =
      .error (.config (.notConfigured "tiered distributor")) ∧
    ∀ (d : Distributor) (name : String), d.distribute brimming .top ≠ .error (.overflow name) :=
  ⟨by decide, by decide, never_overflows brimming .top (by decide) (by decide)⟩

end Distributor
end Watershed
