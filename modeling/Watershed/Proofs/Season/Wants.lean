import Watershed.Proofs.Roll.Lookup
import Watershed.Season.Play
import Mathlib.Algebra.Order.Ring.Nat
import Mathlib.Data.List.Sublists

namespace Watershed

open List

def Decimal.units (d : Decimal) : Int := d.signedAt Decimal.scaleMax

theorem Decimal.signedAt_mul (d : Decimal) {m n : Nat} (hm : d.scale ≤ m) (hn : m ≤ n) :
    d.signedAt n = d.signedAt m * (10 ^ (n - m) : Nat) := by
  have hscale : n - d.scale = (m - d.scale) + (n - m) := by omega
  rw [signedAt, signedAt, hscale, Nat.pow_eq, Nat.pow_add, Nat.pow_eq]
  push_cast
  rw [Int.mul_assoc]

theorem Decimal.before_iff (a b : Decimal) : a.before b = true ↔ a.units < b.units := by
  have hpos : (0 : Int) < (10 ^ (Decimal.scaleMax - max a.scale b.scale) : Nat) :=
    Int.natCast_pos.mpr (Nat.pow_pos (by decide))
  have hle : max a.scale b.scale ≤ Decimal.scaleMax := max_le a.scale_le b.scale_le
  rw [units, units, a.signedAt_mul (le_max_left _ _) hle, b.signedAt_mul (le_max_right _ _) hle,
    Int.mul_lt_mul_right hpos, before, decide_eq_true_eq]

def Asset.Precedes (a b : Asset) : Prop :=
  b.nominal.units < a.nominal.units ∨ (a.nominal.units = b.nominal.units ∧ a.id < b.id)

theorem Ascending.pair_sublist {α κ : Type} [Key κ] [Keyed α κ] {l : List α} (hl : Ascending l)
    {a b : α} (ha : a ∈ l) (hb : b ∈ l) (h : key a < key b) : [a, b] <+ l := by
  induction l with
  | nil => cases ha
  | cons c l ih =>
    have hc : ∀ d ∈ l, key c < key d := fun _ hd => List.rel_of_pairwise_cons hl hd
    rcases List.mem_cons.mp hb with rfl | hbl
    · rcases List.mem_cons.mp ha with rfl | hal
      · exact absurd h (Key.irrefl _)
      · exact absurd h (Key.asymm (hc a hal))
    · rcases List.mem_cons.mp ha with rfl | hal
      · exact (List.singleton_sublist.mpr hbl).cons_cons a
      · exact (ih hl.tail hal hbl).cons c

namespace Season

theorem mem_wants {g : Game} {p : PlayerId} {a : Asset} :
    a ∈ wants g p ↔ a ∈ g.assets.toList ∧ a.owner = p := by
  rw [wants, List.mem_mergeSort, Game.assetsOf, List.mem_filter, decide_eq_true_eq]

theorem wants_perm (g : Game) (p : PlayerId) : (wants g p).Perm (g.assetsOf p) :=
  List.mergeSort_perm _ _

theorem wants_of_pairwise {g : Game} {p : PlayerId}
    (h : (g.assetsOf p).Pairwise fun a b => (!a.nominal.before b.nominal) = true) :
    wants g p = g.assetsOf p :=
  List.mergeSort_of_pairwise h

theorem nodup_ids_wants (g : Game) (p : PlayerId) : ((wants g p).map (·.id)).Nodup := by
  refine ((wants_perm g p).map _).nodup_iff.mpr ?_
  exact (g.assets.nodup_keys).sublist (List.filter_sublist.map _)

theorem wants_pairwise (g : Game) (p : PlayerId) : (wants g p).Pairwise Asset.Precedes := by
  have hbefore : ∀ a b : Asset,
      (!a.nominal.before b.nominal) = true ↔ b.nominal.units ≤ a.nominal.units := by
    intro a b
    rw [Bool.not_eq_true', ← Bool.not_eq_true, Decimal.before_iff, Int.not_lt]
  have htrans : ∀ a b c : Asset, (!a.nominal.before b.nominal) = true →
      (!b.nominal.before c.nominal) = true → (!a.nominal.before c.nominal) = true := by
    intro a b c
    rw [hbefore, hbefore, hbefore]
    omega
  have htotal : ∀ a b : Asset, (!a.nominal.before b.nominal || !b.nominal.before a.nominal) = true := by
    intro a b
    rw [Bool.or_eq_true, hbefore, hbefore]
    omega
  have hnodup : (wants g p).Nodup := (nodup_ids_wants g p).of_map _
  have hsorted : (wants g p).Pairwise fun a b => (!a.nominal.before b.nominal) = true :=
    List.pairwise_mergeSort htrans htotal _
  rw [List.pairwise_iff_forall_sublist] at hsorted ⊢
  intro a b hab
  have hle := (hbefore a b).mp (hsorted hab)
  by_cases hlt : b.nominal.units < a.nominal.units
  · exact Or.inl hlt
  refine Or.inr ⟨by omega, ?_⟩
  have ha : a ∈ g.assetsOf p := (wants_perm g p).subset (hab.subset (by simp))
  have hb : b ∈ g.assetsOf p := (wants_perm g p).subset (hab.subset (by simp))
  have hne : a ≠ b := by
    rintro rfl
    have hpair := hnodup.sublist hab
    simp at hpair
  by_contra hid
  -- otherwise the sort would have had to turn the two around, which it does not when they are alike
  have hba : [b, a] <+ g.assetsOf p := by
    refine Ascending.pair_sublist (g.assets.ascending.filter _) hb ha ?_
    by_contra hid'
    exact hne (Roll.eq_of_key (List.mem_filter.mp ha).1 (List.mem_filter.mp hb).1
      (Key.connex hid hid'))
  have hba' : [b, a] <+ wants g p :=
    List.pair_sublist_mergeSort htrans htotal ((hbefore b a).mpr (by omega)) hba
  have heq := (hnodup.perm_iff_eq_of_sublist hab hba').mp (List.Perm.swap b a [])
  exact hne (List.cons.inj heq).1

end Season
end Watershed
