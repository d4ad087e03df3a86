import Watershed.Distribution.Distributor
import Watershed.Proofs.Allocation.Draw
import Watershed.Proofs.Board.Water

namespace Watershed

abbrev Amounts := List (Parcel × Count)

namespace Amounts

def named (amounts : Amounts) (p : PlayerId) : Nat :=
  (amounts.map fun x => if x.1.waterOwner = some p then x.2.val else 0).sum

def whole (amounts : Amounts) : Nat := (amounts.map fun x => x.2.val).sum

def listed (amounts : Amounts) : List (ParcelId × Count) := amounts.map fun x => (x.1.id, x.2)

theorem named_append (amounts amounts' : Amounts) (p : PlayerId) :
    named (amounts ++ amounts') p = amounts.named p + amounts'.named p := by
  simp [named]

theorem named_flatMap {α : Type} (f : α → Amounts) (l : List α) (p : PlayerId) :
    named (l.flatMap f) p = (l.map fun a => (f a).named p).sum := by
  induction l with
  | nil => rfl
  | cons a l ih => rw [List.flatMap_cons, named_append, ih, List.map_cons, List.sum_cons]

theorem whole_append (amounts amounts' : Amounts) :
    whole (amounts ++ amounts') = amounts.whole + amounts'.whole := by
  simp [whole]

theorem whole_flatMap {α : Type} (f : α → Amounts) (l : List α) :
    whole (l.flatMap f) = (l.map fun a => (f a).whole).sum := by
  induction l with
  | nil => rfl
  | cons a l ih => rw [List.flatMap_cons, whole_append, ih, List.map_cons, List.sum_cons]

theorem named_le_whole (amounts : Amounts) (p : PlayerId) : amounts.named p ≤ amounts.whole := by
  refine List.sum_le_sum fun x _ => ?_
  split
  · exact Nat.le_refl _
  · exact Nat.zero_le _

theorem listed_append (amounts amounts' : Amounts) :
    listed (amounts ++ amounts') = amounts.listed ++ amounts'.listed := List.map_append

end Amounts

namespace Plan

theorem on_dry (parcels : Roll Parcel) (id : ParcelId) : (Plan.dry parcels).on id = 0 := by
  rw [on, dry, Roll.find?_tabulate]
  cases parcels.find? id <;> rfl

theorem on_putAll {l : List (ParcelId × Count)} (hl : (l.map (·.1)).Nodup) {p : Plan} {id : ParcelId}
    (hp : p.on id = 0) : ((p.putAll l).on id).val = amountAt l id := by
  have hmem := fun x => Roll.mem_foldl_put hl (r := p) (a := x)
  by_cases hx : ∃ x ∈ l, x.1 = id
  · obtain ⟨x, hx, rfl⟩ := hx
    have hm : x ∈ (p.putAll l).toList := (hmem x).mpr (Or.inl hx)
    rw [on_of_mem hm, amountAt_of_mem hl hx]
  · have hne : ∀ x ∈ l, x.1 ≠ id := fun x hm e => hx ⟨x, hm, e⟩
    rw [amountAt_of_not_mem hne]
    by_contra hpos
    have hm := mem_of_on_pos (Nat.pos_of_ne_zero hpos)
    rcases (hmem _).mp hm with hm | ⟨hm, _⟩
    · exact hne _ hm rfl
    · have hon := on_of_mem hm
      rw [hp] at hon
      exact hpos (congrArg Count.val hon).symm

theorem keys_dry (parcels : Roll Parcel) : (Plan.dry parcels).keys = parcels.keys := by
  rw [dry, Roll.tabulate, Roll.keys_map]

end Plan

namespace Distribution

structure Poured (b : Board) (d : Distribution) (amounts : Amounts) : Prop where
  parcels : d.parcels = ((Plan.dry b.parcels).putAll amounts.listed).pour b.parcels
  written : d.written = ((Plan.dry b.parcels).putAll amounts.listed).keys
  known : ∀ x ∈ amounts, x.1 ∈ b.parcels.toList
  nodup : (amounts.map (·.1.id)).Nodup

structure Laid (b : Board) (d : Distribution) (amounts : Amounts) : Prop
    extends Poured b d amounts where
  shares : ∀ p ∈ b.players.toList, (d.shares.of p.id).val = amounts.named p.id

def Lays (d : Distribution) (q : Parcel) (n : Nat) : Prop :=
  ∃ water : Count, water.val = n ∧ { q with water := water } ∈ d.parcels.toList

variable {b : Board} {d : Distribution} {amounts : Amounts}

theorem Poured.nodup_listed (h : Poured b d amounts) : (amounts.listed.map (·.1)).Nodup := by
  rw [Amounts.listed, List.map_map]
  exact h.nodup

theorem Poured.on_eq (h : Poured b d amounts) (id : ParcelId) :
    (((Plan.dry b.parcels).putAll amounts.listed).on id).val = amountAt amounts.listed id :=
  Plan.on_putAll h.nodup_listed (Plan.on_dry b.parcels id)

theorem Poured.written_eq (h : Poured b d amounts) : d.written = b.parcels.keys := by
  have hkeys := Plan.keys_dry b.parcels
  rw [h.written, Plan.putAll, Roll.keys_foldl_put, hkeys]
  intro x hx
  obtain ⟨y, hy, rfl⟩ := List.mem_map.mp hx
  rw [Roll.contains_congr hkeys]
  exact Roll.contains_iff.mpr ⟨y.1, h.known y hy, rfl⟩

theorem Poured.amount_of_mem (h : Poured b d amounts) {x : Parcel × Count} (hx : x ∈ amounts) :
    amountAt amounts.listed x.1.id = x.2.val :=
  amountAt_of_mem h.nodup_listed (x := (x.1.id, x.2)) (List.mem_map_of_mem hx)

theorem Poured.amount_eq_zero (h : Poured b d amounts) {q : Parcel} (hq : q ∈ b.parcels.toList)
    (hne : ∀ x ∈ amounts, x.1 ≠ q) : amountAt amounts.listed q.id = 0 := by
  refine amountAt_of_not_mem fun y hy e => ?_
  obtain ⟨x, hx, rfl⟩ := List.mem_map.mp hy
  exact hne x hx (Roll.eq_of_key (h.known x hx) hq e)

theorem Poured.amount_le (h : Poured b d amounts) {bound : Parcel → Nat}
    (hle : ∀ x ∈ amounts, x.2.val ≤ bound x.1) {q : Parcel} (hq : q ∈ b.parcels.toList) :
    amountAt amounts.listed q.id ≤ bound q := by
  by_cases hx : ∃ x ∈ amounts, x.1 = q
  · obtain ⟨x, hx, rfl⟩ := hx
    rw [h.amount_of_mem hx]
    exact hle x hx
  · rw [h.amount_eq_zero hq fun x hm e => hx ⟨x, hm, e⟩]
    exact Nat.zero_le _

theorem Poured.lays (h : Poured b d amounts) {q : Parcel} (hq : q ∈ b.parcels.toList) :
    d.Lays q (amountAt amounts.listed q.id) := by
  refine ⟨_, h.on_eq q.id, ?_⟩
  rw [h.parcels]
  exact List.mem_map_of_mem hq

theorem Poured.lays_of_mem (h : Poured b d amounts) {x : Parcel × Count} (hx : x ∈ amounts) :
    d.Lays x.1 x.2.val :=
  h.amount_of_mem hx ▸ h.lays (h.known x hx)

theorem Poured.whole_eq (h : Poured b d amounts) :
    (d.parcels.sum fun q => q.water.val) = amounts.whole := by
  have hamounts := Roll.sum_amountAt (r := b.parcels) (l := amounts.listed)
    (p := fun _ => True) (w := fun _ => True) fun x hx => by
      obtain ⟨y, hy, rfl⟩ := List.mem_map.mp hx
      exact ⟨y.1, h.known y hy, rfl, Iff.rfl⟩
  simp only [if_true] at hamounts
  have hwhole : (amounts.listed.map fun x => x.2.val).sum = amounts.whole := by
    rw [Amounts.listed, List.map_map]
    rfl
  rw [h.parcels, ← hwhole, ← hamounts]
  exact Roll.sum_map.trans (Roll.sum_congr fun q _ => h.on_eq q.id)

theorem Poured.sum_owned (h : Poured b d amounts) (p : PlayerId) :
    (d.parcels.sum fun q => if q.waterOwner = some p then q.water.val else 0) =
      b.parcels.sum fun q => if q.waterOwner = some p then amountAt amounts.listed q.id else 0 := by
  rw [h.parcels]
  refine Roll.sum_map.trans (Roll.sum_congr fun q _ => ?_)
  rw [h.on_eq]

theorem Poured.named_eq (h : Poured b d amounts) (p : PlayerId) :
    (d.parcels.sum fun q => if q.waterOwner = some p then q.water.val else 0) =
      amounts.named p := by
  have hamounts := Roll.sum_amountAt (r := b.parcels) (l := amounts.listed)
    (p := fun q => q.waterOwner = some p)
    (w := fun x => (b.parcels.find? x.1).bind (·.waterOwner) = some p) fun x hx => by
      obtain ⟨y, hy, rfl⟩ := List.mem_map.mp hx
      have hf : b.parcels.find? y.1.id = some y.1 := Roll.find?_of_mem (h.known y hy)
      exact ⟨y.1, h.known y hy, rfl, by rw [hf]; rfl⟩
  have hnamed : (amounts.listed.map fun x =>
      if (b.parcels.find? x.1).bind (·.waterOwner) = some p then x.2.val else 0).sum =
      amounts.named p := by
    rw [Amounts.listed, List.map_map]
    refine congrArg List.sum (List.map_congr_left fun y hy => ?_)
    have hf : b.parcels.find? y.1.id = some y.1 := Roll.find?_of_mem (h.known y hy)
    simp only [Function.comp, hf, Option.bind_some]
  exact (h.sum_owned p).trans (hamounts.trans hnamed)

theorem Laid.share_eq (h : Laid b d amounts) {p : Player} (hp : p ∈ b.players.toList) :
    (d.shares.of p.id).val =
      d.parcels.sum fun q => if q.waterOwner = some p.id then q.water.val else 0 :=
  (h.shares p hp).trans (h.named_eq p.id).symm

end Distribution
end Watershed
