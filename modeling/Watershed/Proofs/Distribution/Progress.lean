import Watershed.Proofs.Distribution.Fair
import Watershed.Proofs.Distribution.Tiered

namespace Watershed.Distributor

variable {b : Board} {water : Count}

def Configured : Distributor → Prop
  | .tiered cap => cap.isSome = true
  | _ => True

theorem configure_eq_ok {s : WaterSettings} {d d' : Distributor} (h : d.configure s = .ok d') :
    d'.Configured := by
  unfold configure at h
  split at h
  · obtain ⟨cap, _, h⟩ := bind_eq_ok.mp h
    obtain rfl := Except.ok.inj h
    rfl
  · rename_i hd
    obtain rfl := Except.ok.inj h
    cases d with
    | tiered cap => exact absurd rfl (hd cap)
    | _ => trivial

theorem fair_ok {r : Distribution} (h : Distribution.Fair.distribute? b water = some r) :
    Distributor.fair.distribute b water = .ok r := by
  simp [distribute, h]

theorem perParcel_ok {r : Distribution} (h : Distribution.PerParcel.distribute? b water = some r) :
    Distributor.perParcel.distribute b water = .ok r := by
  simp [distribute, h]

theorem playerOnly_ok {r : Distribution}
    (h : Distribution.PlayerOnly.distribute? b water = some r) :
    Distributor.playerOnly.distribute b water = .ok r := by
  simp [distribute, h]

theorem tiered_ok {cap : Count} {r : Distribution}
    (h : Distribution.Tiered.distribute? cap b water = some r) :
    (Distributor.tiered (some cap)).distribute b water = .ok r := by
  simp [distribute, h]

theorem exists_distribute {d : Distributor} (hd : d.Configured) (b : Board) (water : Count) :
    ∃ r, d.distribute b water = .ok r := by
  cases d with
  | fair =>
    obtain ⟨r, hr, _⟩ := Distribution.Fair.exists_distribute? b water
    exact ⟨r, fair_ok hr⟩
  | perParcel =>
    obtain ⟨r, hr, _⟩ := Distribution.PerParcel.exists_distribute? b water
    exact ⟨r, perParcel_ok hr⟩
  | playerOnly => exact ⟨_, playerOnly_ok (Distribution.PlayerOnly.distribute?_eq b water)⟩
  | tiered cap =>
    obtain ⟨cap, rfl⟩ := Option.isSome_iff_exists.mp hd
    obtain ⟨r, hr, _⟩ := Distribution.Tiered.exists_distribute? cap b water
    exact ⟨r, tiered_ok hr⟩

end Watershed.Distributor
