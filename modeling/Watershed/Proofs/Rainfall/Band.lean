import Watershed.Proofs.Rainfall
import Mathlib.Data.List.Forall2

namespace Watershed.Rainfall

variable {q : Count}

structure InBand (q : Count) (c : Count × Board) (answer : Except RainfallFault Count) : Prop where
  within : c.2.parcelCount.val * q.val ≤ Count.top.val → ∃ water, answer = .ok water ∧
    c.2.parcelCount.val * q.val - c.2.parcelCount.val / 4 * q.val ≤ water.val ∧
    water.val ≤ c.2.parcelCount.val * q.val
  overflow : answer = .error (.overflow c.1) ↔ Count.top.val < c.2.parcelCount.val * q.val
  few : c.2.parcelCount.val < 4 → ∀ water, answer = .ok water →
    water.val = c.2.parcelCount.val * q.val

theorem inBand_overflow {c : Count × Board} (h : bounds? q c.2.parcelCount = none) :
    InBand q c (.error (.overflow c.1)) := by
  have hlt := bounds?_eq_none.mp h
  refine ⟨fun hle => ?_, iff_of_true rfl hlt, fun _ water e => ?_⟩
  · exact absurd hle (Nat.not_le.mpr hlt)
  · cases e

theorem inBand_rain {c : Count × Board} {ideal range : Count} {stream : Random.Stream}
    (h : bounds? q c.2.parcelCount = some (ideal, range)) :
    InBand q c (.ok (ideal.subDownTo (stream.upTo range).1)) := by
  have hshort := stream.upTo_le range
  have hfits : c.2.parcelCount.val * q.val ≤ Count.top.val := by
    by_contra hlt
    rw [bounds?_eq_none.mpr (Nat.not_le.mp hlt)] at h
    cases h
  obtain ⟨hideal, hrange⟩ := bounds?_eq_some.mp h
  refine ⟨fun _ => ⟨_, rfl, ?_, ?_⟩, ?_, fun hfew water e => ?_⟩
  · rw [Count.val_subDownTo]
    omega
  · rw [Count.val_subDownTo]
    omega
  · exact iff_of_false (by simp) (Nat.not_lt.mpr hfits)
  · obtain rfl := Except.ok.inj e
    rw [Nat.div_eq_of_lt hfew, Nat.zero_mul] at hrange
    rw [Count.val_subDownTo]
    omega

theorem call_belowIdeal (c : Count × Board) (q : Count) (stream : Random.Stream) :
    InBand q c (call c (.belowIdeal (some q) stream)).1 ∧
      ∃ stream', (call c (.belowIdeal (some q) stream)).2 = .belowIdeal (some q) stream' := by
  rw [call, run_rain, generate_belowIdeal]
  cases hb : bounds? q c.2.parcelCount with
  | none => exact ⟨inBand_overflow hb, stream, rfl⟩
  | some x => exact ⟨inBand_rain hb, (stream.upTo x.2).2, rfl⟩

theorem answers_belowIdeal (q : Count) (stream : Random.Stream) (calls : List (Count × Board)) :
    List.Forall₂ (InBand q) calls (answers calls (.belowIdeal (some q) stream)) := by
  induction calls generalizing stream with
  | nil => exact .nil
  | cons c calls ih =>
    obtain ⟨hband, stream', hnext⟩ := call_belowIdeal c q stream
    refine .cons hband ?_
    rw [hnext]
    exact ih stream'

theorem rain_in_band (q : Count) (stream : Random.Stream) (calls : List (Count × Board)) :
    List.Forall₂ (InBand q) calls (answers calls (.belowIdeal (some q) stream)) ∧
    (∀ (high : Count) (s : Random.Stream), (s.upTo high).1.val ≤ high.val) ∧
    ∀ (parcels ideal range : Count) (s : Random.Stream), bounds? q parcels = some (ideal, range) →
      4 * range.val ≤ ideal.val ∧ ∃ water, ideal.sub? (s.upTo range).1 = some water := by
  refine ⟨answers_belowIdeal q stream calls, fun high s => s.upTo_le high,
    fun parcels ideal range s h => ⟨?_, _, sub?_upTo h s⟩⟩
  obtain ⟨hideal, hrange⟩ := bounds?_eq_some.mp h
  rw [hideal, hrange, ← Nat.mul_assoc]
  exact Nat.mul_le_mul_right _ (Nat.mul_div_le _ _)

def carrying : Random.Stream := .cycle [.clamp 18354969227571693150, .top]

theorem carrying_in_band :
    bounds? (.clamp 100) (.clamp 8) = some (.clamp 800, .clamp 200) ∧
    (carrying.upTo (.clamp 200)).1 = .clamp 200 ∧
    4 * (Count.clamp 200).val ≤ (Count.clamp 800).val ∧
    ∃ water, (Count.clamp 800).sub? (carrying.upTo (.clamp 200)).1 = some water :=
  have hbounds : bounds? (.clamp 100) (.clamp 8) = some (.clamp 800, .clamp 200) := by decide +kernel
  ⟨hbounds, by decide +kernel, (rain_in_band (.clamp 100) carrying []).2.2 _ _ _ carrying hbounds⟩

end Watershed.Rainfall
