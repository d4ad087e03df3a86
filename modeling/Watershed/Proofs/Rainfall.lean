import Watershed.Proofs.Steps
import Watershed.Rainfall
import Mathlib.Tactic.ByContra

namespace Watershed

namespace Random.Stream

theorem carry_room {word range : Nat} (hw : word < wordBound) (hr : range ≤ wordBound)
    (hlow : wordBound - range < word * range % wordBound) :
    word * range / wordBound + 1 < range := by
  -- the low half leaves room for a carry only where the high half is not at its end
  by_contra hge
  have hdiv := Nat.div_add_mod (word * range) wordBound
  have hwhole : wordBound * range ≤ wordBound * (word * range / wordBound + 1) :=
    Nat.mul_le_mul_left _ (Nat.not_lt.mp hge)
  have hword : (word + 1) * range ≤ wordBound * range := Nat.mul_le_mul_right _ hw
  rw [Nat.mul_succ] at hwhole
  rw [Nat.succ_mul] at hword
  omega

theorem upTo_le (high : Count) (s : Stream) : (s.upTo high).1.val ≤ high.val := by
  have hhigh := high.val_lt
  have hw : s.draw.1.val < wordBound := s.draw.1.val_lt
  have hrange : high.val + 1 ≤ wordBound := high.val_lt
  have hwhole : s.draw.1.val * (high.val + 1) / wordBound < high.val + 1 := by
    refine Nat.div_lt_of_lt_mul ?_
    exact Nat.mul_lt_mul_of_pos_right hw (Nat.succ_pos _)
  simp only [upTo]
  split
  · rename_i he
    show s.draw.1.val ≤ high.val
    omega
  split
  · rename_i hlow
    have hroom := carry_room hw hrange hlow
    have hmore : s.draw.2.draw.1.val * (high.val + 1) / wordBound < high.val + 1 := by
      refine Nat.div_lt_of_lt_mul ?_
      exact Nat.mul_lt_mul_of_pos_right s.draw.2.draw.1.val_lt (Nat.succ_pos _)
    have hcarry : (s.draw.1.val * (high.val + 1) % wordBound +
        s.draw.2.draw.1.val * (high.val + 1) / wordBound) / wordBound < 2 := by
      refine Nat.div_lt_of_lt_mul ?_
      have hmod := Nat.mod_lt (s.draw.1.val * (high.val + 1)) (show 0 < wordBound by decide)
      omega
    show (Count.clamp _).val ≤ high.val
    rw [Count.val_clamp]
    omega
  · show (Count.clamp _).val ≤ high.val
    rw [Count.val_clamp]
    omega

theorem upTo_snd (high : Count) (s : Stream) :
    ∃ k, (s.upTo high).2 = { s with drawn := s.drawn + k } := by
  simp only [upTo]
  split
  · exact ⟨1, rfl⟩
  split
  · exact ⟨2, rfl⟩
  · exact ⟨1, rfl⟩

end Random.Stream

namespace Rainfall

theorem bounds?_eq_some {perParcel parcels ideal range : Count} :
    bounds? perParcel parcels = some (ideal, range) ↔
      ideal.val = parcels.val * perParcel.val ∧ range.val = parcels.val / 4 * perParcel.val := by
  simp only [bounds?, Option.bind_eq_bind, Option.bind_eq_some_iff, Option.some.injEq, Prod.mk.injEq,
    Count.mul?, Count.ofNat?_eq_some, Count.val_quot]
  constructor
  · rintro ⟨_, hi, _, hr, rfl, rfl⟩
    exact ⟨hi.symm, hr.symm⟩
  · rintro ⟨hi, hr⟩
    exact ⟨ideal, hi.symm, range, hr.symm, rfl, rfl⟩

theorem bounds?_eq_none {perParcel parcels : Count} :
    bounds? perParcel parcels = none ↔ Count.top.val < parcels.val * perParcel.val := by
  have hle : parcels.val / 4 * perParcel.val ≤ parcels.val * perParcel.val :=
    Nat.mul_le_mul_right _ (Nat.div_le_self _ _)
  have htop : Count.top.val + 1 = 18446744073709551616 := rfl
  cases hb : bounds? perParcel parcels with
  | some x =>
    obtain ⟨hi, _⟩ := bounds?_eq_some.mp hb
    have hlt := x.1.val_lt
    simp only [reduceCtorEq, false_iff]
    omega
  | none =>
    simp only [true_iff]
    by_contra hfits
    have hsome : bounds? perParcel parcels = some
        (⟨parcels.val * perParcel.val, by omega⟩, ⟨parcels.val / 4 * perParcel.val, by omega⟩) :=
      bounds?_eq_some.mpr ⟨rfl, rfl⟩
    rw [hb] at hsome
    cases hsome

theorem range_le_ideal {perParcel parcels ideal range : Count}
    (h : bounds? perParcel parcels = some (ideal, range)) : range.val ≤ ideal.val := by
  obtain ⟨hi, hr⟩ := bounds?_eq_some.mp h
  rw [hi, hr]
  exact Nat.mul_le_mul_right _ (Nat.div_le_self _ _)

theorem sub?_upTo {perParcel parcels ideal range : Count}
    (h : bounds? perParcel parcels = some (ideal, range)) (stream : Random.Stream) :
    ideal.sub? (stream.upTo range).1 = some (ideal.subDownTo (stream.upTo range).1) := by
  have hle := range_le_ideal h
  have hshort := stream.upTo_le range
  refine Count.sub?_eq_some.mpr ?_
  rw [Count.val_subDownTo]
  omega

theorem generate_belowIdeal (round : Count) (b : Board) (n : Count) (stream : Random.Stream) :
    generate round b (.belowIdeal (some n) stream) = match bounds? n b.parcelCount with
      | none => .error (.overflow round)
      | some (ideal, range) =>
        .ok (ideal.subDownTo (stream.upTo range).1, .belowIdeal (some n) (stream.upTo range).2) := by
  rw [generate]
  cases hb : bounds? n b.parcelCount with
  | none => rfl
  | some x =>
    show (orOverflow round (x.1.sub? (stream.upTo x.2).1) >>= fun water => _) = _
    rw [sub?_upTo hb stream]
    rfl

inductive Continues : Rainfall → Rainfall → Prop
  | same (r : Rainfall) : Continues r r
  | drawn (n : Option Count) (stream : Random.Stream) (k : Nat) :
    Continues (.belowIdeal n stream) (.belowIdeal n { stream with drawn := stream.drawn + k })

theorem generate_eq_ok {round : Count} {b : Board} {r r' : Rainfall} {water : Count}
    (h : r.generate round b = .ok (water, r')) : Continues r r' := by
  unfold generate at h
  split at h
  · cases h
  · obtain ⟨_, _, h⟩ := bind_eq_ok.mp h
    cases h
    exact .same _
  · cases h
  · obtain ⟨_, _, h⟩ := bind_eq_ok.mp h
    obtain ⟨_, _, h⟩ := bind_eq_ok.mp h
    cases h
    exact .same _
  · cases h
  · rename_i n stream
    obtain ⟨⟨ideal, range⟩, _, h⟩ := bind_eq_ok.mp h
    obtain ⟨_, _, h⟩ := bind_eq_ok.mp h
    obtain ⟨k, hk⟩ := stream.upTo_snd range
    have hr : Rainfall.belowIdeal (some n) (stream.upTo range).2 = r' :=
      congrArg Prod.snd (Except.ok.inj h)
    rw [← hr, hk]
    exact .drawn (some n) stream k

theorem run_rain (round : Count) (b : Board) (r : Rainfall) :
    (rain round b).run r = match r.generate round b with
      | .ok (water, r') => .ok water r'
      | .error e => .error e r := by
  rw [rain, EStateM.run_bind, EStateM.run_get]
  dsimp only
  split
  · rename_i n stream
    rw [generate_belowIdeal]
    cases hb : bounds? n b.parcelCount with
    | none => simp [orOverflow]
    | some x => simp [sub?_upTo hb, orOverflow]
  · cases r.generate round b with
    | error e => simp
    | ok x => exact run_bind_ok (run_ofExcept (.ok x) r) _

def Configured : Rainfall → Prop
  | .utopian perParcel => perParcel.isSome = true
  | .series deviations => deviations.isSome = true
  | .belowIdeal perParcel _ => perParcel.isSome = true

theorem configure_eq_ok {s : WaterSettings} {r r' : Rainfall} (h : r.configure s = .ok r') :
    r'.Configured := by
  cases r <;>
  · obtain ⟨_, _, h⟩ := bind_eq_ok.mp h
    obtain rfl := Except.ok.inj h
    rfl

theorem Continues.configured {r r' : Rainfall} (h : Continues r r') (hr : r.Configured) :
    r'.Configured := by
  cases h <;> exact hr

theorem orOverflow_eq_error {α : Type} {round : Count} {x : Option α} {e : RainfallFault}
    (h : orOverflow round x = .error e) : e = .overflow round := by
  cases x with
  | none => exact (Except.error.inj h).symm
  | some a => cases h

theorem generate_eq_error {round : Count} {b : Board} {r : Rainfall} {e : RainfallFault}
    (hr : r.Configured) (h : r.generate round b = .error e) : e = .overflow round := by
  unfold generate at h
  split at h
  · cases hr
  · rcases bind_eq_error.mp h with h | ⟨_, _, h⟩
    · exact orOverflow_eq_error h
    · cases h
  · cases hr
  · rcases bind_eq_error.mp h with h | ⟨_, _, h⟩
    · exact orOverflow_eq_error h
    rcases bind_eq_error.mp h with h | ⟨_, _, h⟩
    · exact orOverflow_eq_error h
    · cases h
  · cases hr
  · rcases bind_eq_error.mp h with h | ⟨_, _, h⟩
    · exact orOverflow_eq_error h
    rcases bind_eq_error.mp h with h | ⟨_, _, h⟩
    · exact orOverflow_eq_error h
    · cases h

end Rainfall
end Watershed
