import Watershed.Proofs.Season.Steps

namespace Watershed.Season

theorem buildSteps_refused {t t' : Stage} {e : SeasonFault} (h : buildSteps.run t = .error e t') :
    t' = t := by
  rw [run_buildSteps] at h
  split at h
  · cases h
  · cases h
    rfl

theorem tryRain_eq_ok {s : Season} {water : Count} {r : Rainfall}
    (h : s.tryRain = .ok (water, r)) : s.strategies.rainfall.Continues r := by
  obtain ⟨_, _, h⟩ := bind_eq_ok.mp h
  exact Rainfall.generate_eq_ok (mapError_eq_ok.mp h)

theorem allocationSteps_refused {t t' : Stage} {e : SeasonFault}
    (h : allocationSteps.run t = .error e t') :
    ∃ r, t.season.strategies.rainfall.Continues r ∧
      t' = { t with season := t.season.withRainfall r } := by
  rw [run_allocationSteps] at h
  split at h
  · cases h
    exact ⟨t.season.strategies.rainfall, .same _, rfl⟩
  · rename_i hr
    split at h
    · cases h
    · cases h
      exact ⟨_, tryRain_eq_ok hr, rfl⟩

theorem revenueSteps_refused {t t' : Stage} {e : SeasonFault}
    (h : revenueSteps.run t = .error e t') : t' = t := by
  rw [run_revenueSteps] at h
  split at h
  · cases h
  · cases h
    rfl

theorem checkClosing_sufficient {t t' : Stage} {round : Count} {revenue : Revenue}
    (h : checkClosing.run t = .ok (round, revenue) t') :
    t' = t ∧ ∃ summary t'', (closeRound round revenue).run t' = .ok summary t'' := by
  rw [run_checkClosing] at h
  split at h
  · rename_i hr
    cases h
    exact ⟨rfl, _, _, run_closeRound hr⟩
  · cases h

theorem refused_unchanged (t : Stage) :
    (∀ e t', buildSteps.run t = .error e t' → t' = t) ∧
    (∀ e t', allocationSteps.run t = .error e t' →
      ∃ r, t.season.strategies.rainfall.Continues r ∧
        t' = { t with season := t.season.withRainfall r }) ∧
    (∀ e t', revenueSteps.run t = .error e t' → t' = t) ∧
    ∀ round revenue t', checkClosing.run t = .ok (round, revenue) t' →
      t' = t ∧ ∃ summary t'', (closeRound round revenue).run t' = .ok summary t'' :=
  ⟨fun _ _ => buildSteps_refused, fun _ _ => allocationSteps_refused,
    fun _ _ => revenueSteps_refused, fun _ _ _ => checkClosing_sufficient⟩

def undistributed : Season :=
  ⟨⟨1, .build, .clamp 3⟩, Game.afterAll .empty Sample.settling,
    ⟨.belowIdeal (some (.clamp 8)) (.cycle [.clamp 7]), .tiered none, .parcelOriented,
      .unconfigured⟩, false, .neutral, 0, ⟨0, 0, 0⟩⟩

def unpayable : Season :=
  let rich : Player := { Sample.miller with money := .greatest }
  let g := Game.afterAll .empty
    [.deal (.addPlayer Sample.farmer), .deal (.addPlayer rich),
      .deal (.addParcel { Sample.meadow with developer := some Sample.farmer.id }),
      .deal (.addParcel { Sample.marsh with developer := some Sample.miller.id }),
      .deal (.build ⟨.ofNat 6⟩ Sample.farmer.id Sample.meadow.id ⟨"field", .crops, 1, 0, true, 1⟩),
      .deal (.build Sample.mill Sample.miller.id Sample.marsh.id ⟨"mill", .factory, 1, 0, true, 1⟩)]
  ⟨⟨1, .allocation, .clamp 3⟩, g.setRound 1,
    ⟨.utopian (some (.clamp 8)), .perParcel, .parcelOriented, .unconfigured⟩, true, .neutral, 0,
    ⟨0, 0, 0⟩⟩

theorem unpayable_unchanged :
    (∃ t', allocationSteps.run ⟨undistributed, [], []⟩ =
        .error (.distribution (.distributor (.config (.notConfigured "tiered distributor")))) t' ∧
      t'.season.game = undistributed.game ∧ t'.season.accepting = false) ∧
    ∃ t', revenueSteps.run ⟨unpayable, [], []⟩ = .error (.game .overflow) t' ∧
      t'.season.game = unpayable.game ∧ t'.season.accepting = true ∧ t'.closings = [] := by
  have hrain : undistributed.startAllocation.answer =
      .error (.distribution (.distributor (.config (.notConfigured "tiered distributor")))) := by
    decide +kernel
  have hpay : unpayable.startRevenue.answer = .error (.game .overflow) := by decide +kernel
  unfold startAllocation perform at hrain
  unfold startRevenue perform at hpay
  split at hrain
  · cases hrain
  rename_i t ht
  split at hpay
  · cases hpay
  rename_i t' ht'
  cases hrain
  cases hpay
  obtain ⟨r, _, rfl⟩ := (refused_unchanged ⟨undistributed, [], []⟩).2.1 _ _ ht
  obtain rfl := (refused_unchanged ⟨unpayable, [], []⟩).2.2.1 _ _ ht'
  exact ⟨⟨_, ht, rfl, rfl⟩, _, ht', rfl, rfl, rfl⟩

end Watershed.Season
