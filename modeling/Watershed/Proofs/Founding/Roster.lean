import Watershed.Founding
import Watershed.Proofs.Game.Dealing

namespace Watershed

variable {δ α ι : Type} [Key ι] [Keyed α ι]

theorem nodup_concat {β : Type} {l : List β} {b : β} : (l ++ [b]).Nodup ↔ l.Nodup ∧ b ∉ l := by
  rw [List.nodup_append]
  constructor
  · rintro ⟨hl, _, h⟩
    exact ⟨hl, fun hb => h b hb b (List.mem_singleton_self b) rfl⟩
  · rintro ⟨hl, hb⟩
    refine ⟨hl, List.nodup_singleton b, fun a ha c hc e => hb ?_⟩
    rw [← List.mem_singleton.mp hc, ← e]
    exact ha

theorem length_lt_of_begins {β : Type} {l l' : List β} {b : β} (h : l ++ [b] <+: l') :
    l.length < l'.length := by
  have hlen := h.length_le
  rw [List.length_append, List.length_singleton] at hlen
  omega

theorem forall_mem_concat {β : Type} {P : β → Prop} {l : List β} {b : β} :
    (∀ a ∈ l ++ [b], P a) ↔ (∀ a ∈ l, P a) ∧ P b := by
  rw [List.forall_mem_append, List.forall_mem_singleton]

structure Enrolled (label : δ → String) (name : α → String) (Describes : δ → α → Prop)
    (declared : List δ) (roster : Roll (String × ι)) (records : Roll α) : Prop where
  entry : ∀ x, x ∈ roster.toList ↔ ∃ a ∈ records.toList, (name a, key a) = x
  named : ∀ n, roster.contains n = true ↔ n ∈ declared.map label
  injective : ∀ n n' id, (n, id) ∈ roster.toList → (n', id) ∈ roster.toList → n = n'
  described : ∀ a ∈ records.toList, ∃ d ∈ declared, label d = name a ∧ Describes d a
  recorded : ∀ d ∈ declared, ∃ a ∈ records.toList, label d = name a ∧ Describes d a

namespace Enrolled

variable {label : δ → String} {name : α → String} {Describes Describes' : δ → α → Prop}
  {declared : List δ} {roster : Roll (String × ι)} {records records' : Roll α}

theorem of_entry (hentry : ∀ x, x ∈ roster.toList ↔ ∃ a ∈ records.toList, (name a, key a) = x)
    (hdescribed : ∀ a ∈ records.toList, ∃ d ∈ declared, label d = name a ∧ Describes d a)
    (hrecorded : ∀ d ∈ declared, ∃ a ∈ records.toList, label d = name a ∧ Describes d a) :
    Enrolled label name Describes declared roster records := by
  refine ⟨hentry, fun n => ?_, fun n n' id hn hn' => ?_, hdescribed, hrecorded⟩
  · rw [Roll.contains_iff, List.mem_map]
    constructor
    · rintro ⟨x, hx, rfl⟩
      obtain ⟨a, ha, rfl⟩ := (hentry x).mp hx
      obtain ⟨d, hd, hlabel, _⟩ := hdescribed a ha
      exact ⟨d, hd, hlabel⟩
    · rintro ⟨d, hd, rfl⟩
      obtain ⟨a, ha, hlabel, _⟩ := hrecorded d hd
      exact ⟨(name a, key a), (hentry _).mpr ⟨a, ha, rfl⟩, hlabel.symm⟩
  · obtain ⟨a, ha, hx⟩ := (hentry _).mp hn
    obtain ⟨a', ha', hx'⟩ := (hentry _).mp hn'
    obtain ⟨rfl, rfl⟩ := Prod.mk.inj hx
    obtain ⟨rfl, hkey⟩ := Prod.mk.inj hx'
    rw [Roll.eq_of_key ha ha' hkey.symm]

theorem empty : Enrolled label name Describes [] (.empty : Roll (String × ι)) (.empty : Roll α) := by
  refine of_entry (fun x => iff_of_false (fun h => by cases h) ?_) (fun _ h => by cases h)
    fun _ h => by cases h
  rintro ⟨_, h, _⟩
  cases h

theorem name_eq (h : Enrolled label name Describes declared roster records) {a : α} {n : String}
    (ha : a ∈ records.toList) (hn : (n, key a) ∈ roster.toList) : n = name a :=
  h.injective n (name a) (key a) hn ((h.entry _).mpr ⟨a, ha, rfl⟩)

theorem known (h : Enrolled label name Describes declared roster records) {n : String} {id : ι}
    (hn : (n, id) ∈ roster.toList) : ∃ a ∈ records.toList, key a = id := by
  obtain ⟨a, ha, hx⟩ := (h.entry _).mp hn
  exact ⟨a, ha, congrArg Prod.snd hx⟩

theorem listed (h : Enrolled label name Describes declared roster records) {n : String}
    (hn : n ∈ declared.map label) : ∃ id, (n, id) ∈ roster.toList := by
  obtain ⟨x, hx, rfl⟩ := Roll.contains_iff.mp ((h.named n).mpr hn)
  exact ⟨x.2, hx⟩

theorem label_mem (h : Enrolled label name Describes declared roster records) {n : String} {id : ι}
    (hn : (n, id) ∈ roster.toList) : n ∈ declared.map label :=
  (h.named n).mp (Roll.contains_iff.mpr ⟨_, hn, rfl⟩)

theorem put (h : Enrolled label name Describes declared roster records) {d : δ} {a : α}
    (hlabel : label d = name a) (hd : Describes d a) (hname : roster.contains (label d) = false)
    (hkey : records.find? (key a) = none) :
    Enrolled label name Describes (declared ++ [d]) (roster.put (label d, key a))
      (records.put a) := by
  have hfree : ∀ b ∈ records.toList, key b ≠ key a := Roll.find?_eq_none.mp hkey
  have hold : ∀ b ∈ records.toList, b ∈ (records.put a).toList :=
    fun b hb => Roll.mem_put.mpr (Or.inr ⟨hb, hfree b hb⟩)
  refine of_entry (fun x => ?_) (fun b hb => ?_) fun e he => ?_
  · rw [Roll.mem_put]
    constructor
    · rintro (rfl | ⟨hx, _⟩)
      · exact ⟨a, Roll.mem_put.mpr (Or.inl rfl), by rw [hlabel]⟩
      · obtain ⟨b, hb, rfl⟩ := (h.entry x).mp hx
        exact ⟨b, hold b hb, rfl⟩
    · rintro ⟨b, hb, rfl⟩
      rcases Roll.mem_put.mp hb with rfl | ⟨hb, _⟩
      · exact Or.inl (by rw [hlabel])
      · refine Or.inr ⟨(h.entry _).mpr ⟨b, hb, rfl⟩, fun hk => ?_⟩
        exact Roll.find?_eq_none.mp (Roll.contains_eq_false.mp hname) _
          ((h.entry _).mpr ⟨b, hb, rfl⟩) hk
  · rcases Roll.mem_put.mp hb with rfl | ⟨hb, _⟩
    · exact ⟨d, List.mem_append_right _ (List.mem_singleton_self d), hlabel, hd⟩
    · obtain ⟨e, he, hdesc⟩ := h.described b hb
      exact ⟨e, List.mem_append_left _ he, hdesc⟩
  · rcases List.mem_append.mp he with he | he
    · obtain ⟨b, hb, hdesc⟩ := h.recorded e he
      exact ⟨b, hold b hb, hdesc⟩
    · obtain rfl := List.mem_singleton.mp he
      exact ⟨a, Roll.mem_put.mpr (Or.inl rfl), hlabel, hd⟩

theorem revise (h : Enrolled label name Describes declared roster records)
    (hfrom : ∀ a' ∈ records'.toList, ∃ a ∈ records.toList, name a' = name a ∧ key a' = key a ∧
      ∀ d ∈ declared, label d = name a → Describes d a → Describes' d a')
    (hto : ∀ a ∈ records.toList, ∃ a' ∈ records'.toList, key a' = key a) :
    Enrolled label name Describes' declared roster records' := by
  have hto : ∀ a ∈ records.toList, ∃ a' ∈ records'.toList, name a' = name a ∧ key a' = key a ∧
      ∀ d ∈ declared, label d = name a → Describes d a → Describes' d a' := by
    intro a ha
    obtain ⟨a', ha', hkey⟩ := hto a ha
    obtain ⟨b, hb, hrest⟩ := hfrom a' ha'
    obtain rfl := Roll.eq_of_key hb ha (hrest.2.1.symm.trans hkey)
    exact ⟨a', ha', hrest⟩
  refine of_entry (fun x => (h.entry x).trans ?_) (fun a' ha' => ?_) fun d hd => ?_
  · constructor
    · rintro ⟨a, ha, rfl⟩
      obtain ⟨a', ha', hname, hkey, _⟩ := hto a ha
      exact ⟨a', ha', by rw [hname, hkey]⟩
    · rintro ⟨a', ha', rfl⟩
      obtain ⟨a, ha, hname, hkey, _⟩ := hfrom a' ha'
      exact ⟨a, ha, by rw [hname, hkey]⟩
  · obtain ⟨a, ha, hname, _, hdesc⟩ := hfrom a' ha'
    obtain ⟨d, hd, hlabel, hda⟩ := h.described a ha
    exact ⟨d, hd, hlabel.trans hname.symm, hdesc d hd hlabel hda⟩
  · obtain ⟨a, ha, hlabel, hda⟩ := h.recorded d hd
    obtain ⟨a', ha', hname, _, hdesc⟩ := hto a ha
    exact ⟨a', ha', hlabel.trans hname.symm, hdesc d hd hlabel hda⟩

theorem imp (h : Enrolled label name Describes declared roster records)
    (hdesc : ∀ d ∈ declared, ∀ a, Describes d a → Describes' d a) :
    Enrolled label name Describes' declared roster records :=
  h.revise (fun a ha => ⟨a, ha, rfl, rfl, fun d hd _ => hdesc d hd a⟩) fun a ha => ⟨a, ha, rfl⟩

end Enrolled

namespace Founding

theorem mem_roster {ι : Type} {roster : Roll (String × ι)} {name : String} {id : ι} :
    (name, id) ∈ roster.toList ↔ roster.find? name = some (name, id) := by
  rw [Roll.find?_eq_some]
  exact (and_iff_left rfl).symm

theorem findPlayer_eq_ok {f : Founding} {name : String} {id : PlayerId} :
    f.findPlayer name = .ok id ↔ (name, id) ∈ f.roster.players.toList := by
  rw [mem_roster]
  unfold findPlayer
  cases h : f.roster.players.find? name with
  | none => simp
  | some x =>
    obtain rfl : x.1 = name := Roll.key_of_find? h
    simp [Prod.ext_iff]

theorem findParcel_eq_ok {f : Founding} {name : String} {id : ParcelId} :
    f.findParcel name = .ok id ↔ (name, id) ∈ f.roster.parcels.toList := by
  rw [mem_roster]
  unfold findParcel
  cases h : f.roster.parcels.find? name with
  | none => simp
  | some x =>
    obtain rfl : x.1 = name := Roll.key_of_find? h
    simp [Prod.ext_iff]

theorem findOwner_eq_ok {f : Founding} {name : Option String} {owner : Option PlayerId} :
    f.findOwner name = .ok owner ↔
      Option.Rel (fun n id => (n, id) ∈ f.roster.players.toList) name owner := by
  cases name with
  | none =>
    cases owner <;> simp [findOwner]
  | some n =>
    cases owner with
    | none => simp [findOwner, map_eq_ok]
    | some id => simp [findOwner, map_eq_ok, findPlayer_eq_ok]

end Founding
end Watershed
