import Watershed.Distribution.Distributor
import Watershed.Game.Registry
import Watershed.Game.Trade
import Watershed.Game.Turnover
import Watershed.Proofs.Allocation.Change
import Mathlib.Logic.Relation

namespace Watershed

inductive Dealing
  | addPlayer (p : Player)
  | addParcel (q : Parcel)
  | build (id : AssetId) (player : PlayerId) (parcel : ParcelId) (b : Blueprint)
  | transferWater (parcel : ParcelId) (taker : Option PlayerId)
  | transferDevelopment (parcel : ParcelId) (taker : Option PlayerId)

inductive Act
  | deal (d : Dealing)
  | setRound (round : Count)
  | credit (player : PlayerId) (amount : Decimal)
  | reset
  | distribute (d : Distributor) (water : Count)
  | change (asset : AssetId) (player : PlayerId) (n : Count)

namespace Game

def deal? (g : Game) : Dealing → Option Game
  | .addPlayer p => (g.addPlayer p).toOption
  | .addParcel q => (g.addParcel q).toOption
  | .build id player parcel b => (g.build id player parcel b).toOption
  | .transferWater parcel taker => (g.transferWater parcel taker).toOption.map (·.game)
  | .transferDevelopment parcel taker => (g.transferDevelopment parcel taker).toOption.map (·.game)

def act? (g : Game) : Act → Option Game
  | .deal d => g.deal? d
  | .setRound round => some (g.setRound round)
  | .credit player amount => (g.credit player amount).toOption
  | .reset => g.reset.toOption.map (·.game)
  | .distribute d water => (g.distribute d water).toOption.map (·.game)
  | .change asset player n => (g.changeAllocation asset player n).toOption.map (·.game)

def after (g : Game) (a : Act) : Game := (g.act? a).getD g

theorem after_of {P : Game → Prop} {g : Game} {a : Act} (hg : P g)
    (h : ∀ g', g.act? a = some g' → P g') : P (g.after a) := by
  rw [after]
  cases ha : g.act? a with
  | none => exact hg
  | some g' => exact h g' ha

theorem after_eq {g g' : Game} {a : Act} (h : g.act? a = some g') : g.after a = g' := by
  rw [after, h, Option.getD_some]

def Step (admits : Game → Act → Prop) (g g' : Game) : Prop := ∃ a, admits g a ∧ g' = g.after a

abbrev Run (admits : Game → Act → Prop) : Game → Game → Prop :=
  Relation.ReflTransGen (Step admits)

theorem Run.invariant {admits : Game → Act → Prop} {P : Game → Prop}
    (hstep : ∀ g a, admits g a → P g → P (g.after a)) {g g' : Game} (h : Run admits g g')
    (hg : P g) : P g' := by
  induction h with
  | refl => exact hg
  | tail _ hs ih =>
    obtain ⟨a, ha, rfl⟩ := hs
    exact hstep _ a ha ih

theorem Run.mono {admits admits' : Game → Act → Prop} (h : ∀ g a, admits g a → admits' g a)
    {g g' : Game} (hr : Run admits g g') : Run admits' g g' :=
  Relation.ReflTransGen.mono (fun g _ ⟨a, ha, hg⟩ => ⟨a, h g a ha, hg⟩) _ _ hr

def afterAll (g : Game) (acts : List Act) : Game := acts.foldl after g

def Admitted (admits : Game → Act → Prop) (g : Game) : List Act → Prop
  | [] => True
  | a :: acts => admits g a ∧ Admitted admits (g.after a) acts

instance Admitted.decidable {admits : Game → Act → Prop} [∀ g a, Decidable (admits g a)] :
    (g : Game) → (acts : List Act) → Decidable (Admitted admits g acts)
  | _, [] => inferInstanceAs (Decidable True)
  | g, a :: acts =>
    have : Decidable (Admitted admits (g.after a) acts) := Admitted.decidable (g.after a) acts
    inferInstanceAs (Decidable (_ ∧ _))

theorem Run.afterAll {admits : Game → Act → Prop} {g : Game} {acts : List Act}
    (h : Admitted admits g acts) : Run admits g (g.afterAll acts) := by
  induction acts generalizing g with
  | nil => exact .refl
  | cons a acts ih => exact .head ⟨a, h.1, rfl⟩ (ih h.2)

theorem findPlayer_eq_ok {g : Game} {id : PlayerId} {p : Player} :
    g.findPlayer id = .ok p ↔ p ∈ g.players.toList ∧ p.id = id := by
  have hf := Roll.find?_eq_some (r := g.players) (k := id) (a := p)
  unfold findPlayer
  split <;> simp_all [key]

theorem findParcel_eq_ok {g : Game} {id : ParcelId} {q : Parcel} :
    g.findParcel id = .ok q ↔ q ∈ g.parcels.toList ∧ q.id = id := by
  have hf := Roll.find?_eq_some (r := g.parcels) (k := id) (a := q)
  unfold findParcel
  split <;> simp_all [key]

end Game

namespace Sample

def farmer : Player := ⟨⟨.ofNat 1⟩, "farmer", 0, 0, .empty, 0⟩

def miller : Player := ⟨⟨.ofNat 2⟩, "miller", 0, 0, .empty, 0⟩

def meadow : Parcel :=
  ⟨⟨.ofNat 3⟩, "meadow", "north", ⟨.zero, .zero⟩, .clamp 10, 0, some farmer.id, some miller.id⟩

def marsh : Parcel :=
  ⟨⟨.ofNat 4⟩, "marsh", "south", ⟨.zero, .zero⟩, .clamp 6, 0, some miller.id, none⟩

def mill : AssetId := ⟨.ofNat 5⟩

def settling : List Act :=
  [.deal (.addPlayer farmer), .deal (.addPlayer miller), .deal (.addParcel meadow),
    .deal (.addParcel marsh),
    .deal (.build mill miller.id meadow.id ⟨"mill", .factory, 1, .clamp 5, true, 0⟩)]

def milling : List Act :=
  [.setRound 1, .reset, .distribute .fair (.clamp 12), .change mill miller.id (.clamp 3)]

end Sample
end Watershed
