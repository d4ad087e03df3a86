import Watershed.Roll

namespace Watershed

inductive AssetKind
  | crops
  | houses
  | factory
deriving DecidableEq, Repr, Inhabited

namespace AssetKind

def all : List AssetKind := [crops, houses, factory]

def position : AssetKind → Nat
  | crops => 0
  | houses => 1
  | factory => 2

instance : Key AssetKind := Key.ofRank position fun {a b} h => by cases a <;> cases b <;> simp_all [position]

def maxLevel : AssetKind → Nat
  | crops => 3
  | houses => 3
  | factory => 3

def name : AssetKind → String
  | crops => "Crops"
  | houses => "Houses"
  | factory => "Factory"

def word : AssetKind → String
  | crops => "crops"
  | houses => "houses"
  | factory => "factory"

end AssetKind

inductive Phase
  | build
  | allocation
  | revenue
deriving DecidableEq, Repr, Inhabited

namespace Phase

def all : List Phase := [build, allocation, revenue]

def name : Phase → String
  | build => "Build"
  | allocation => "Allocation"
  | revenue => "Revenue"

def next : Phase → Phase
  | build => allocation
  | allocation => revenue
  | revenue => build

end Phase

inductive Party
  | world
  | parcel
  | asset
  | void
deriving DecidableEq, Repr, Inhabited

namespace Party

def all : List Party := [world, parcel, asset, void]

def name : Party → String
  | world => "World"
  | parcel => "Parcel"
  | asset => "Asset"
  | void => "Void"

def Holds (p : Party) : Prop := p = parcel ∨ p = asset

instance (p : Party) : Decidable p.Holds := inferInstanceAs (Decidable (_ ∨ _))

end Party

inductive EntryKind
  | rainfall
  | allocate
  | giveBack
  | forfeit
  | evaporate
  | consume
deriving DecidableEq, Repr, Inhabited

namespace EntryKind

def all : List EntryKind := [rainfall, allocate, giveBack, forfeit, evaporate, consume]

def position : EntryKind → Nat
  | rainfall => 0
  | allocate => 1
  | giveBack => 2
  | forfeit => 3
  | evaporate => 4
  | consume => 5

instance : Key EntryKind := Key.ofRank position fun {a b} h => by cases a <;> cases b <;> simp_all [position]

def name : EntryKind → String
  | rainfall => "Rainfall"
  | allocate => "Allocate"
  | giveBack => "GiveBack"
  | forfeit => "Forfeit"
  | evaporate => "Evaporate"
  | consume => "Consume"

def source : EntryKind → Party
  | rainfall => .world
  | allocate => .parcel
  | giveBack => .asset
  | forfeit => .asset
  | evaporate => .parcel
  | consume => .asset

def target : EntryKind → Party
  | rainfall => .parcel
  | allocate => .asset
  | giveBack => .parcel
  | forfeit => .void
  | evaporate => .void
  | consume => .void

def internal (k : EntryKind) : Bool := k = allocate || k = giveBack

def sink (k : EntryKind) : Bool := k = forfeit || k = evaporate || k = consume

theorem internal_iff {k : EntryKind} : k.internal = true ↔ k.source.Holds ∧ k.target.Holds := by
  cases k <;> decide

end EntryKind
end Watershed
