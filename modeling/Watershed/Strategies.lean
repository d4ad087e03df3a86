import Watershed.Config
import Watershed.Distribution.Distributor
import Watershed.Economy.Multipliers
import Watershed.Rainfall

namespace Watershed

structure Strategies where
  rainfall : Rainfall
  distributor : Distributor
  allocator : AllocatorKind
  economy : Economy

namespace Strategies

def freshRainfall (seed : Count) : RainfallKind → Rainfall
  | .utopian => .utopian none
  | .series => .series none
  | .belowIdeal => .belowIdeal none (.seeded seed)

def freshDistributor : DistributorKind → Distributor
  | .fair => .fair
  | .perParcel => .perParcel
  | .tiered => .tiered none
  | .playerOnly => .playerOnly

/-- Water is drawn from parcels, so that a distributor has to put some there. -/
def checkCompatible (s : Strategies) : Except ConfigFault Unit :=
  if s.distributor.writesParcels then .ok ()
  else .error (.dryAllocator s.distributor.name s.allocator.word)

def ofKinds (kinds : StrategyKinds) (water : WaterSettings) (economy : EconomySettings)
    (seed : Count) : Except ConfigFault Strategies := do
  let rainfall ← (freshRainfall seed kinds.rainfall).configure water
  let distributor ← (freshDistributor kinds.distributor).configure water
  let economy ← Economy.ofSettings economy
  let s : Strategies := ⟨rainfall, distributor, kinds.allocator, economy⟩
  s.checkCompatible
  .ok s

end Strategies
end Watershed
