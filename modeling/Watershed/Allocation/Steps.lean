import Watershed.Allocation.Draw

namespace Watershed.Allocation

def richerOf (home : ParcelId) (best : Option (ParcelId × Count)) (x : ParcelId × Count) :
    Option (ParcelId × Count) :=
  if x.1 = home ∨ x.2 = 0 then best
  else
    match best with
    | none => some x
    | some y => if y.2 < x.2 then some x else some y

def search (home : ParcelId) (available : Plan) : Option (ParcelId × Count) :=
  available.toList.foldl (richerOf home) none

structure Drawing where
  available : Plan
  outstanding : Count
  drawn : List (ParcelId × Count)

namespace Drawing

def take (d : Drawing) (x : ParcelId × Count) : Drawing :=
  let taken := min x.2 d.outstanding
  ⟨d.available.put (x.1, x.2.subDownTo taken), d.outstanding.subDownTo taken, d.drawn ++ [(x.1, taken)]⟩

def start (owned : Plan) (home : ParcelId) (required : Count) : Drawing :=
  let d : Drawing := ⟨owned, required, []⟩
  match owned.find? home with
  | some x => if 0 < min x.2 required then d.take x else d
  | none => d

inductive Turn
  | done (answer : Except Count (List (ParcelId × Count)))
  | onward (d : Drawing)

def turn (home : ParcelId) (d : Drawing) : Turn :=
  if 0 < d.outstanding then
    match search home d.available with
    | none => .done (.error d.outstanding)
    | some x => .onward (d.take x)
  else .done (.ok d.drawn)

def run (home : ParcelId) : Nat → Drawing → Option (Except Count (List (ParcelId × Count)))
  | 0, _ => none
  | turns + 1, d =>
    match d.turn home with
    | .done answer => some answer
    | .onward d => run home turns d

end Drawing
end Watershed.Allocation
