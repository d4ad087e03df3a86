import Watershed.Distribution.Share

namespace Watershed.Allocation

def richest (home : ParcelId) : List (ParcelId × Count) → Option (ParcelId × Count)
  | [] => none
  | x :: rest =>
    match richest home rest with
    | none => if x.1 = home ∨ x.2 = 0 then none else some x
    | some y => if x.1 = home ∨ x.2 < y.2 then some y else some x

theorem richest_pos {home : ParcelId} {l : List (ParcelId × Count)} {x : ParcelId × Count}
    (h : richest home l = some x) : 0 < x.2.val := by
  induction l generalizing x with
  | nil => cases h
  | cons y rest ih =>
    simp only [richest] at h
    split at h
    · split at h
      · cases h
      · rename_i hy
        cases h
        have hne : y.2.val ≠ 0 := fun e => hy (Or.inr (Count.ext e))
        omega
    · rename_i z hz
      have hpos := ih hz
      split at h
      · cases h
        exact hpos
      · rename_i hy
        cases h
        have hle : ¬ y.2.val < z.2.val := fun hlt => hy (Or.inr hlt)
        omega

def drawRichest (home : ParcelId) (pool : Plan) (outstanding : Count) :
    Except Count (List (ParcelId × Count)) :=
  if outstanding = 0 then .ok []
  else
    match _found : richest home pool.toList with
    | none => .error outstanding
    | some x =>
      let taken := min x.2 outstanding
      match drawRichest home (pool.put (x.1, x.2.subDownTo taken)) (outstanding.subDownTo taken) with
      | .error n => .error n
      | .ok rest => .ok ((x.1, taken) :: rest)
termination_by outstanding.val
decreasing_by
  have hx := richest_pos _found
  have ho : outstanding.val ≠ 0 := fun e => by
    rename_i hne
    exact hne (Count.ext e)
  simp only [Count.val_subDownTo, Count.val_min]
  omega

def draw (pool : Plan) (home : ParcelId) (required : Count) :
    Except Count (List (ParcelId × Count)) :=
  let taken := min (pool.on home) required
  if taken = 0 then drawRichest home pool required
  else
    (drawRichest home (pool.put (home, (pool.on home).subDownTo taken))
      (required.subDownTo taken)).map ((home, taken) :: ·)

def deal (part : Count) : Count → List ParcelId → List (ParcelId × Count)
  | _, [] => []
  | outstanding, id :: rest =>
    if outstanding = 0 then []
    else
      let given := min part outstanding
      (id, given) :: deal part (outstanding.subDownTo given) rest

def evenPart (c : Count) (n : Nat) : Count := Count.clamp ((c.val + n - 1) / n)

def giveBack (owned : Plan) (home : ParcelId) (returned : Count) : List (ParcelId × Count) :=
  if owned.size = 0 then []
  else if owned.contains home then [(home, returned)]
  else deal (evenPart returned owned.size) returned owned.keys

end Watershed.Allocation
