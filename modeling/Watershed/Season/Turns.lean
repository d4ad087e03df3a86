import Watershed.Season.Play

namespace Watershed

inductive Asking
  | whole
  | look
  | part (n : Count)
deriving DecidableEq, Repr

def Asking.steps : Asking → Nat
  | .whole => 0
  | .look => 1
  | .part _ => 2

structure Errand where
  wants : List Asset
  next : Asking
  tally : Tally

namespace Errand

def start (assets : List Asset) : Errand := ⟨assets, .whole, ⟨0, 0⟩⟩

def settle (e : Errand) (got : Bool) : Errand := ⟨e.wants.tail, .whole, e.tally.count got⟩

def togo (e : Errand) : Nat := 3 * e.wants.length - e.next.steps

def step (e : Errand) (s : Season) (p : PlayerId) : Season × Errand :=
  match e.wants with
  | [] => (s, e)
  | a :: _ =>
    match e.next with
    | .whole =>
      let full := s.changeAtDesk a.id p a.usage
      if Season.succeeded full then (full.season, e.settle true)
      else if a.divisible then (full.season, { e with next := .look })
      else (full.season, e.settle false)
    | .look => (s, { e with next := .part (min (s.waterLeft p) a.usage) })
    | .part n =>
      let part := s.changeAtDesk a.id p n
      (part.season, e.settle (Season.succeeded part))

end Errand

structure Hall where
  season : Season
  errands : PlayerId → Errand

namespace Hall

def turn (h : Hall) (p : PlayerId) : Hall :=
  let (s, e) := (h.errands p).step h.season p
  ⟨s, fun q => if q = p then e else h.errands q⟩

def turns (h : Hall) (order : List PlayerId) : Hall := order.foldl turn h

def Settled (h : Hall) : Prop := ∀ p, (h.errands p).wants = []

def remaining (h : Hall) (players : List PlayerId) : List PlayerId :=
  players.flatMap fun p => List.replicate (h.errands p).togo p

def tallies (h : Hall) (players : List PlayerId) : List (PlayerId × Tally) :=
  players.map fun p => (p, (h.errands p).tally)

end Hall

namespace Season

def hall (s : Season) : Hall := ⟨s, fun p => .start (wants s.game p)⟩

def submitIn (order : List PlayerId) : Submission := fun s =>
  let h := s.hall.turns order
  let h := h.turns (h.remaining (askers s.game))
  (h.season, h.tallies (askers s.game))

def playIn (orders : Count → List PlayerId) (s : Season) : Playthrough :=
  s.playBy fun t => t.submitIn (orders t.clock.round)

end Season
end Watershed
