import Watershed.Count
import Watershed.Random.Cipher

namespace Watershed.Random

def countOfWord (w : UInt64) : Count := ⟨w.toNat, w.toNat_lt⟩

def wordOfCount (c : Count) : UInt64 := UInt64.ofNat c.val

structure Stream where
  word : Nat → Count
  drawn : Nat

namespace Stream

def seeded (seed : Count) : Stream :=
  let key := growKey (wordOfCount seed)
  ⟨fun n => countOfWord (cipherWord key n), 0⟩

def cycle (script : List Count) : Stream :=
  ⟨fun n => script[n % script.length]?.getD 0, 0⟩

def draw (s : Stream) : Count × Stream := (s.word s.drawn, { s with drawn := s.drawn + 1 })

def wordBound : Nat := 18446744073709551616

/-- A number from zero to `high`: the high half of the product of a word and the size of the range,
with the carry that a second word can bring when the low half leaves it open. -/
def upTo (high : Count) (s : Stream) : Count × Stream :=
  let (word, s) := s.draw
  let range := high.val + 1
  if range = wordBound then (word, s)
  else
    let product := word.val * range
    let whole := product / wordBound
    let low := product % wordBound
    if wordBound - range < low then
      let (more, s) := s.draw
      let carry := (low + more.val * range / wordBound) / wordBound
      (Count.clamp (whole + carry), s)
    else (Count.clamp whole, s)

end Stream
end Watershed.Random
