namespace Watershed.Random

abbrev Block := Vector UInt32 16

def rotate (x : UInt32) (n : UInt32) : UInt32 := (x <<< n) ||| (x >>> (32 - n))

def quarter (s : Block) (a b c d : Fin 16) : Block :=
  let s := s.set a (s[a] + s[b])
  let s := s.set d (rotate (s[d] ^^^ s[a]) 16)
  let s := s.set c (s[c] + s[d])
  let s := s.set b (rotate (s[b] ^^^ s[c]) 12)
  let s := s.set a (s[a] + s[b])
  let s := s.set d (rotate (s[d] ^^^ s[a]) 8)
  let s := s.set c (s[c] + s[d])
  s.set b (rotate (s[b] ^^^ s[c]) 7)

def doubleRound (s : Block) : Block :=
  let s := quarter s 0 4 8 12
  let s := quarter s 1 5 9 13
  let s := quarter s 2 6 10 14
  let s := quarter s 3 7 11 15
  let s := quarter s 0 5 10 15
  let s := quarter s 1 6 11 12
  let s := quarter s 2 7 8 13
  quarter s 3 4 9 14

def rounds : Nat → Block → Block
  | 0, s => s
  | n + 1, s => rounds n (doubleRound s)

def input (key : Vector UInt32 8) (counter : UInt64) : Block :=
  #v[0x61707865, 0x3320646e, 0x79622d32, 0x6b206574,
    key[0], key[1], key[2], key[3], key[4], key[5], key[6], key[7],
    counter.toUInt32, (counter >>> 32).toUInt32, 0, 0]

def block (key : Vector UInt32 8) (counter : UInt64) : Block :=
  let start := input key counter
  Vector.zipWith (· + ·) start (rounds 6 start)

def growStep (state : UInt64) : UInt64 := state * 6364136223846793005 + 11634580027462260723

def growWord (state : UInt64) : UInt32 :=
  let x := (((state >>> 18) ^^^ state) >>> 27).toUInt32
  let n := (state >>> 59).toUInt32
  (x >>> n) ||| (x <<< ((32 - n) % 32))

def growState (state : UInt64) : Nat → UInt64
  | 0 => state
  | n + 1 => growStep (growState state n)

def growKey (seed : UInt64) : Vector UInt32 8 :=
  Vector.ofFn fun i => growWord (growState seed (i.val + 1))

def cipherWord (key : Vector UInt32 8) (n : Nat) : UInt64 :=
  let b := block key (UInt64.ofNat (n / 8))
  let i := n % 8
  let low := b.getD (2 * i) 0
  let high := b.getD (2 * i + 1) 0
  low.toUInt64 ||| (high.toUInt64 <<< 32)

end Watershed.Random
