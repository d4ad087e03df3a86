import Watershed.Roll
import Watershed.Text.Numeral

namespace Watershed

structure Uuid where
  val : Nat
  val_lt : val < 340282366920938463463374607431768211456
deriving DecidableEq, Repr

namespace Uuid

theorem ext {a b : Uuid} (h : a.val = b.val) : a = b := by
  cases a; cases b; cases h; rfl

instance : Key Uuid := Key.ofRank Uuid.val ext
instance : Inhabited Uuid := ⟨⟨0, by decide⟩⟩

def ofNat? (n : Nat) : Option Uuid :=
  if h : n < 340282366920938463463374607431768211456 then some ⟨n, h⟩ else none

def ofNat (n : Nat) : Uuid := ⟨n % 340282366920938463463374607431768211456, Nat.mod_lt _ (by decide)⟩

def ofCount (c : Count) : Uuid := ⟨c.val, Nat.lt_trans c.val_lt (by decide)⟩

/-- Identifiers in the order in which they are given out, all above those of counts. -/
def serial (k : Nat) : Uuid := ofNat (18446744073709551616 + k)

def hexDigits (n : Nat) : Nat → List Char
  | 0 => []
  | k + 1 => hexDigits (n / 16) k ++ [Nat.digitChar (n % 16)]

def groups : List Nat := [8, 4, 4, 4, 12]

def joinGroups : List Nat → List Char → List Char
  | [], _ => []
  | [k], s => s.take k
  | k :: ks, s => s.take k ++ '-' :: joinGroups ks (s.drop k)

def text (u : Uuid) : String := String.ofList (joinGroups groups (hexDigits u.val 32))

def splitGroups : List Nat → List Char → Option (List Char)
  | [], _ => none
  | [k], s => if s.length = k then some s else none
  | k :: ks, s =>
    match s.drop k with
    | '-' :: rest => (splitGroups ks rest).map (s.take k ++ ·)
    | _ => none

def hasScheme (s : List Char) : Bool := (s.take 9).map Char.toLower = "urn:uuid:".toList

def digits? (s : List Char) : Option (List Char) :=
  match s.length with
  | 32 => some s
  | 36 => splitGroups groups s
  | 38 =>
    if s.head? = some '\x7b' ∧ s.getLast? = some '\x7d' then splitGroups groups (s.drop 1).dropLast
    else none
  | 45 => if hasScheme s then splitGroups groups (s.drop 9) else none
  | _ => none

def read? (s : List Char) : Option Uuid := do
  let digits ← digits? s
  let n ← Text.naturalIn? 16 digits
  ofNat? n

end Uuid

structure PlayerId where
  uuid : Uuid
deriving DecidableEq, Repr, Inhabited

structure ParcelId where
  uuid : Uuid
deriving DecidableEq, Repr, Inhabited

structure AssetId where
  uuid : Uuid
deriving DecidableEq, Repr, Inhabited

structure EntryId where
  uuid : Uuid
deriving DecidableEq, Repr, Inhabited

theorem PlayerId.ext {a b : PlayerId} (h : a.uuid.val = b.uuid.val) : a = b := by
  cases a; cases b; cases Uuid.ext h; rfl

theorem ParcelId.ext {a b : ParcelId} (h : a.uuid.val = b.uuid.val) : a = b := by
  cases a; cases b; cases Uuid.ext h; rfl

theorem AssetId.ext {a b : AssetId} (h : a.uuid.val = b.uuid.val) : a = b := by
  cases a; cases b; cases Uuid.ext h; rfl

theorem EntryId.ext {a b : EntryId} (h : a.uuid.val = b.uuid.val) : a = b := by
  cases a; cases b; cases Uuid.ext h; rfl

instance : Key PlayerId := Key.ofRank (fun i => i.uuid.val) PlayerId.ext
instance : Key ParcelId := Key.ofRank (fun i => i.uuid.val) ParcelId.ext
instance : Key AssetId := Key.ofRank (fun i => i.uuid.val) AssetId.ext
instance : Key EntryId := Key.ofRank (fun i => i.uuid.val) EntryId.ext

instance : Keyed ParcelId ParcelId := ⟨id⟩

abbrev Naming := Uuid → String

end Watershed
