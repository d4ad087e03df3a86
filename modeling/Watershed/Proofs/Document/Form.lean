import Watershed.Document.Records
import Watershed.Proofs.Decimal.Reading
import Watershed.Proofs.Document.Json
import Watershed.Proofs.Ident
import Watershed.Proofs.Roll.Lookup

namespace Watershed

theorem Scalar.nameCount?_text (c : Count) : nameCount? c.text = some c := by
  have hread : (Text.natural? (Nat.toDigits 10 c.val)).bind Count.ofNat? = some c := by
    rw [Text.natural?, Text.naturalIn?_toDigits (by decide) (by decide), Option.bind_some]
    exact Count.ofNat?_eq_some.mpr rfl
  rw [nameCount?, Count.text, String.toList_ofList]
  split
  · rename_i h
    exact congrArg some (Count.ext (Text.toDigits_eq_zero_cons (by decide) h).1.symm)
  · rename_i hmore h
    exact absurd (Text.toDigits_eq_zero_cons (by decide) h).2 hmore
  · exact hread

theorem Roll.ofList_toList {α κ : Type} [Key κ] [Keyed α κ] (r : Roll α) : ofList r.toList = r :=
  ext_mem fun _ => mem_ofList_of_nodup r.nodup_keys

namespace Datum

structure Faithful {α : Type} (write : α → Datum) (read : Datum → Option α) : Prop where
  exact : ∀ a, Json.Exact (write a)
  present : ∀ a, (write a).isNothing = false
  reads : ∀ a, read (write a) = some a

theorem faithful_text : Faithful text text? := ⟨.text, fun _ => rfl, fun _ => rfl⟩

theorem faithful_bool : Faithful bool bool? := ⟨.bool, fun _ => rfl, fun _ => rfl⟩

theorem faithful_count : Faithful count count? where
  exact c := .int ⟨by have := c.val_lt; omega, by have := c.val_lt; rw [Json.significantBound]; omega⟩
  present _ := rfl
  reads c := Count.ofNat?_eq_some.mpr rfl

theorem faithful_coordinate : Faithful (fun x : Coordinate => int x.val) coordinate? where
  exact x := .int ⟨x.ge, by have := x.lt; rw [Json.significantBound]; omega⟩
  present _ := rfl
  reads x := dif_pos ⟨x.ge, x.lt⟩

theorem faithful_uuid : Faithful uuid uuid? where
  exact u := .text u.text
  present _ := rfl
  reads u := by
    simp only [uuid, text, uuid?, Scalar.text?, Option.bind_some, Uuid.read?_text]

theorem faithful_word {α : Type} {all : List α} {word : α → String}
    (h : ∀ a, all.find? (word · = word a) = some a) :
    Faithful (fun a => text (word a)) (word? all word) :=
  ⟨fun a => .text (word a), fun _ => rfl, h⟩

theorem Faithful.map {α β : Type} {write : α → Datum} {read : Datum → Option α}
    (h : Faithful write read) {f : α → β} {g : β → α} (hfg : ∀ b, f (g b) = b) :
    Faithful (fun b => write (g b)) (fun d => (read d).map f) where
  exact b := h.exact (g b)
  present b := h.present (g b)
  reads b := by rw [h.reads, Option.map_some, hfg]

theorem Faithful.option {α : Type} {write : α → Datum} {read : Datum → Option α}
    (h : Faithful write read) (o : Option α) :
    (Datum.option write o).option? read = some o := by
  cases o with
  | none => rfl
  | some a => rw [Datum.option, option?, h.present, if_neg Bool.false_ne_true, h.reads, Option.map_some]

theorem Faithful.exact_option {α : Type} {write : α → Datum} {read : Datum → Option α}
    (h : Faithful write read) (o : Option α) : Json.Exact (Datum.option write o) := by
  cases o with
  | none => exact .null
  | some a => exact h.exact a

theorem mapM_map_eq_some {α β γ : Type} {f : β → Option γ} {g : α → β} {k : α → γ} {l : List α}
    (h : ∀ a ∈ l, f (g a) = some (k a)) : (l.map g).mapM f = some (l.map k) := by
  induction l with
  | nil => rfl
  | cons a l ih =>
    obtain ⟨ha, hl⟩ := List.forall_mem_cons.mp h
    rw [List.map_cons, List.mapM_cons, ha, ih hl]
    rfl

theorem Faithful.list {α : Type} {write : α → Datum} {read : Datum → Option α}
    (h : Faithful write read) : Faithful (fun l => .list (l.map write)) (list? read) where
  exact l := .list fun d hd => by
    obtain ⟨a, _, rfl⟩ := List.mem_map.mp hd
    exact h.exact a
  present _ := rfl
  reads l := by
    rw [list?, mapM_map_eq_some (k := id) fun a _ => h.reads a, List.map_id]

theorem Faithful.roll {κ ν : Type} [Key κ] {writeKey : κ → String} {readKey : Scalar → Option κ}
    (hkey : ∀ k, readKey (.name (writeKey k)) = some k) {write : ν → Datum} {read : Datum → Option ν}
    (h : Faithful write read) : Faithful (Datum.roll writeKey write) (roll? readKey read) where
  exact r := .named fun f hf => by
    obtain ⟨x, _, rfl⟩ := List.mem_map.mp hf
    exact h.exact x.2
  present _ := rfl
  reads r := by
    rw [Datum.roll, named, roll?, List.map_map,
      mapM_map_eq_some (k := id) fun x _ => by simp [hkey, h.reads], List.map_id,
      Option.map_some, Roll.ofList_toList]

end Datum

namespace Form

theorem known?_named {names : List String} {fields : List (String × Datum)}
    (hmem : ∀ f ∈ fields, f.1 ∈ names) (hnodup : (fields.map Prod.fst).Nodup) :
    known? names (fields.map fun f => (.name f.1, f.2)) = some fields := by
  induction fields with
  | nil => rfl
  | cons f fields ih =>
    obtain ⟨hf, hmem⟩ := List.forall_mem_cons.mp hmem
    obtain ⟨hnew, hnodup⟩ := List.nodup_cons.mp hnodup
    have hother : fields.any (·.1 = f.1) = false := by
      simpa using fun b d hd (e : b = f.1) => hnew (e ▸ List.mem_map_of_mem hd)
    rw [List.map_cons, known?, ih hmem hnodup]
    simp [Scalar.text?, hf, hother]

theorem ofDatum?_named {names : List String} (hnodup : names.Nodup)
    {fields : List (String × Datum)} (hnames : fields.map Prod.fst = names) :
    ofDatum? names (.named fields) = some ⟨fields, true⟩ := by
  subst hnames
  rw [Datum.named, ofDatum?, known?_named (fun f hf => List.mem_map_of_mem hf) hnodup]
  rfl

section

variable {α : Type} {name other : String} {d : Datum} {fields : List (String × Datum)} {byName : Bool}
  {read : Datum → Option α}

theorem lookup_cons_of_ne (h : name ≠ other) :
    List.lookup name ((other, d) :: fields) = List.lookup name fields := by
  rw [List.lookup_cons, beq_eq_false_iff_ne.mpr h]

@[simp] theorem require_cons_self : require ⟨(name, d) :: fields, byName⟩ name read = read d := by
  rw [require, List.lookup_cons_self, Option.bind_some]

@[simp] theorem require_cons_of_ne (h : name ≠ other) :
    require ⟨(other, d) :: fields, byName⟩ name read = require ⟨fields, byName⟩ name read := by
  rw [require, require, lookup_cons_of_ne h]

@[simp] theorem optional_cons_self :
    optional ⟨(name, d) :: fields, byName⟩ name read = d.option? read := by
  rw [optional, List.lookup_cons_self]

@[simp] theorem optional_cons_of_ne (h : name ≠ other) :
    optional ⟨(other, d) :: fields, byName⟩ name read = optional ⟨fields, byName⟩ name read := by
  rw [optional, optional, lookup_cons_of_ne h]

@[simp] theorem withDefault_cons_self {standard : α} :
    withDefault ⟨(name, d) :: fields, byName⟩ name standard read = read d := by
  rw [withDefault, List.lookup_cons_self]

@[simp] theorem withDefault_cons_of_ne {standard : α} (h : name ≠ other) :
    withDefault ⟨(other, d) :: fields, byName⟩ name standard read =
      withDefault ⟨fields, byName⟩ name standard read := by
  rw [withDefault, withDefault, lookup_cons_of_ne h]

end

end Form
end Watershed
