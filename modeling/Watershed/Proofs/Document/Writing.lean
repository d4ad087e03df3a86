import Watershed.Document.Writing

namespace Watershed.Json

theorem toList_foldl_push (cs : List Char) (out : String) :
    (cs.foldl String.push out).toList = out.toList ++ cs := by
  induction cs generalizing out with
  | nil => simp
  | cons c cs ih =>
    rw [List.foldl_cons, ih, String.toList_push, List.append_assoc, List.singleton_append]

theorem toList_foldl_charText (cs : List Char) (out : String) :
    (cs.foldl (fun out c => (charText c).foldl String.push out) out).toList =
      out.toList ++ cs.flatMap charText := by
  induction cs generalizing out with
  | nil => simp
  | cons c cs ih =>
    rw [List.foldl_cons, ih, toList_foldl_push, List.flatMap_cons, List.append_assoc]

theorem toList_pushText (out s : String) :
    (pushText out s).toList = out.toList ++ quoted .ascii s := by
  rw [pushText, String.toList_push, toList_foldl_charText, String.toList_push, List.append_assoc,
    List.append_assoc]
  rfl

theorem toList_pushScalar (out : String) (s : Scalar) :
    (pushScalar out s).toList = out.toList ++ scalarChars .ascii s := by
  cases s with
  | null => exact String.toList_append
  | bool b =>
    cases b with
    | false => exact String.toList_append
    | true => exact String.toList_append
  | int n => exact String.toList_append
  | binary x => exact String.toList_append
  | text s => exact toList_pushText out s
  | plain s => exact toList_pushText out s
  | name s => exact toList_pushText out s

mutual

theorem toList_push (out : String) : ∀ d : Datum, (push out d).toList = out.toList ++ chars .ascii d
  | .scalar s => by rw [push, chars, toList_pushScalar]
  | .list items => by simp [push, chars, toList_pushItems]
  | .pureList items => by simp [push, chars, toList_pushItems]
  | .record fields => by simp [push, chars, toList_pushFields]

theorem toList_pushItems (out : String) : ∀ items : List Datum,
    (pushItems out items).toList = out.toList ++ joined (items.map fun d => chars .ascii d)
  | [] => by simp [pushItems, joined]
  | [d] => by rw [pushItems, toList_push, List.map_singleton, joined]
  | d :: d' :: rest => by simp [pushItems, toList_pushItems, toList_push, joined]

theorem toList_pushFields (out : String) : ∀ fields : List (Scalar × Datum),
    (pushFields out fields).toList =
      out.toList ++ joined (fields.map fun f => scalarChars .ascii f.1 ++ ':' :: chars .ascii f.2)
  | [] => by simp [pushFields, joined]
  | [f] => by rw [pushFields, toList_pushField, List.map_singleton, joined]
  | f :: f' :: rest => by simp [pushFields, toList_pushFields, toList_pushField, joined]

theorem toList_pushField (out : String) : ∀ f : Scalar × Datum,
    (pushField out f).toList = out.toList ++ (scalarChars .ascii f.1 ++ ':' :: chars .ascii f.2)
  | (k, d) => by simp [pushField, toList_push, toList_pushScalar]

end

theorem write_eq (d : Datum) : write d = writeWith .ascii d := by
  rw [← String.toList_inj, write, toList_push, writeWith]
  simp

end Watershed.Json
