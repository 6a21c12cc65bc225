import TreeQuery.Check
import TreeQuery.Proofs.Forest.Grown
import TreeQuery.Proofs.Json.Stored

namespace TreeQuery

open Forest (Grows)

mutual
theorem Forest.grows_addJson {F : Forest} (hF : F.WellFormed) (name : String)
    (document : Json) :
    F.Grows (F.addJson name document).2 [(F.addJson name document).1]
      (document.value :: document.contents.map Json.value) := by
  match document with
  | .array items =>
    rw [Forest.addJson, Json.contents]
    exact (Forest.grows_addItems hF items).createWith name .null
  | .object members =>
    rw [Forest.addJson, Json.contents]
    exact (Forest.grows_addMembers hF members).createWith name .null
  | .null => exact Grows.create hF name _
  | .boolean _ => exact Grows.create hF name _
  | .integer _ => exact Grows.create hF name _
  | .float _ => exact Grows.create hF name _
  | .string _ => exact Grows.create hF name _

theorem Forest.grows_addItems {F : Forest} (hF : F.WellFormed) (items : List Json) :
    F.Grows (F.addItems items).2 (F.addItems items).1
      ((Json.itemContents items).map Json.value) := by
  match items with
  | [] => exact Grows.nil hF
  | item :: rest =>
    have hitem := Forest.grows_addJson hF "" item
    rw [Forest.addItems, Json.itemContents, ← List.cons_append, List.map_append]
    exact hitem.append (Forest.grows_addItems hitem.wellFormed rest)

theorem Forest.grows_addMembers {F : Forest} (hF : F.WellFormed)
    (members : List (String × Json)) :
    F.Grows (F.addMembers members).2 (F.addMembers members).1
      ((Json.memberContents members).map Json.value) := by
  match members with
  | [] => exact Grows.nil hF
  | (name, value) :: rest =>
    have hvalue := Forest.grows_addJson hF name value
    rw [Forest.addMembers, Json.memberContents, ← List.cons_append, List.map_append]
    exact hvalue.append (Forest.grows_addMembers hvalue.wellFormed rest)
end

/-- The nodes below the root of a document's tree have the values of the document's contents. -/
theorem Forest.values_descendants_addJson {F : Forest} (hF : F.WellFormed) (name : String)
    (document : Json) :
    ((F.addJson name document).2.descendants (F.addJson name document).1).map
      (F.addJson name document).2.value = document.contents.map Json.value := by
  have hvalues := (Forest.grows_addJson hF name document).values
  rw [List.flatMap_singleton] at hvalues
  rw [Forest.descendants, List.map_tail, hvalues, List.tail_cons]

end TreeQuery
