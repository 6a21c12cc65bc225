import TreeQuery.Proofs.Forest.Copy

namespace TreeQuery

def Value.mapNode (f : NodeId → NodeId) : Value → Value
  | .node n => .node (f n)
  | v => v

theorem Value.mapNode_of_ne {f : NodeId → NodeId} {v : Value} (h : ∀ n, v ≠ .node n) :
    v.mapNode f = v := by
  cases v with
  | node n => exact absurd rfl (h n)
  | _ => rfl

theorem Value.mapNode_eq_iff {f : NodeId → NodeId} {v w : Value} (hv : ∀ n, v ≠ .node n) :
    w.mapNode f = v ↔ w = v := by
  cases w with
  | node n => exact ⟨fun e => absurd e.symm (hv (f n)), fun e => absurd e.symm (hv n)⟩
  | _ => rfl

theorem Value.mapNode_id (v : Value) : v.mapNode id = v := by
  cases v <;> rfl

namespace Forest

variable {F G H : Forest} {f g : NodeId → NodeId} {r n m p c : NodeId}

/-- A map takes the subtree of `r` to one with the same names and the same order of children. -/
structure Carries (F G : Forest) (f : NodeId → NodeId) (r : NodeId) : Prop where
  name_eq : ∀ m, F.Within m r → G.name (f m) = F.name m
  children_eq : ∀ m, F.Within m r → G.children (f m) = (F.children m).map f
  injective : ∀ m m', F.Within m r → F.Within m' r → f m = f m' → m = m'

theorem within_of_parent (h : F.parent c = some p) (hp : F.Within p r) : F.Within c r :=
  .head h hp

/-- Above a node within a subtree stands another one of it, unless the node is its root. -/
theorem within_parent (h : F.Within n r) (hne : n ≠ r) :
    ∃ p, F.parent n = some p ∧ F.Within p r := by
  rcases Relation.ReflTransGen.cases_head h with rfl | ⟨p, hp, hw⟩
  · exact absurd rfl hne
  · exact ⟨p, hp, hw⟩

namespace Carries

section WellFormed
variable (h : Carries F G f r) (hF : F.WellFormed) (hG : G.WellFormed)
include h hF

theorem at? (hm : F.Within m r) (path : NodePath) : G.at? (f m) path = (F.at? m path).map f := by
  obtain ⟨indices⟩ := path
  rw [Forest.at?, Forest.at?]
  induction indices generalizing m with
  | nil => rfl
  | cons i rest ih =>
    rw [List.foldlM_cons, List.foldlM_cons, child?, child?, h.children_eq m hm, List.getElem?_map]
    cases hc : (F.children m)[i]? with
    | none => rfl
    | some c =>
      exact ih (within_of_parent (hF.parent_of_mem (List.mem_of_getElem? hc)) hm)

theorem preorderTo (hm : F.Within m r) (fuel : Nat) :
    G.preorderTo fuel (f m) = (F.preorderTo fuel m).map f := by
  induction fuel generalizing m with
  | zero => rfl
  | succ fuel ih =>
    rw [preorderTo_succ, preorderTo_succ, h.children_eq m hm, List.map_cons, List.map_flatMap,
      List.flatMap_map]
    refine congrArg (f m :: ·) (List.flatMap_congr fun c hc => ?_)
    exact ih (within_of_parent (hF.parent_of_mem hc) hm)

include hG

theorem parent (hp : F.Within p r) (hm : F.parent m = some p) : G.parent (f m) = some (f p) := by
  refine hG.parent_of_mem ?_
  rw [h.children_eq p hp]
  exact List.mem_map_of_mem (hF.mem_children hm)

theorem within (hm : F.Within m r) : G.Within (f m) (f r) := by
  induction hm using Relation.ReflTransGen.head_induction_on with
  | refl => exact .refl
  | head hp hw ih => exact .head (h.parent hF hG hw hp) ih

/-- What is carried to a subtree is all of it. -/
theorem exists_of_within (hn : G.Within n (f r)) : ∃ m, F.Within m r ∧ f m = n := by
  induction hn using Relation.ReflTransGen.head_induction_on with
  | refl => exact ⟨r, .refl, rfl⟩
  | head hp _ ih =>
    obtain ⟨m, hm, rfl⟩ := ih
    have hmem := hG.mem_children hp
    rw [h.children_eq m hm] at hmem
    obtain ⟨c, hc, rfl⟩ := List.mem_map.1 hmem
    exact ⟨c, within_of_parent (hF.parent_of_mem hc) hm, rfl⟩

theorem position? (hp : F.Within p r) (hm : F.parent m = some p) :
    G.position? (f m) = F.position? m := by
  obtain ⟨i, hi, hget⟩ := position?_of_parent hF hm
  obtain ⟨j, hj, hget'⟩ := position?_of_parent hG (h.parent hF hG hp hm)
  -- the carried node stands where its own one does, and nowhere else
  have hat : (G.children (f p))[i]? = some (f m) := by
    rw [h.children_eq p hp, List.getElem?_map, hget]
    rfl
  obtain ⟨hlt, hi'⟩ := List.getElem?_eq_some_iff.1 hat
  obtain ⟨hlt', hj'⟩ := List.getElem?_eq_some_iff.1 hget'
  rw [hi, hj, (hG.children_nodup _).getElem_inj_iff.1 (hj'.trans hi'.symm)]

theorem pathFrom? (hm : F.Within m r) (fuel : Nat) :
    G.pathFrom? (f r) fuel (f m) = F.pathFrom? r fuel m := by
  induction fuel generalizing m with
  | zero => rfl
  | succ fuel ih =>
    rw [Forest.pathFrom?, Forest.pathFrom?]
    by_cases hr : m = r
    · rw [if_pos hr, if_pos (congrArg f hr)]
    · obtain ⟨p, hp, hw⟩ := within_parent hm hr
      rw [if_neg hr, if_neg (fun e => hr (h.injective m r hm .refl e)), h.parent hF hG hw hp, hp,
        h.position? hF hG hw hp]
      show (do return (← G.pathFrom? (f r) fuel (f p)) ++ [← F.position? m]) = _
      rw [ih hw]
      rfl

theorem trans (h' : Carries G H g (f r)) : Carries F H (g ∘ f) r where
  name_eq m hm := (h'.name_eq (f m) (h.within hF hG hm)).trans (h.name_eq m hm)
  children_eq m hm := by
    rw [Function.comp_apply, h'.children_eq (f m) (h.within hF hG hm), h.children_eq m hm,
      List.map_map]
  injective m m' hm hm' he :=
    h.injective m m' hm hm' (h'.injective _ _ (h.within hF hG hm) (h.within hF hG hm') he)

end WellFormed
end Carries

/-- The copy of a node when the subtree of `n` is copied; other nodes stay themselves. -/
def image (F : Forest) (n m : NodeId) : NodeId := (F.copied n m).getD m

theorem copyValue_eq_mapNode (F : Forest) (n : NodeId) (v : Value) :
    copyValue F.size (F.preorder n) v = v.mapNode (F.image n) := by
  cases v <;> rfl

theorem image_self (F : Forest) (n : NodeId) : F.image n n = (F.copy n).1 := by
  rw [image, copied_self]
  rfl

theorem copied_of_within (hF : F.WellFormed) (h : F.Within m n) :
    F.copied n m = some (F.image n m) := by
  obtain ⟨c, hc⟩ := Option.isSome_iff_exists.1 (isSome_copied.2 ((mem_preorder hF).2 h))
  rw [image, hc]
  rfl

theorem image_of_not_within (hF : F.WellFormed) (h : ¬ F.Within m n) : F.image n m = m := by
  rw [image]
  cases hc : F.copied n m with
  | none => rfl
  | some c => exact absurd ((mem_preorder hF).1 (mem_preorder_of_copied hc)) h

theorem carries_copy (hF : F.WellFormed) (n : NodeId) : Carries F (F.copy n).2 (F.image n) n where
  name_eq m hm := by rw [name, get_copied (copied_of_within hF hm)]
  children_eq m hm := by
    rw [children, get_copied (copied_of_within hF hm)]
    refine List.filterMap_eq_map_iff_forall_eq_some.2 fun c hc => ?_
    exact copied_of_within hF (within_of_parent (hF.parent_of_mem hc) hm)
  injective m m' hm hm' he :=
    copied_injective (copied_of_within hF hm) (he ▸ copied_of_within hF hm')

theorem value_image (hF : F.WellFormed) (h : F.Within m n) :
    (F.copy n).2.value (F.image n m) = (F.value m).mapNode (F.image n) := by
  rw [value, get_copied (copied_of_within hF h), copyValue_eq_mapNode]

theorem carries_id (hname : ∀ m, F.Within m r → G.name m = F.name m)
    (hchildren : ∀ m, F.Within m r → G.children m = F.children m) : Carries F G id r where
  name_eq := hname
  children_eq m hm := (hchildren m hm).trans (List.map_id _).symm
  injective _ _ _ _ he := he

theorem carries_copy_of_contains (hr : F.contains r = true) (n : NodeId) :
    Carries F (F.copy n).2 id r := by
  have hget (m : NodeId) (hm : F.Within m r) : (F.copy n).2.get m = F.get m :=
    get_copy_of_contains (contains_of_within hr hm)
  refine carries_id (fun m hm => ?_) fun m hm => ?_
  · rw [name, name, hget m hm]
  · rw [children, children, hget m hm]

end Forest
end TreeQuery
