import Mathlib.Data.List.Find
import TreeQuery.Proofs.Forest.Carried

namespace TreeQuery.Forest

variable {F G : Forest} {f : NodeId → NodeId} {r n m p a : NodeId}

theorem lastWithin_stable (hF : F.WellFormed) {fuel : Nat}
    (h : F.size < fuel + (F.lineage n).length) :
    F.lastWithin fuel n = F.lastWithin (fuel + 1) n := by
  induction fuel generalizing n with
  | zero =>
    have hn : ¬ F.contains n = true := by
      intro hn
      have := length_lineage_le hF hn
      omega
    rw [lastWithin, lastWithin, children_of_not_contains hn]
    rfl
  | succ fuel ih =>
    rw [lastWithin, lastWithin]
    cases hc : (F.children n).getLast? with
    | none => rfl
    | some c =>
      refine ih ?_
      rw [lineage_of_parent hF (hF.parent_of_mem (List.mem_of_getLast? hc)), List.length_cons]
      omega

/-- No depth that is greater than the bound leads any further. -/
theorem lastWithin_eq (hF : F.WellFormed) (n : NodeId) {fuel : Nat} (h : F.size ≤ fuel) :
    F.lastWithin fuel n = F.lastWithin F.size n := by
  induction fuel, h using Nat.le_induction with
  | base => rfl
  | succ fuel h ih =>
    have hpos : 0 < (F.lineage n).length := Nat.succ_pos _
    exact (lastWithin_stable hF (by omega)).symm.trans ih

theorem within_lastWithin (hF : F.WellFormed) (fuel : Nat) (hn : F.Within n r) :
    F.Within (F.lastWithin fuel n) r := by
  induction fuel generalizing n with
  | zero => exact hn
  | succ fuel ih =>
    rw [lastWithin]
    cases hc : (F.children n).getLast? with
    | none => exact hn
    | some c => exact ih (within_of_parent (hF.parent_of_mem (List.mem_of_getLast? hc)) hn)

theorem Carries.lastWithin (h : Carries F G f r) (hF : F.WellFormed) (fuel : Nat)
    (hm : F.Within m r) : G.lastWithin fuel (f m) = f (F.lastWithin fuel m) := by
  induction fuel generalizing m with
  | zero => rfl
  | succ fuel ih =>
    rw [Forest.lastWithin, Forest.lastWithin, h.children_eq m hm, List.getLast?_map]
    cases hc : (F.children m).getLast? with
    | none => rfl
    | some c => exact ih (within_of_parent (hF.parent_of_mem (List.mem_of_getLast? hc)) hm)

/-- The tree of `r`, into which all its values lead, is carried by `f` with these values. -/
structure Mirrors (F G : Forest) (f : NodeId → NodeId) (r : NodeId) : Prop
    extends Carries F G f r where
  wellFormed : F.WellFormed
  wellFormed' : G.WellFormed
  root : F.parent r = none
  root' : G.parent (f r) = none
  value_eq : ∀ m, F.Within m r → G.value (f m) = (F.value m).mapNode f
  closed : ∀ m t, F.Within m r → F.value m = .node t → F.Within t r

theorem within_above (hr : F.parent r = none) (hm : F.Within m r) (ha : F.Within m a) :
    F.Within a r := by
  rcases within_or_within hm ha with h | h
  · rcases Relation.ReflTransGen.cases_head h with rfl | ⟨p, hp, -⟩
    · exact .refl
    · exact absurd (hr.symm.trans hp) nofun
  · exact h

namespace Mirrors

variable (h : Mirrors F G f r)
include h

theorem within_of_child (hm : F.Within m r) (hc : n ∈ F.children m) : F.Within n r :=
  within_of_parent (h.wellFormed.parent_of_mem hc) hm

theorem within_of_lineage (hm : F.Within m r) (ha : a ∈ F.lineage m) : F.Within a r :=
  within_above h.root hm ((mem_lineage h.wellFormed).1 ha)

theorem within_parent (hm : F.Within m r) (hp : F.parent m = some p) : F.Within p r :=
  within_above h.root hm (.single hp)

theorem parent_eq (hm : F.Within m r) : G.parent (f m) = (F.parent m).map f := by
  cases hp : F.parent m with
  | none =>
    rcases Relation.ReflTransGen.cases_head hm with rfl | ⟨p, hp', -⟩
    · exact h.root'
    · exact absurd (hp.symm.trans hp') nofun
  | some p =>
    exact h.toCarries.parent h.wellFormed h.wellFormed' (h.within_parent hm hp) hp

theorem position?_eq (hm : F.Within m r) : G.position? (f m) = F.position? m := by
  cases hp : F.parent m with
  | none =>
    have hp' : G.parent (f m) = none := by rw [h.parent_eq hm, hp]; rfl
    rw [position?_of_root hp, position?_of_root hp']
  | some p =>
    exact h.toCarries.position? h.wellFormed h.wellFormed' (h.within_parent hm hp) hp

theorem lineage_eq (hm : F.Within m r) : G.lineage (f m) = (F.lineage m).map f := by
  induction m using (wellFounded_above h.wellFormed).induction with
  | _ m ih =>
    have hparent := h.parent_eq hm
    cases hp : F.parent m with
    | none =>
      rw [hp] at hparent
      rw [lineage_of_root hp, lineage_of_root hparent]
      rfl
    | some p =>
      rw [hp] at hparent
      rw [lineage_of_parent h.wellFormed hp, lineage_of_parent h.wellFormed' hparent,
        ih p hp (h.within_parent hm hp)]
      rfl

theorem root_eq (hm : F.Within m r) : G.root (f m) = f (F.root m) := by
  rw [Forest.root, Forest.root, h.lineage_eq hm, List.getLastD_eq_getLast?,
    List.getLastD_eq_getLast?, List.getLast?_map]
  cases (F.lineage m).getLast? <;> rfl

theorem path_eq (hm : F.Within m r) : G.path (f m) = F.path m := by
  rw [path, path, h.lineage_eq hm, List.filterMap_map]
  refine congrArg (fun l => NodePath.mk l.reverse) (List.filterMap_congr fun a ha => ?_)
  exact h.position?_eq (h.within_of_lineage hm ha)

theorem nearestNamed?_eq (name : String) (hm : F.Within m r) :
    G.nearestNamed? name (f m) = (F.nearestNamed? name m).map f := by
  rw [nearestNamed?, nearestNamed?, h.lineage_eq hm, List.find?_map]
  refine congrArg (Option.map f) (List.find?_congr fun a ha => ?_)
  rw [Function.comp_apply, h.name_eq a (h.within_of_lineage hm ha)]

theorem child?_eq (hm : F.Within m r) (i : Nat) : G.child? (f m) i = (F.child? m i).map f := by
  rw [child?, child?, h.children_eq m hm, List.getElem?_map]

theorem sibling?_eq (hm : F.Within m r) (offset : Int) :
    G.sibling? (f m) offset = (F.sibling? m offset).map f := by
  rw [sibling?, sibling?, h.position?_eq hm, h.parent_eq hm]
  cases F.position? m with
  | none => rfl
  | some i =>
    cases hp : F.parent m with
    | none => simp
    | some p =>
      have hchild := h.child?_eq (h.within_parent hm hp)
      simp only [Option.map_some, Option.bind_eq_bind, Option.bind_some, hchild]
      split <;> rfl

theorem next?_eq (hm : F.Within m r) : G.next? (f m) = (F.next? m).map f := by
  rw [next?, next?, h.children_eq m hm]
  cases F.children m with
  | cons c cs => rfl
  | nil =>
    show (G.lineage (f m)).findSome? G.nextSibling? = _
    rw [h.lineage_eq hm]
    have hsibling (a : NodeId) (ha : a ∈ F.lineage m) :
        G.nextSibling? (f a) = (F.nextSibling? a).map f :=
      h.sibling?_eq (h.within_of_lineage hm ha) 1
    generalize F.lineage m = l at hsibling
    induction l with
    | nil => rfl
    | cons a l ih =>
      obtain ⟨ha, hl⟩ := List.forall_mem_cons.1 hsibling
      rw [List.map_cons, List.findSome?_cons, List.findSome?_cons, ha]
      cases F.nextSibling? a with
      | some b => rfl
      | none => exact ih hl

theorem within_sibling {offset : Int} (hm : F.Within m r) (hs : F.sibling? m offset = some n) :
    F.Within n r := by
  obtain ⟨i, -, hs⟩ := Option.bind_eq_some_iff.1 hs
  dsimp only at hs
  split at hs
  · obtain ⟨p, hp, hs⟩ := Option.bind_eq_some_iff.1 hs
    exact h.within_of_child (h.within_parent hm hp) (List.mem_of_getElem? hs)
  · exact absurd hs nofun

theorem previous?_eq (hm : F.Within m r) : G.previous? (f m) = (F.previous? m).map f := by
  have hsibling : G.previousSibling? (f m) = (F.previousSibling? m).map f := h.sibling?_eq hm (-1)
  rw [previous?, previous?, hsibling]
  cases hs : F.previousSibling? m with
  | none => exact h.parent_eq hm
  | some s =>
    have hw := h.within_sibling hm hs
    have hlast := h.toCarries.lastWithin h.wellFormed (max F.size G.size) hw
    rw [lastWithin_eq h.wellFormed _ (Nat.le_max_left _ _),
      lastWithin_eq h.wellFormed' _ (Nat.le_max_right _ _)] at hlast
    exact congrArg some hlast

theorem descendants_eq (hm : F.Within m r) : G.descendants (f m) = (F.descendants m).map f := by
  have hfuel : F.size < max F.size G.size + 1 ∧ G.size < max F.size G.size + 1 := by omega
  rw [Forest.descendants, Forest.descendants,
    ← preorderTo_eq_preorder h.wellFormed m hfuel.1,
    ← preorderTo_eq_preorder h.wellFormed' (f m) hfuel.2, h.toCarries.preorderTo h.wellFormed hm,
    List.map_tail]

theorem within_nearestNamed? {name : String} (hm : F.Within m r)
    (hn : F.nearestNamed? name m = some n) : F.Within n r :=
  h.within_of_lineage hm (List.mem_of_find?_eq_some hn)

theorem within_next? (hm : F.Within m r) (hn : F.next? m = some n) : F.Within n r := by
  rw [next?] at hn
  split at hn
  · next hc => exact h.within_of_child hm (hc ▸ Option.some.inj hn ▸ List.mem_cons_self)
  · obtain ⟨a, ha, hs⟩ := List.exists_of_findSome?_eq_some hn
    exact h.within_sibling (h.within_of_lineage hm ha) hs

theorem within_previous? (hm : F.Within m r) (hn : F.previous? m = some n) : F.Within n r := by
  rw [previous?] at hn
  split at hn
  · next hs =>
    rw [← Option.some.inj hn]
    exact within_lastWithin h.wellFormed _ (h.within_sibling hm hs)
  · exact h.within_parent hm hn

theorem within_descendants (hm : F.Within m r) (hn : n ∈ F.descendants m) : F.Within n r :=
  ((mem_preorder h.wellFormed).1 (List.mem_of_mem_tail hn)).trans hm

end Mirrors
end TreeQuery.Forest
