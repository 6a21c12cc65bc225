import TreeQuery.Proofs.Forest.Lineage

namespace TreeQuery.Forest

variable {F : Forest} {n m p a : NodeId}

theorem preorderTo_succ (F : Forest) (fuel : Nat) (n : NodeId) :
    F.preorderTo (fuel + 1) n = n :: (F.children n).flatMap (F.preorderTo fuel) := rfl

theorem contains_of_within (hn : F.contains n = true) (h : F.Within m n) :
    F.contains m = true := by
  rcases Relation.ReflTransGen.cases_head h with rfl | ⟨q, hq, -⟩
  · exact hn
  · exact contains_of_parent hq

section Preorder
variable (hF : F.WellFormed)
include hF

/-- The deeper a node, the less is left below it. -/
theorem preorderTo_stable {fuel : Nat} (h : F.size < fuel + (F.lineage n).length) :
    F.preorderTo (fuel + 1) n = F.preorderTo (fuel + 2) n := by
  induction fuel generalizing n with
  | zero =>
    have hn : ¬ F.contains n = true := by
      intro hn
      have := length_lineage_le hF hn
      omega
    rw [preorderTo_succ, preorderTo_succ, children_of_not_contains hn]
    rfl
  | succ fuel ih =>
    rw [preorderTo_succ, preorderTo_succ]
    congr 1
    refine List.flatMap_congr fun c hc => ih ?_
    rw [lineage_of_parent hF (hF.parent_of_mem hc), List.length_cons]
    omega

/-- No depth that is greater than the bound cuts anything off either. -/
theorem preorderTo_eq_preorder (n : NodeId) {fuel : Nat} (h : F.size < fuel) :
    F.preorderTo fuel n = F.preorder n := by
  induction fuel, h using Nat.le_induction with
  | base => rfl
  | succ fuel h ih =>
    obtain ⟨k, rfl⟩ : ∃ k, fuel = k + 1 := ⟨fuel - 1, by omega⟩
    have hpos : 0 < (F.lineage n).length := Nat.succ_pos _
    have hstable : F.preorderTo (k + 1) n = F.preorderTo (k + 2) n :=
      preorderTo_stable hF (by omega)
    exact hstable.symm.trans ih

theorem preorder_eq (n : NodeId) : F.preorder n = n :: (F.children n).flatMap F.preorder := by
  rw [← preorderTo_eq_preorder hF n (Nat.lt_succ_of_lt (Nat.lt_succ_self _)), preorderTo_succ]
  rfl

theorem descendants_eq (n : NodeId) :
    F.descendants n = (F.children n).flatMap F.preorder := by
  rw [descendants, preorder_eq hF]
  rfl

theorem within_of_mem_preorderTo {fuel : Nat} (h : m ∈ F.preorderTo fuel n) : F.Within m n := by
  induction fuel generalizing n with
  | zero => simp [preorderTo] at h
  | succ fuel ih =>
    rw [preorderTo_succ, List.mem_cons, List.mem_flatMap] at h
    rcases h with rfl | ⟨c, hc, h⟩
    · exact .refl
    · exact (ih h).tail (hF.parent_of_mem hc)

theorem mem_preorder : m ∈ F.preorder n ↔ F.Within m n := by
  refine ⟨within_of_mem_preorderTo hF, fun h => ?_⟩
  induction h with
  | refl => rw [preorder_eq hF]; exact List.mem_cons_self
  | tail _ hp ih =>
    rw [preorder_eq hF]
    exact List.mem_cons_of_mem _ (List.mem_flatMap.2 ⟨_, hF.mem_children hp, ih⟩)

theorem eq_of_within_siblings {b : NodeId} (ha : F.parent a = some p) (hb : F.parent b = some p)
    (hma : F.Within m a) (hmb : F.Within m b) : a = b := by
  -- a sibling strictly above another one would be at or above their parent
  have key : ∀ {a b}, F.parent a = some p → F.parent b = some p → F.Within a b → a = b := by
    intro a b ha hb h
    rcases Relation.ReflTransGen.cases_head h with rfl | ⟨q, hq, h⟩
    · rfl
    · obtain rfl : p = q := Option.some.inj (ha.symm.trans hq)
      exact absurd (Relation.TransGen.head' (show F.Under b p from hb) h) (hF.acyclic b)
  rcases within_or_within hma hmb with h | h
  · exact key ha hb h
  · exact (key hb ha h).symm

theorem nodup_preorderTo (fuel : Nat) (n : NodeId) : (F.preorderTo fuel n).Nodup := by
  induction fuel generalizing n with
  | zero => exact List.nodup_nil
  | succ fuel ih =>
    rw [preorderTo_succ, List.nodup_cons, List.nodup_flatMap]
    refine ⟨fun h => ?_, fun c _ => ih c, ?_⟩
    · obtain ⟨c, hc, h⟩ := List.mem_flatMap.1 h
      exact hF.acyclic n (.tail' (within_of_mem_preorderTo hF h) (hF.parent_of_mem hc))
    · refine (hF.children_nodup n).imp_of_mem fun {a b} ha hb hne => ?_
      intro m hma hmb
      exact hne (eq_of_within_siblings hF (hF.parent_of_mem ha) (hF.parent_of_mem hb)
        (within_of_mem_preorderTo hF hma) (within_of_mem_preorderTo hF hmb))

theorem nodup_preorder (n : NodeId) : (F.preorder n).Nodup := nodup_preorderTo hF _ n

theorem length_preorder_le (hn : F.contains n = true) : (F.preorder n).length ≤ F.size :=
  length_le_size (nodup_preorder hF n) fun _ h => contains_of_within hn ((mem_preorder hF).1 h)

end Preorder
end TreeQuery.Forest
