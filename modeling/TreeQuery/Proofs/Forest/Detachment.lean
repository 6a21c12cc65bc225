import TreeQuery.Proofs.Forest.Insertion

namespace TreeQuery.Forest

variable {F G H : Forest} {n : NodeId} {ns ms : List NodeId}

/-- What is left when some nodes have been taken out: they are roots, the children of every node are
those of the others that it had, in their order, and all else is as it was. -/
structure Detached (F : Forest) (ns : List NodeId) (G : Forest) : Prop where
  contains_eq : ∀ m, G.contains m = F.contains m
  name_eq : ∀ m, G.name m = F.name m
  value_eq : ∀ m, G.value m = F.value m
  parent_self : ∀ m ∈ ns, G.parent m = none
  parent_other : ∀ m, m ∉ ns → G.parent m = F.parent m
  children_eq : ∀ p, G.children p = (F.children p).filter (· ∉ ns)

theorem detached_nil (F : Forest) : F.Detached [] F where
  contains_eq _ := rfl
  name_eq _ := rfl
  value_eq _ := rfl
  parent_self _ hm := absurd hm List.not_mem_nil
  parent_other _ _ := rfl
  children_eq p := by simp

theorem detached_untie (hF : F.WellFormed) (n : NodeId) : F.Detached [n] (F.untie n).2 where
  contains_eq := contains_untie F n
  name_eq m := name_of_label (label_untie F n m)
  value_eq m := value_of_label (label_untie F n m)
  parent_self m hm := by rw [parent_untie, if_pos (List.mem_singleton.1 hm)]
  parent_other m hm := by rw [parent_untie, if_neg fun h => hm (List.mem_singleton.2 h)]
  children_eq p := by rw [children_untie hF, hF.erase_children]

theorem Detached.append (h : F.Detached ns G) (h' : G.Detached ms H) : F.Detached (ns ++ ms) H where
  contains_eq m := (h'.contains_eq m).trans (h.contains_eq m)
  name_eq m := (h'.name_eq m).trans (h.name_eq m)
  value_eq m := (h'.value_eq m).trans (h.value_eq m)
  parent_self m hm := by
    by_cases hms : m ∈ ms
    · exact h'.parent_self m hms
    · rw [h'.parent_other m hms]
      exact h.parent_self m ((List.mem_append.1 hm).resolve_right hms)
  parent_other m hm := by
    obtain ⟨hns, hms⟩ := not_or.1 (mt List.mem_append.2 hm)
    rw [h'.parent_other m hms, h.parent_other m hns]
  children_eq p := by rw [h'.children_eq, h.children_eq, filter_notMem_filter]

theorem detached_foldl_untie (hF : F.WellFormed) (ns : List NodeId) :
    F.Detached ns (ns.foldl (fun F n => (F.untie n).2) F) := by
  induction ns generalizing F with
  | nil => exact detached_nil F
  | cons n ns ih => exact (detached_untie hF n).append (ih (hF.untie n))

theorem Detached.unique (h : F.Detached ns G) (h' : F.Detached ms H) (hmem : ∀ m, m ∈ ns ↔ m ∈ ms) :
    G = H := by
  apply eq_of_nodes
  · exact fun m => (h.contains_eq m).trans (h'.contains_eq m).symm
  · intro m
    have hname : G.name m = H.name m := (h.name_eq m).trans (h'.name_eq m).symm
    have hvalue : G.value m = H.value m := (h.value_eq m).trans (h'.value_eq m).symm
    exact Prod.ext hname hvalue
  · intro m
    by_cases hm : m ∈ ns
    · rw [h.parent_self m hm, h'.parent_self m ((hmem m).1 hm)]
    · rw [h.parent_other m hm, h'.parent_other m (mt (hmem m).2 hm)]
  · intro p
    simp only [h.children_eq, h'.children_eq, hmem]

end TreeQuery.Forest
