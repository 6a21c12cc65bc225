import TreeQuery.Proofs.Forest.Replaced

namespace TreeQuery.Forest

variable {F G H : Forest} {n m r : NodeId}

/-- What is known in the one forest has the same label and the same children in the other. -/
structure Extends (F G : Forest) : Prop where
  contains : ∀ m, F.contains m = true → G.contains m = true
  label : ∀ m, F.contains m = true → G.label m = F.label m
  children : ∀ m, F.contains m = true → G.children m = F.children m

namespace Extends

theorem refl (F : Forest) : F.Extends F := ⟨fun _ h => h, fun _ _ => rfl, fun _ _ => rfl⟩

theorem trans (h : F.Extends G) (h' : G.Extends H) : F.Extends H where
  contains m hm := h'.contains m (h.contains m hm)
  label m hm := (h'.label m (h.contains m hm)).trans (h.label m hm)
  children m hm := (h'.children m (h.contains m hm)).trans (h.children m hm)

section Preorder
variable (h : F.Extends G) (hF : F.WellFormed) (hG : G.WellFormed) (hr : F.contains r = true)
include h hF hG hr

theorem preorder : G.preorder r = F.preorder r := by
  have hcarries : Carries F G id r := carries_id_of_label
    (fun m hm => h.label m (contains_of_within hr hm))
    fun m hm => h.children m (contains_of_within hr hm)
  have hto := hcarries.preorderTo hF .refl (F.size + G.size + 1)
  rw [List.map_id, id_eq, preorderTo_eq_preorder hG r (by omega),
    preorderTo_eq_preorder hF r (by omega)] at hto
  exact hto

theorem values : (G.preorder r).map G.value = (F.preorder r).map F.value := by
  rw [h.preorder hF hG hr]
  refine List.map_congr_left fun m hm => value_of_label (h.label m ?_)
  exact contains_of_within hr ((mem_preorder hF).1 hm)

end Preorder
end Extends

section CreateWith
variable {cs : List NodeId} (hF : F.WellFormed) (hcs : ∀ c ∈ cs, F.contains c = true)
variable (hroots : ∀ c ∈ cs, F.parent c = none) (hnodup : cs.Nodup) (name : String) (v : Value)
include hF hcs hroots hnodup

theorem children_createWith (m : NodeId) : (F.createWith name v cs).2.children m =
    if m = (F.createWith name v cs).1 then cs else F.children m := by
  have htaken := takenOver_createWith hF hcs name v
  have hnew := children_of_not_contains (not_contains_create F name v)
  rw [htaken.children_of_roots (hF.create name v) (fun c hc => ?_) hnodup, children_create,
    children_create, hnew, List.nil_append, fst_createWith]
  rw [parent_create, hroots c hc]

theorem extends_createWith : F.Extends (F.createWith name v cs).2 := by
  have htaken := takenOver_createWith hF hcs name v
  have hne {m : NodeId} (hm : F.contains m = true) : m ≠ (F.create name v).1 := by
    rintro rfl
    exact not_contains_create F name v hm
  refine ⟨fun m hm => ?_, fun m hm => ?_, fun m hm => ?_⟩
  · rw [htaken.contains_eq]
    exact (contains_create F name v m).2 (.inr hm)
  · rw [htaken.label_eq, label_create, if_neg (hne hm)]
  · rw [children_createWith hF hcs hroots hnodup, fst_createWith, if_neg (hne hm)]

end CreateWith

/-- Trees have been added to a forest: their roots, and their values in document order. -/
structure Grows (F G : Forest) (roots : List NodeId) (values : List Value) : Prop where
  wellFormed : G.WellFormed
  extension : F.Extends G
  parent : ∀ m, F.contains m = true → G.parent m = F.parent m
  nodup : roots.Nodup
  fresh : ∀ n ∈ roots, ¬ F.contains n = true
  known : ∀ n ∈ roots, G.contains n = true
  root : ∀ n ∈ roots, G.parent n = none
  values : (roots.flatMap G.preorder).map G.value = values

namespace Grows

variable {ns ms : List NodeId} {vs ws : List Value}

theorem nil (hF : F.WellFormed) : F.Grows F [] [] :=
  ⟨hF, .refl F, fun _ _ => rfl, List.nodup_nil, nofun, nofun, nofun, rfl⟩

theorem values_eq (h : F.Grows G ns vs) (hextends : G.Extends H) (hH : H.WellFormed) :
    (ns.flatMap H.preorder).map H.value = vs := by
  rw [← h.values, List.map_flatMap, List.map_flatMap]
  exact List.flatMap_congr fun n hn => hextends.values h.wellFormed hH (h.known n hn)

theorem append (h : F.Grows G ns vs) (h' : G.Grows H ms ws) : F.Grows H (ns ++ ms) (vs ++ ws) where
  wellFormed := h'.wellFormed
  extension := h.extension.trans h'.extension
  parent m hm := (h'.parent m (h.extension.contains m hm)).trans (h.parent m hm)
  nodup := List.nodup_append.2 ⟨h.nodup, h'.nodup, fun n hn m hm e =>
    h'.fresh m hm (e ▸ h.known n hn)⟩
  fresh n hn := (List.mem_append.1 hn).elim (h.fresh n) fun hn hc =>
    h'.fresh n hn (h.extension.contains n hc)
  known n hn := (List.mem_append.1 hn).elim
    (fun hn => h'.extension.contains n (h.known n hn)) (h'.known n)
  root n hn := (List.mem_append.1 hn).elim
    (fun hn => (h'.parent n (h.known n hn)).trans (h.root n hn)) (h'.root n)
  values := by
    rw [List.flatMap_append, List.map_append, h.values_eq h'.extension h'.wellFormed, h'.values]

theorem createWith (h : F.Grows G ns vs) (name : String) (v : Value) :
    F.Grows (G.createWith name v ns).2 [(G.createWith name v ns).1] (v :: vs) := by
  have hextends := extends_createWith h.wellFormed h.known h.root h.nodup name v
  have htaken := takenOver_createWith h.wellFormed h.known name v
  have hwf := h.wellFormed.createWith name v h.known
  have hnew : ¬ G.contains (G.create name v).1 = true := not_contains_create G name v
  refine ⟨hwf, h.extension.trans hextends, fun m hm => ?_, List.nodup_singleton _, ?_, ?_, ?_, ?_⟩
  · rw [htaken.parent_other m fun hn => h.fresh m hn hm, parent_create, h.parent m hm]
  · exact List.forall_mem_singleton.2 fun hc => hnew (h.extension.contains _ hc)
  · refine List.forall_mem_singleton.2 ?_
    rw [htaken.contains_eq]
    exact (contains_create G name v _).2 (.inl rfl)
  · refine List.forall_mem_singleton.2 ?_
    rw [fst_createWith, htaken.parent_other _ fun hn => hnew (h.known _ hn), parent_create,
      parent_of_not_contains hnew]
  · have hlabel := label_create G name v (G.create name v).1
    rw [← htaken.label_eq, if_pos rfl] at hlabel
    have hvalue : (G.createWith name v ns).2.value (G.createWith name v ns).1 = v :=
      congrArg Prod.snd hlabel
    rw [List.flatMap_singleton, preorder_eq hwf,
      children_createWith h.wellFormed h.known h.root h.nodup, if_pos rfl, List.map_cons, hvalue,
      h.values_eq hextends hwf]

theorem create (hF : F.WellFormed) (name : String) (v : Value) :
    F.Grows (F.create name v).2 [(F.create name v).1] [v] :=
  (nil hF).createWith name v

end Grows
end TreeQuery.Forest
