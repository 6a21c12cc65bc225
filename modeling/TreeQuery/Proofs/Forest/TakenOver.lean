import Mathlib.Data.List.Dedup
import TreeQuery.Proofs.Forest.Reachable

namespace TreeQuery.Forest

variable {F G H : Forest} {p c m : NodeId} {cs : List NodeId}

theorem filter_notMem_filter (l : List NodeId) (ns ms : List NodeId) :
    (l.filter (· ∉ ns)).filter (· ∉ ms) = l.filter (· ∉ ns ++ ms) := by
  rw [List.filter_filter]
  refine List.filter_congr fun m _ => ?_
  rw [Bool.eq_iff_iff]
  simp [and_comm]

theorem WellFormed.erase_children (hF : F.WellFormed) (p n : NodeId) :
    (F.children p).erase n = (F.children p).filter (· ∉ [n]) := by
  rw [(hF.children_nodup p).erase_eq_filter]
  refine List.filter_congr fun m _ => ?_
  rw [Bool.eq_iff_iff]
  simp

/-- What is left when `p` has taken over some nodes: they are its last children, each in the place of
its last occurrence, no other node has kept any of them, and all else is as it was. -/
structure TakenOver (F : Forest) (p : NodeId) (cs : List NodeId) (G : Forest) : Prop where
  contains_eq : ∀ m, G.contains m = F.contains m
  label_eq : ∀ m, G.label m = F.label m
  parent_self : ∀ c ∈ cs, G.parent c = some p
  parent_other : ∀ m, m ∉ cs → G.parent m = F.parent m
  children_self : G.children p = (F.children p).filter (· ∉ cs) ++ cs.dedup
  children_other : ∀ m, m ≠ p → G.children m = (F.children m).filter (· ∉ cs)

theorem takenOver_nil (F : Forest) (p : NodeId) : F.TakenOver p [] F where
  contains_eq _ := rfl
  label_eq _ := rfl
  parent_self _ hc := absurd hc List.not_mem_nil
  parent_other _ _ := rfl
  children_self := by simp
  children_other m _ := by simp

theorem takenOver_adopt (hF : F.WellFormed) (hp : F.contains p = true) (hc : F.contains c = true) :
    F.TakenOver p [c] (F.adopt p c) := by
  refine ⟨contains_adopt F p c, label_adopt F p c, ?_, fun m hm => ?_, ?_, fun m hm => ?_⟩
  · refine List.forall_mem_singleton.2 ?_
    rw [parent_adopt F hc, if_pos rfl]
  · rw [parent_adopt F hc, if_neg fun h => hm (List.mem_singleton.2 h)]
  · rw [children_adopt hF hp, hF.erase_children]
    rfl
  · rw [adopt, children_tie _ (by rwa [contains_untie]), if_neg hm, children_untie hF,
      hF.erase_children]

theorem TakenOver.cons (h : F.TakenOver p [c] G) (h' : G.TakenOver p cs H) :
    F.TakenOver p (c :: cs) H := by
  have hfilter (ds : List NodeId) :
      (ds.filter (· ∉ [c])).filter (· ∉ cs) = ds.filter (· ∉ c :: cs) :=
    filter_notMem_filter ds [c] cs
  -- the node moves on if it comes again
  have hlast : [c].filter (· ∉ cs) ++ cs.dedup = (c :: cs).dedup := by
    by_cases hc : c ∈ cs
    · rw [List.dedup_cons_of_mem hc]
      simp [hc]
    · rw [List.dedup_cons_of_notMem hc]
      simp [hc]
  refine ⟨fun m => (h'.contains_eq m).trans (h.contains_eq m),
    fun m => (h'.label_eq m).trans (h.label_eq m), fun d hd => ?_, fun m hm => ?_, ?_,
    fun m hm => ?_⟩
  · by_cases hds : d ∈ cs
    · exact h'.parent_self d hds
    · rw [h'.parent_other d hds]
      exact h.parent_self d (List.mem_singleton.2 ((List.mem_cons.1 hd).resolve_right hds))
  · obtain ⟨hne, hmem⟩ := not_or.1 (mt List.mem_cons.2 hm)
    rw [h'.parent_other m hmem, h.parent_other m (mt List.mem_singleton.1 hne)]
  · rw [h'.children_self, h.children_self, List.filter_append, hfilter, List.append_assoc,
      (List.nodup_singleton c).dedup, hlast]
  · rw [h'.children_other m hm, h.children_other m hm, hfilter]

theorem takenOver_foldl_adopt (hF : F.WellFormed) (h : F.CanTakeOver p cs) :
    F.TakenOver p cs (cs.foldl (fun F c => F.adopt p c) F) := by
  induction cs generalizing F with
  | nil => exact takenOver_nil F p
  | cons c cs ih =>
    exact (takenOver_adopt hF h.contains h.head.1).cons (ih (hF.adopt h) h.adopt)

theorem TakenOver.children_of_roots (h : F.TakenOver p cs G) (hF : F.WellFormed)
    (hroots : ∀ c ∈ cs, F.parent c = none) (hnodup : cs.Nodup) (m : NodeId) :
    G.children m = if m = p then F.children p ++ cs else F.children m := by
  have hkept (m : NodeId) : (F.children m).filter (· ∉ cs) = F.children m := by
    refine List.filter_eq_self.2 fun c hc => decide_eq_true fun hmem => ?_
    exact absurd ((hF.parent_of_mem hc).symm.trans (hroots c hmem)) nofun
  split
  · next hm => rw [hm, h.children_self, hkept, hnodup.dedup]
  · next hm => rw [h.children_other m hm, hkept]

theorem fst_createWith (F : Forest) (name : String) (v : Value) (cs : List NodeId) :
    (F.createWith name v cs).1 = (F.create name v).1 := rfl

theorem label_create (F : Forest) (name : String) (v : Value) (m : NodeId) :
    (F.create name v).2.label m = if m = (F.create name v).1 then (name, v) else F.label m := by
  rw [label, Forest.name, value, get_create]
  split <;> rfl

theorem takenOver_createWith (hF : F.WellFormed) (hcs : ∀ c ∈ cs, F.contains c = true)
    (name : String) (v : Value) :
    (F.create name v).2.TakenOver (F.create name v).1 cs (F.createWith name v cs).2 :=
  takenOver_foldl_adopt (hF.create name v) (canTakeOver_create hcs name v)

/-- A new node can take over any list of nodes that there are: they may have parents, come several
times and be within one another. It is a root with the given name and value; its children are the nodes
of the list, of several equal ones the last, and it is the parent of each of them; every other node has
lost those of its children that are in the list and keeps the others in their order; and all else is as
it was. -/
theorem createWith_takes_over (h : F.Reachable) (hcs : ∀ c ∈ cs, F.contains c = true)
    (name : String) (v : Value) :
    ∃ n G, F.createWith name v cs = (n, G) ∧ F.contains n = false ∧
      (∀ m, G.contains m = true ↔ m = n ∨ F.contains m = true) ∧
      G.name n = name ∧ G.value n = v ∧ G.parent n = none ∧ G.children n = cs.dedup ∧
      (∀ c ∈ cs, G.parent c = some n) ∧
      (∀ p, p ≠ n → G.children p = (F.children p).filter (· ∉ cs)) ∧
      (∀ m, m ∉ cs → G.parent m = F.parent m) ∧
      ∀ m, m ≠ n → G.name m = F.name m ∧ G.value m = F.value m := by
  have htaken := takenOver_createWith h.wellFormed hcs name v
  have hnew := not_contains_create F name v
  have hself : (F.createWith name v cs).2.label (F.create name v).1 = (name, v) := by
    rw [htaken.label_eq, label_create, if_pos rfl]
  refine ⟨(F.create name v).1, (F.createWith name v cs).2, rfl, Bool.eq_false_iff.2 hnew,
    fun m => ?_, congrArg Prod.fst hself, congrArg Prod.snd hself, ?_, ?_, htaken.parent_self,
    fun p hp => ?_, fun m hm => ?_, fun m hm => ?_⟩
  · rw [htaken.contains_eq]
    exact contains_create F name v m
  · rw [htaken.parent_other _ fun hn => hnew (hcs _ hn), parent_create]
    exact parent_of_not_contains hnew
  · rw [htaken.children_self, children_create, children_of_not_contains hnew]
    rfl
  · rw [htaken.children_other p hp, children_create]
  · rw [htaken.parent_other m hm, parent_create]
  · have hother : (F.createWith name v cs).2.label m = F.label m := by
      rw [htaken.label_eq, label_create, if_neg hm]
    exact ⟨name_of_label hother, value_of_label hother⟩

/-- A child of the root, a node below it, the root itself, and the child again. -/
theorem createWith_takes_over_nested :
    let F := [Edit.create "r" .null, .create "a" .null, .create "b" .null, .create "c" .null,
      .add ⟨0⟩ ⟨1⟩, .add ⟨1⟩ ⟨2⟩, .add ⟨0⟩ ⟨3⟩].foldl Edit.run {}
    let cs : List NodeId := [⟨1⟩, ⟨2⟩, ⟨0⟩, ⟨1⟩]
    F.Reachable ∧ (∀ c ∈ cs, F.contains c = true) ∧
      ∃ n G, F.createWith "n" .null cs = (n, G) ∧ G.children n = [⟨2⟩, ⟨0⟩, ⟨1⟩] ∧
        G.parent ⟨1⟩ = some n ∧ G.children ⟨0⟩ = [⟨3⟩] ∧ G.children ⟨1⟩ = [] := by
  intro F cs
  have hF : F.Reachable := Reachable.empty.foldl (by decide +kernel)
  have hcs : ∀ c ∈ cs, F.contains c = true := by decide +kernel
  obtain ⟨n, G, hG, hnew, -, -, -, -, hchildren, hparent, hothers, -, -⟩ :=
    createWith_takes_over hF hcs "n" .null
  have hne {m : NodeId} (hm : F.contains m = true) : m ≠ n := by
    rintro rfl
    rw [hnew] at hm
    exact absurd hm Bool.false_ne_true
  refine ⟨hF, hcs, n, G, hG, ?_, hparent _ (by decide), ?_, ?_⟩
  · rw [hchildren]
    decide
  · rw [hothers _ (hne (by decide +kernel))]
    decide +kernel
  · rw [hothers _ (hne (by decide +kernel))]
    decide +kernel

end TreeQuery.Forest
