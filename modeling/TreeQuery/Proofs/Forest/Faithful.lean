import TreeQuery.Proofs.Forest.Reachable
import TreeQuery.Proofs.Forest.Replaced
import TreeQuery.Proofs.Forest.Shape

namespace TreeQuery.Forest

variable {F : Forest} {n m t : NodeId}

section WellFormed
variable (hF : F.WellFormed)
include hF

theorem within_fst_copy_iff : (F.copy n).2.Within m (F.copy n).1 ↔
    ∃ x, F.Within x n ∧ F.image n x = m := by
  rw [← image_self]
  constructor
  · exact (carries_copy hF n).exists_of_within hF (hF.copy n)
  · rintro ⟨x, hx, rfl⟩
    exact (carries_copy hF n).within hF (hF.copy n) hx

theorem not_contains_image (h : F.Within m n) : ¬ F.contains (F.image n m) = true :=
  not_contains_of_copied (copied_of_within hF h)

theorem sameShape_copy (hn : F.contains n = true)
    (hnumber : ∀ m, F.Within m n → ∀ x, F.value m = .float x → x.isNaN = false) :
    (F.copy n).2.sameShape (F.copy n).1 n = true ∧
      (F.copy n).2.sameShape n (F.copy n).1 = true := by
  have hcopy := carries_copy hF n
  have hkept : Carries F (F.copy n).2 id n := carries_copy_of_contains hn n
  have hle : F.size ≤ (F.copy n).2.size := by
    rw [size_copy]
    exact Nat.le_add_right _ _
  have hne (m : NodeId) (hm : F.Within m n) : F.image n m ≠ id m := by
    intro e
    apply not_contains_image hF hm
    rw [e]
    exact contains_of_within hn hm
  have hvalue (m : NodeId) (hm : F.Within m n) :
      (F.copy n).2.value (id m) = (F.value m).mapNode id := by
    rw [Value.mapNode_id, id, value, get_copy_of_contains (contains_of_within hn hm)]
    rfl
  have hout (t : NodeId) (ht : ¬ F.Within t n) : F.image n t = id t := image_of_not_within hF ht
  rw [← image_self]
  constructor
  · exact sameShape_of_values hcopy hkept hF (hF.copy n) hn hle hne
      (fun m hm => value_image hF hm) hvalue hout hnumber
  · exact sameShape_of_values hkept hcopy hF (hF.copy n) hn hle (fun m hm => (hne m hm).symm)
      hvalue (fun m hm => value_image hF hm) (fun t ht => (hout t ht).symm) hnumber

theorem value_image_node (hm : F.Within m n) (hv : F.value m = .node t) :
    (F.Within t n → (F.copy n).2.value (F.image n m) = .node (F.image n t)) ∧
      (¬ F.Within t n → (F.copy n).2.value (F.image n m) = .node t) := by
  rw [value_image hF hm, hv]
  refine ⟨fun _ => rfl, fun ht => ?_⟩
  rw [Value.mapNode, image_of_not_within hF ht]

end WellFormed

/-- A copy is a root whose nodes are all new, and no node of before has changed. It has the names and
the shape of its original, and both look alike. Each reference to a node of the original leads to the
copy of this node, and every other value is kept. -/
theorem copy_is_faithful_and_isolated (h : F.Reachable) (hn : F.contains n = true)
    (hnumber : ∀ m, F.Within m n → ∀ x, F.value m = .float x → x.isNaN = false) :
    (F.copy n).2.parent (F.copy n).1 = none ∧
    (∀ m, (F.copy n).2.Within m (F.copy n).1 → ¬ F.contains m = true) ∧
    (∀ m, F.contains m = true → (F.copy n).2.get m = F.get m) ∧
    (F.copy n).2.sameShape (F.copy n).1 n = true ∧
    (F.copy n).2.sameShape n (F.copy n).1 = true ∧
    ∃ f : NodeId → NodeId, f n = (F.copy n).1 ∧ Carries F (F.copy n).2 f n ∧
      (∀ m, (F.copy n).2.Within m (F.copy n).1 ↔ ∃ x, F.Within x n ∧ f x = m) ∧
      ∀ x, F.Within x n →
        (∀ t, F.value x = .node t →
          (F.Within t n → (F.copy n).2.value (f x) = .node (f t)) ∧
          (¬ F.Within t n → (F.copy n).2.value (f x) = .node t)) ∧
        ((∀ t, F.value x ≠ .node t) → (F.copy n).2.value (f x) = F.value x) := by
  have hF := h.wellFormed
  obtain ⟨hshape, hshape'⟩ := sameShape_copy hF hn hnumber
  refine ⟨parent_copy F n, fun m hm => ?_, fun m => get_copy_of_contains, hshape, hshape',
    F.image n, image_self F n, carries_copy hF n, fun m => within_fst_copy_iff hF,
    fun x hx => ⟨fun t => value_image_node hF hx, fun hv => ?_⟩⟩
  · obtain ⟨x, hx, rfl⟩ := (within_fst_copy_iff hF).1 hm
    exact not_contains_image hF hx
  · rw [value_image hF hx, Value.mapNode_of_ne hv]

/-- A root and its first child that refer to one another, and a second child that refers to another
tree. -/
theorem copy_is_faithful_and_isolated_references :
    let F := [Edit.create "r" (.node ⟨1⟩), .create "a" (.node ⟨0⟩), .create "b" (.node ⟨3⟩),
      .create "x" .null, .add ⟨0⟩ ⟨1⟩, .add ⟨0⟩ ⟨2⟩].foldl Edit.run {}
    F.Reachable ∧ (F.copy ⟨0⟩).2.sameShape (F.copy ⟨0⟩).1 ⟨0⟩ = true ∧
      ∃ f : NodeId → NodeId, f ⟨0⟩ = ⟨4⟩ ∧ (F.copy ⟨0⟩).2.children ⟨4⟩ = [f ⟨1⟩, f ⟨2⟩] ∧
        (F.copy ⟨0⟩).2.value (f ⟨0⟩) = .node (f ⟨1⟩) ∧
        (F.copy ⟨0⟩).2.value (f ⟨1⟩) = .node (f ⟨0⟩) ∧
        (F.copy ⟨0⟩).2.value (f ⟨2⟩) = .node ⟨3⟩ := by
  intro F
  have hF : F.Reachable := Reachable.empty.foldl (by decide +kernel)
  have hchildren : F.children ⟨0⟩ = [⟨1⟩, ⟨2⟩] := by decide +kernel
  have ha : F.Within ⟨1⟩ ⟨0⟩ := .single (hF.wellFormed.parent_of_mem (by simp [hchildren]))
  have hb : F.Within ⟨2⟩ ⟨0⟩ := .single (hF.wellFormed.parent_of_mem (by simp [hchildren]))
  have hx : ¬ F.Within ⟨3⟩ ⟨0⟩ := by
    rw [← mem_preorder hF.wellFormed]
    decide +kernel
  have hnumber (m : NodeId) (hm : F.Within m ⟨0⟩) (x : Binary64) (hv : F.value m = .float x) :
      x.isNaN = false := by
    have hnone : ∀ m ∈ F.preorder ⟨0⟩, (F.value m).isNode = true := by decide +kernel
    have hnode := hnone m ((mem_preorder hF.wellFormed).2 hm)
    rw [hv] at hnode
    exact absurd hnode nofun
  obtain ⟨-, -, -, hshape, -, f, hf, hcarries, -, hvalues⟩ :=
    copy_is_faithful_and_isolated hF (by decide +kernel) hnumber
  refine ⟨hF, hshape, f, hf, ?_, ((hvalues _ .refl).1 ⟨1⟩ (by decide +kernel)).1 ha,
    ((hvalues _ ha).1 ⟨0⟩ (by decide +kernel)).1 .refl,
    ((hvalues _ hb).1 ⟨3⟩ (by decide +kernel)).2 hx⟩
  rw [show (⟨4⟩ : NodeId) = f ⟨0⟩ from hf.symm, hcarries.children_eq _ .refl, hchildren]
  rfl

end TreeQuery.Forest
