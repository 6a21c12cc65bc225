import TreeQuery.Proofs.Evaluate.Indirection
import TreeQuery.Proofs.Forest.Detachment

namespace TreeQuery

variable {E : Evaluator} {F G : Forest} {e : Expression} {m : Match} {c : NodeId}

namespace Entity

theorem set_null {x : Entity} (hk : x.kind = .node) (hnull : E.convert F .null "node" = .ok .null) :
    x.set E F .null = .ok (F.untie x.node).2 := by
  rw [set, hk]
  dsimp only
  rw [Evaluator.convertTo_eq_ok_iff.2 hnull]
  rfl

theorem foldlM_set_null {xs : List Entity} (hk : ∀ x ∈ xs, x.kind = .node)
    (hnull : ∀ G, E.convert G .null "node" = .ok .null) :
    xs.foldlM (fun F x => x.set E F .null) F =
      .ok ((xs.map node).foldl (fun F n => (F.untie n).2) F) := by
  induction xs generalizing F with
  | nil => rfl
  | cons x xs ih =>
    rw [List.foldlM_cons, set_null (hk x List.mem_cons_self) (hnull F)]
    exact ih fun y hy => hk y (List.mem_cons_of_mem x hy)

end Entity

namespace Match

theorem kind_of_mem {budget : Nat} (h : E.evaluateWith F budget e c = .ok m) (hk : m.kind = .node)
    {x : Entity} (hx : x ∈ m.entities) : x.kind = .node := by
  have he : e.kind = .node := (Evaluator.kind_of_evaluateWith h).symm.trans hk
  obtain ⟨ns, rfl⟩ := Evaluator.exists_ofNodes_of_evaluateWith (by simp [he]) (by simp [he]) h
  obtain ⟨n, -, rfl⟩ := List.mem_map.1 hx
  exact he

/-- When null is written through each entity of a result once, the entities being nodes and null
converting to itself, then in every order no write fails, and all orders end in one forest: the nodes
of the result have no parent, every node has lost those of its children that are among them and keeps
the others in their order, and names and values are as they were. The forest may have been changed in
any way since the expression was evaluated. -/
theorem set_null_in_any_order (h : G.Reachable) (hm : E.evaluate F e c = .ok m)
    (hk : m.kind = .node) (hnull : ∀ G, E.convert G .null "node" = .ok .null) :
    ∃ H, (∀ order : List Entity, order.Perm m.entities →
        order.foldlM (fun F x => x.set E F .null) G = .ok H) ∧ G.Detached m.nodes H := by
  refine ⟨m.nodes.foldl (fun F n => (F.untie n).2) G, fun order horder => ?_,
    Forest.detached_foldl_untie h.wellFormed m.nodes⟩
  have hkinds (x : Entity) (hx : x ∈ order) : x.kind = .node :=
    kind_of_mem hm hk (horder.mem_iff.1 hx)
  rw [Entity.foldlM_set_null hkinds hnull]
  refine congrArg Except.ok (Forest.Detached.unique (Forest.detached_foldl_untie h.wellFormed _)
    (Forest.detached_foldl_untie h.wellFormed _) fun n => ?_)
  exact (horder.map Entity.node).mem_iff

/-- A root, its child twice, and their orders first to last and last to first. -/
theorem set_null_in_any_order_nested :
    let F := [Edit.create "r" .null, .create "a" .null, .create "b" .null, .create "c" .null,
      .add ⟨0⟩ ⟨1⟩, .add ⟨1⟩ ⟨2⟩, .add ⟨1⟩ ⟨3⟩].foldl Edit.run {}
    ∃ m, Evaluator.evaluateText {} F "@/**/.?node" ⟨0⟩ = .ok m ∧ m.nodes = [⟨0⟩, ⟨1⟩, ⟨1⟩] ∧
      ∃ H, m.entities.foldlM (fun F x => x.set {} F .null) F = .ok H ∧
        m.entities.reverse.foldlM (fun F x => x.set {} F .null) F = .ok H ∧
        H.children ⟨0⟩ = [] ∧ H.parent ⟨1⟩ = none ∧ H.children ⟨1⟩ = [⟨2⟩, ⟨3⟩] := by
  intro F
  have hF : F.Reachable := Forest.Reachable.empty.foldl (by decide +kernel)
  let e : Expression := ⟨"@/**/.?node", false, ⟨[.single .descendants, .single .parent], []⟩, .node,
    none⟩
  have he : Expression.compile "@/**/.?node" = .ok e := by
    dsimp only [e]
    rfl
  have hm : Evaluator.evaluate {} F e ⟨0⟩ = .ok (Match.ofNodes .node none [⟨0⟩, ⟨1⟩, ⟨1⟩]) := by
    rw [Evaluator.evaluate_plain (e := e) rfl rfl]
    exact congrArg (fun ns => Except.ok (Match.ofNodes .node none ns)) (by decide +kernel)
  refine ⟨_, (Evaluator.evaluateText_of_compile he).trans hm, rfl, ?_⟩
  obtain ⟨H, hall, hleft⟩ := set_null_in_any_order hF hm rfl fun _ => rfl
  refine ⟨H, hall _ (.refl _), hall _ (List.reverse_perm _), ?_, ?_, ?_⟩
  · rw [hleft.children_eq]
    decide +kernel
  · exact hleft.parent_self _ (by decide)
  · rw [hleft.children_eq]
    decide +kernel

end Match
end TreeQuery
