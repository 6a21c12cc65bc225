import TreeQuery.Evaluate.Basic
import TreeQuery.Proofs.Forest.Reachable
import TreeQuery.Proofs.Select.Chain

namespace TreeQuery

theorem Match.nodes_ofNodes (kind : Projection) (convert : Option String) (ns : List NodeId) :
    (Match.ofNodes kind convert ns).nodes = ns := by
  rw [Match.ofNodes, Match.nodes, List.map_map]
  exact List.map_id ns

namespace Evaluator

variable {F : Forest} {E : Evaluator} {e : Expression} {n : NodeId}

theorem drain_cursor (hF : F.WellFormed) (chain : Chain Value) (ns : List NodeId) :
    (chain.cursor F (.list ns)).drain F = chain.select F ns := by
  rw [Cursor.drain_eq_remaining hF, chain.remaining_cursor hF]
  rfl

theorem evaluateText_of_compile {text : String} (h : Expression.compile text = .ok e) :
    E.evaluateText F text n = E.evaluate F e n := by
  rw [evaluateText, compileAt, h]
  rfl

theorem evaluate_plain (he : e.referenced = false) {chain : Chain Value}
    (hc : E.resolve F e.chain = .ok chain) :
    E.evaluate F e n =
      .ok (Match.ofNodes e.kind e.convert ((chain.cursor F (.list [n])).drain F)) := by
  rw [evaluate, budget, evaluateWith, hc, he]
  rfl

theorem stream_plain (he : e.referenced = false) {chain : Chain Value}
    (hc : E.resolve F e.chain = .ok chain) :
    E.stream F e n = .ok (chain.cursor F (.list [n])) := by
  rw [stream, he, hc]
  rfl

theorem evaluate_eq_error (hc : E.resolve F e.chain = .error err) :
    E.evaluate F e n = .error err := by
  rw [evaluate, budget, evaluateWith, hc]
  rfl

theorem stream_eq_error (he : e.referenced = false) (hc : E.resolve F e.chain = .error err) :
    E.stream F e n = .error err := by
  rw [stream, he, hc]
  rfl

theorem evaluate_eq_error_iff_resolve (he : e.referenced = false) :
    E.evaluate F e n = .error err ↔ E.resolve F e.chain = .error err := by
  cases hc : E.resolve F e.chain with
  | error err' => rw [evaluate_eq_error hc]; simp
  | ok chain => rw [evaluate_plain he hc]; simp

theorem stream_referenced (he : e.referenced = true) :
    E.stream F e n = (E.evaluate F e n).map fun m => Cursor.list m.nodes := by
  rw [stream, if_pos he]
  cases E.evaluate F e n <;> rfl

theorem count_eq (E : Evaluator) (F : Forest) (e : Expression) (n : NodeId) :
    E.count F e n = (E.stream F e n).map fun c => (c.drain F).length := by
  rw [count]
  cases E.stream F e n <;> rfl

theorem count_eq_error_iff : E.count F e n = .error err ↔ E.stream F e n = .error err := by
  rw [count_eq]
  cases E.stream F e n <;> simp [Except.map]

theorem evaluate_eq_error_iff : E.evaluate F e n = .error err ↔ E.stream F e n = .error err := by
  cases he : e.referenced with
  | true =>
    rw [stream_referenced he]
    cases E.evaluate F e n <;> simp [Except.map]
  | false =>
    cases hc : E.resolve F e.chain with
    | error err' => rw [evaluate_eq_error hc, stream_eq_error he hc]; simp
    | ok chain => rw [evaluate_plain he hc, stream_plain he hc]; simp

/-- An expression that is not referenced is evaluated to the nodes that its chain selects, counted
as so many, and streamed as these nodes in any schedule of pulls. A referenced one is counted and
streamed as the nodes that it is evaluated to. All three fail together, for the same reason. -/
theorem stream_and_count_agree_with_evaluate (hF : F.WellFormed) (E : Evaluator) (e : Expression)
    (n : NodeId) :
    (e.referenced = false → ∀ chain, E.resolve F e.chain = .ok chain →
      (∃ m, E.evaluate F e n = .ok m ∧ m.nodes = chain.select F [n]) ∧
      E.count F e n = .ok (chain.select F [n]).length ∧
      ∃ c, E.stream F e n = .ok c ∧ c.Gives F (chain.select F [n])) ∧
    (e.referenced = true → ∀ m, E.evaluate F e n = .ok m →
      E.count F e n = .ok m.nodes.length ∧ ∃ c, E.stream F e n = .ok c ∧ c.Gives F m.nodes) ∧
    ∀ err, (E.evaluate F e n = .error err ↔ E.count F e n = .error err) ∧
      (E.evaluate F e n = .error err ↔ E.stream F e n = .error err) ∧
      (e.referenced = false →
        (E.evaluate F e n = .error err ↔ E.resolve F e.chain = .error err)) := by
  refine ⟨fun he chain hc => ⟨⟨_, evaluate_plain he hc, ?_⟩, ?_, _, stream_plain he hc, ?_⟩,
    fun he m hm => ⟨?_, .list m.nodes, ?_, Cursor.gives_remaining hF _⟩,
    fun err => ⟨?_, evaluate_eq_error_iff, evaluate_eq_error_iff_resolve⟩⟩
  · rw [Match.nodes_ofNodes, drain_cursor hF]
  · rw [count_eq, stream_plain he hc, ← drain_cursor hF]
    rfl
  · rw [← drain_cursor hF, Cursor.drain_eq_remaining hF]
    exact Cursor.gives_remaining hF _
  · rw [count_eq, stream_referenced he, hm]
    show Except.ok ((Cursor.list m.nodes).drain F).length = _
    rw [Cursor.drain_eq_remaining hF]
    rfl
  · rw [stream_referenced he, hm]
    rfl
  · rw [count_eq_error_iff, evaluate_eq_error_iff]

/-- Of the children of a root, those after the first or among the first two, but not both. -/
theorem stream_and_count_agree_with_evaluate_group :
    let F := [Edit.create "r" .null, .create "a" .null, .create "b" .null, .create "c" .null,
      .add ⟨0⟩ ⟨1⟩, .add ⟨0⟩ ⟨2⟩, .add ⟨0⟩ ⟨3⟩].foldl Edit.run {}
    let inner := ⟨[.single (.range (some 1) none)], [⟨.xor, [.single (.range none (some 2))]⟩]⟩
    let chain := ⟨[.single .children, .group inner], []⟩
    let e := ⟨"@/*(/[1,] ^ /[,2])?node", false, chain, .node, none⟩
    Expression.compile "@/*(/[1,] ^ /[,2])?node" = .ok e ∧ F.WellFormed ∧
      (∃ m, Evaluator.evaluate {} F e ⟨0⟩ = .ok m ∧ m.nodes = [⟨3⟩, ⟨1⟩]) ∧
      Evaluator.count {} F e ⟨0⟩ = .ok 2 ∧
      ∃ c, Evaluator.stream {} F e ⟨0⟩ = .ok c ∧ c.Gives F [⟨3⟩, ⟨1⟩] := by
  intro F inner chain e
  have hF : F.Reachable := Forest.Reachable.empty.foldl (by decide +kernel)
  refine ⟨?_, hF.wellFormed, ?_⟩
  · dsimp only [e, chain, inner]
    rfl
  · exact (stream_and_count_agree_with_evaluate hF.wellFormed {} e ⟨0⟩).1 rfl _ rfl

end Evaluator
end TreeQuery
