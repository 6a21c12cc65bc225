import TreeQuery.Proofs.Evaluate.Selection
import TreeQuery.Proofs.Expression.Splice
import TreeQuery.Proofs.Result

namespace TreeQuery

theorem mem_amongst {keep : Bool} {known ns : List NodeId} {n : NodeId} :
    n ∈ amongst keep known ns ↔ n ∈ ns ∧ (n ∈ known ↔ keep = true) := by
  rw [amongst, List.mem_filter, beq_iff_eq, Bool.eq_iff_iff, List.contains_iff_mem]

theorem mem_firstsOutside {seen ns : List NodeId} {n : NodeId} :
    n ∈ firstsOutside seen ns ↔ n ∈ ns ∧ n ∉ seen := by
  induction ns generalizing seen with
  | nil => simp [firstsOutside]
  | cons x ns ih =>
    rw [firstsOutside]
    by_cases hx : seen.contains x = true
    · rw [if_pos hx, ih, List.mem_cons]
      rw [List.contains_iff_mem] at hx
      constructor
      · exact fun h => ⟨.inr h.1, h.2⟩
      · rintro ⟨rfl | h, hseen⟩
        · exact absurd hx hseen
        · exact ⟨h, hseen⟩
    · rw [if_neg hx, List.mem_cons, ih, List.mem_cons, List.mem_cons, not_or]
      rw [List.contains_iff_mem] at hx
      constructor
      · rintro (rfl | ⟨h, -, hseen⟩)
        · exact ⟨.inl rfl, hx⟩
        · exact ⟨.inr h, hseen⟩
      · rintro ⟨rfl | h, hseen⟩
        · exact .inl rfl
        · by_cases hn : n = x
          · exact .inl hn
          · exact .inr ⟨h, hn, hseen⟩

namespace SetOp

/-- What an operator says of a node, given whether each side has it. -/
def Holds (op : SetOp) (left right : Prop) : Prop :=
  match op with
  | or => left ∨ right
  | and => left ∧ right
  | xor => left ∧ ¬ right ∨ right ∧ ¬ left
  | not => left ∧ ¬ right

theorem mem_combine {op : SetOp} {left right : List NodeId} {n : NodeId} :
    n ∈ op.combine left right ↔ op.Holds (n ∈ left) (n ∈ right) := by
  cases op with
  | or =>
    rw [combine, List.mem_append, mem_firstsOutside, Holds]
    by_cases h : n ∈ left <;> simp [h]
  | and => simp [combine, mem_amongst, Holds]
  | xor => simp [combine, mem_amongst, Holds]
  | not => simp [combine, mem_amongst, Holds]

theorem combine_self (ns : List NodeId) :
    or.combine ns ns = ns ∧ not.combine ns ns = [] ∧ xor.combine ns ns = [] := by
  have hnone {op : SetOp} (h : ∀ p, ¬ op.Holds p p) : op.combine ns ns = [] :=
    List.eq_nil_iff_forall_not_mem.2 fun n hn => h _ (mem_combine.1 hn)
  refine ⟨?_, hnone fun p h => h.2 h.1, hnone fun p h => ?_⟩
  · have hfirsts : firstsOutside ns ns = [] :=
      List.eq_nil_iff_forall_not_mem.2 fun n hn =>
        (mem_firstsOutside.1 hn).2 (mem_firstsOutside.1 hn).1
    rw [combine, hfirsts, List.append_nil]
  · rcases h with ⟨hp, hn⟩ | ⟨hp, hn⟩ <;> exact hn hp

end SetOp

namespace Evaluator

variable {F : Forest} {E : Evaluator} {c : NodeId}

/-- A text selects nodes, in this order. -/
def Selects (E : Evaluator) (F : Forest) (text : String) (c : NodeId) (ns : List NodeId) : Prop :=
  E.evaluateText F text c = .ok (Match.ofNodes .node none ns)

/-- If an expression for nodes can be evaluated, its literals have values, and the nodes are those
that its chain selects. -/
theorem resolve_of_evaluateText (hF : F.WellFormed) {text : String} {chain : Chain Literal}
    {m : Match} (htext : Expression.compile text = .ok ⟨text, false, chain, .node, none⟩)
    (hm : E.evaluateText F text c = .ok m) :
    ∃ chain', E.resolve F chain = .ok chain' ∧ m.nodes = chain'.select F [c] := by
  rw [evaluateText_of_compile htext] at hm
  cases hchain : E.resolve F chain with
  | error err =>
    rw [evaluate_eq_error hchain] at hm
    exact absurd hm nofun
  | ok chain' =>
    rw [evaluate_plain rfl hchain, drain_cursor hF] at hm
    refine ⟨chain', rfl, ?_⟩
    rw [← Except.ok.inj hm, Match.nodes_ofNodes]

theorem selects_of_resolve (hF : F.WellFormed) {text : String} {chain : Chain Literal}
    {chain' : Chain Value} (htext : Expression.compile text = .ok ⟨text, false, chain, .node, none⟩)
    (hchain : E.resolve F chain = .ok chain') : E.Selects F text c (chain'.select F [c]) := by
  rw [Selects, evaluateText_of_compile htext, evaluate_plain rfl hchain, drain_cursor hF]

theorem selects_combined (hF : F.WellFormed) {left right : String} {a b : Match}
    (hleft : ∃ steps, Expression.IsFragment left steps)
    (hright : ∃ steps, Expression.IsFragment right steps)
    (ha : E.evaluateText F ("@" ++ left ++ "?node") c = .ok a)
    (hb : E.evaluateText F ("@" ++ right ++ "?node") c = .ok b) (op : SetOp) :
    E.Selects F (Expression.combined op left right) c (op.combine a.nodes b.nodes) := by
  obtain ⟨steps, hsteps⟩ := hleft
  obtain ⟨steps', hsteps'⟩ := hright
  obtain ⟨chain, hchain, hnodes⟩ := resolve_of_evaluateText hF hsteps ha
  obtain ⟨chain', hchain', hnodes'⟩ := resolve_of_evaluateText hF hsteps' hb
  -- the values of the literals are the same in the group
  obtain ⟨values, hvalues, hchain⟩ := ok_of_bind hchain
  obtain ⟨values', hvalues', hchain'⟩ := ok_of_bind hchain'
  obtain rfl : Chain.mk values [] = chain := Except.ok.inj hchain
  obtain rfl : Chain.mk values' [] = chain' := Except.ok.inj hchain'
  have hgroup : E.resolve F ⟨[.group ⟨steps, [⟨op, steps'⟩]⟩], []⟩ =
      .ok ⟨[.group ⟨values, [⟨op, values'⟩]⟩], []⟩ := by
    rw [resolve, Chain.mapM, Step.mapAllM, Step.mapM, Chain.mapM, Operand.mapAllM.eq_2, hvalues,
      hvalues']
    rfl
  have hcompile := Expression.compile_combined hsteps hsteps' op
  have hselects := selects_of_resolve (c := c) hF hcompile hgroup
  rw [hnodes, hnodes']
  exact hselects

/-- The laws of sets at the level of texts, for pieces without operators of their own outside
parentheses. A piece combined with itself gives its own nodes, in their order and as often, or none;
two pieces in either order give the intersection, the symmetric difference and the union. -/
theorem combined_laws (hF : F.WellFormed) (E : Evaluator) (c : NodeId) {A B : String} {a b : Match}
    (hA : ∃ steps, Expression.IsFragment A steps) (hB : ∃ steps, Expression.IsFragment B steps)
    (ha : E.evaluateText F ("@" ++ A ++ "?node") c = .ok a)
    (hb : E.evaluateText F ("@" ++ B ++ "?node") c = .ok b) :
    (E.Selects F (Expression.combined .or A A) c a.nodes ∧
      E.Selects F (Expression.combined .not A A) c [] ∧
      E.Selects F (Expression.combined .xor A A) c []) ∧
    (∃ ns ns', E.Selects F (Expression.combined .and A B) c ns ∧
      E.Selects F (Expression.combined .and B A) c ns' ∧ (∀ n, n ∈ ns ↔ n ∈ ns') ∧
      ∀ n, n ∈ ns ↔ n ∈ a.nodes ∧ n ∈ b.nodes) ∧
    (∃ ns ns', E.Selects F (Expression.combined .xor A B) c ns ∧
      E.Selects F (Expression.combined .xor B A) c ns' ∧ (∀ n, n ∈ ns ↔ n ∈ ns') ∧
      ∀ n, n ∈ ns ↔ n ∈ a.nodes ∧ n ∉ b.nodes ∨ n ∈ b.nodes ∧ n ∉ a.nodes) ∧
    ∃ ns, E.Selects F (Expression.combined .or A B) c ns ∧
      ∀ n, n ∈ ns ↔ n ∈ a.nodes ∨ n ∈ b.nodes := by
  have hself := selects_combined hF hA hA ha ha
  have hpair := selects_combined hF hA hB ha hb
  have hswapped := selects_combined hF hB hA hb ha
  obtain ⟨hor, hnot, hxor⟩ := SetOp.combine_self a.nodes
  refine ⟨⟨?_, ?_, ?_⟩, ⟨_, _, hpair .and, hswapped .and, fun n => ?_, fun n => SetOp.mem_combine⟩,
    ⟨_, _, hpair .xor, hswapped .xor, fun n => ?_, fun n => SetOp.mem_combine⟩,
    ⟨_, hpair .or, fun n => SetOp.mem_combine⟩⟩
  · have hsame := hself .or
    rwa [hor] at hsame
  · rw [← hnot]
    exact hself .not
  · rw [← hxor]
    exact hself .xor
  · rw [SetOp.mem_combine, SetOp.mem_combine]
    exact and_comm
  · rw [SetOp.mem_combine, SetOp.mem_combine]
    exact or_comm

/-- The children of a root, and all of them but the first together with the root itself. -/
theorem combined_laws_group :
    let F := [Edit.create "r" .null, .create "a" .null, .create "b" .null, .create "c" .null,
      .add ⟨0⟩ ⟨1⟩, .add ⟨0⟩ ⟨2⟩, .add ⟨0⟩ ⟨3⟩].foldl Edit.run {}
    F.WellFormed ∧ (∃ steps, Expression.IsFragment "/*" steps) ∧
      (∃ steps, Expression.IsFragment "(/*/[1,] | /..)" steps) ∧
      Selects {} F "@/*?node" ⟨0⟩ [⟨1⟩, ⟨2⟩, ⟨3⟩] ∧
      Selects {} F "@(/*/[1,] | /..)?node" ⟨0⟩ [⟨2⟩, ⟨3⟩, ⟨0⟩] ∧
      Selects {} F "@/(/*/|/*/)?node" ⟨0⟩ [⟨1⟩, ⟨2⟩, ⟨3⟩] ∧
      ∃ ns, Selects {} F "@/(/*/^(/*/[1,] | /..)/)?node" ⟨0⟩ ns ∧
        ∀ n, n ∈ ns ↔ n = ⟨1⟩ ∨ n = ⟨0⟩ := by
  intro F
  have hF : F.Reachable := Forest.Reachable.empty.foldl (by decide +kernel)
  have hA : Expression.IsFragment "/*" [.single .children] := by
    show Expression.compile "@/*?node" = .ok ⟨"@/*?node", false, _, .node, none⟩
    rfl
  have hB : Expression.IsFragment "(/*/[1,] | /..)" [.group ⟨[.single .children,
      .single (.range (some 1) none)], [⟨.or, [.single .root]⟩]⟩] := by
    show Expression.compile "@(/*/[1,] | /..)?node" =
      .ok ⟨"@(/*/[1,] | /..)?node", false, _, .node, none⟩
    rfl
  have ha : Selects {} F "@/*?node" ⟨0⟩ [⟨1⟩, ⟨2⟩, ⟨3⟩] :=
    evaluateText_of_compile hA
  have hb : Selects {} F "@(/*/[1,] | /..)?node" ⟨0⟩ [⟨2⟩, ⟨3⟩, ⟨0⟩] :=
    evaluateText_of_compile hB
  obtain ⟨⟨hor, -⟩, -, ⟨ns, -, hxor, -, -, hmem⟩, -⟩ :=
    combined_laws hF.wellFormed {} ⟨0⟩ ⟨_, hA⟩ ⟨_, hB⟩ ha hb
  refine ⟨hF.wellFormed, ⟨_, hA⟩, ⟨_, hB⟩, ha, hb, hor, ns, hxor, fun n => ?_⟩
  rw [hmem, Match.nodes_ofNodes, Match.nodes_ofNodes]
  obtain ⟨i⟩ := n
  simp only [List.mem_cons, List.not_mem_nil, or_false, NodeId.mk.injEq]
  omega

end Evaluator
end TreeQuery
