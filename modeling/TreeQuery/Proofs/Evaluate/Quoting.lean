import TreeQuery.Proofs.Evaluate.Selection
import TreeQuery.Proofs.Expression.Compose
import TreeQuery.Proofs.Expression.Grammar

namespace TreeQuery

namespace Expression

theorem reads_children {front : List Char} {t : Token}
    (h : Token.Spells front "?node".toList t) :
    Token.Reads ("@/*/".toList ++ (front ++ "?node".toList))
      [.sentinel, .slash, .word "*" false, .slash, t, .suffix "node"] [] := by
  have hsuffix : Token.Spells "?node".toList [] (.suffix "node") := ⟨rfl, _, rfl, by decide⟩
  have hend := Token.reads_of_spells h (Token.reads_of_spells hsuffix (Token.reads_nil []))
  have hstar (rest : List Char) : Token.Spells ['*'] ('/' :: rest) (.word "*" false) := by
    refine ⟨⟨'*', rfl, by decide, by decide, rfl⟩, ?_, Token.breaks_cons rfl rest⟩
    exact .plain rfl (by decide) .nil
  have hsentinel (rest : List Char) : Token.Spells ['@'] ('/' :: rest) .sentinel :=
    ⟨rfl, by simp⟩
  have hslash (rest : List Char) : Token.Spells ['/'] rest .slash := rfl
  show Token.Reads (['@'] ++ (['/'] ++ (['*'] ++ (['/'] ++ (front ++ "?node".toList))))) _ _
  exact Token.reads_of_spells (hsentinel _) <| Token.reads_of_spells (hslash _) <|
    Token.reads_of_spells (hstar _) <| Token.reads_of_spells (hslash _) hend

theorem compile_children {text : String} {front : List Char} {t : Token} {s : Selector Literal}
    (htext : text.toList = "@/*/".toList ++ (front ++ "?node".toList))
    (hfront : Token.Spells front "?node".toList t) (ht : t.selector? = some (.ok s)) :
    compile text = .ok ⟨text, false, ⟨[.single .children, .single s], []⟩, .node, none⟩ := by
  have hreads : Token.Reads text.toList
      (.sentinel :: ([.slash, .word "*" false] ++ [.slash, t]) ++ [.suffix "node"]) [] := by
    rw [htext]
    exact reads_children hfront
  have hstar : (Token.word "*" false).selector? = some (.ok .children) := rfl
  have hbody : Token.IsBody ([.slash, .word "*" false] ++ [.slash, t]) :=
    (Token.isBody_step hstar).append (Token.isBody_step ht)
  have hkind : IsSuffix "node" .node none := ⟨"node".toList, by decide, rfl, rfl⟩
  refine compile_of_reads hreads hbody hkind ?_
  have hmark : t.mark? = some (.step s) := (Token.of_selector ht).2.2 s rfl
  show [Mark.step .children, .step s] = .step .children :: [Token.slash, t].filterMap Token.mark?
  rw [List.filterMap_cons_none rfl, List.filterMap_cons_some hmark]
  rfl

end Expression

namespace Evaluator

variable {F : Forest} {E : Evaluator} {c : NodeId}

theorem evaluateText_children (hF : F.WellFormed) {text : String} {s : Selector Literal}
    {s' : Selector Value} {p : NodeId → Bool}
    (htext : Expression.compile text =
      .ok ⟨text, false, ⟨[.single .children, .single s], []⟩, .node, none⟩)
    (hs : s.mapM (E.literal F) = .ok s')
    (hp : ∀ ns, s'.apply F ns = ns.filter p) :
    E.evaluateText F text c = .ok (Match.ofNodes .node none ((F.children c).filter p)) := by
  have hresolve : E.resolve F ⟨[.single .children, .single s], []⟩ =
      .ok ⟨[.single .children, .single s'], []⟩ := by
    rw [resolve, Chain.mapM, Step.mapAllM, Step.mapAllM, Step.mapM, Step.mapM, hs]
    rfl
  rw [evaluateText_of_compile htext, evaluate_plain rfl hresolve, drain_cursor hF]
  show Except.ok (Match.ofNodes .node none (s'.apply F ([c].flatMap F.children))) = _
  rw [hp, List.flatMap_singleton]

end Evaluator

namespace Token

/-- A text as it stands between the marks of a verbatim literal. -/
def doubledText (s : String) : String := String.ofList (doubled s.toList)

/-- A text as it stands between the marks of a quoted literal. -/
def guardedText (s : String) : String := String.ofList (guarded s.toList)

theorem spells_doubled (text : String) :
    Spells ('@' :: '"' :: doubled text.toList ++ ['"']) "?node".toList (.literal text) :=
  .inl ⟨rfl, by simp⟩

theorem spells_guarded (text : String) :
    Spells ('"' :: guarded text.toList ++ ['"']) "?node".toList (.literal text) :=
  .inr ⟨guarded text.toList, rfl, spellsQuoted_guarded text.toList⟩

end Token

namespace Selector

theorem apply_named (F : Forest) (s : String) (ns : List NodeId) :
    (named s).apply F ns = ns.filter fun n => F.name n = s := by
  rw [← List.filterMap_eq_filter]
  refine congrArg (List.filterMap · ns) (funext fun n => ?_)
  simp [step?, Option.guard]

theorem apply_equals_string (F : Forest) (s : String) (ns : List NodeId) :
    (equals (.string s)).apply F ns = ns.filter fun n => F.value n = .string s := by
  rw [← List.filterMap_eq_filter]
  refine congrArg (List.filterMap · ns) (funext fun n => ?_)
  cases hvalue : F.value n <;> simp [step?, Option.guard, Value.equals, hvalue]

theorem ofLiteral_name (s : String) : ofLiteral ("\\" ++ s).toList = .ok (.named s) := by
  rw [String.toList_append]
  show Except.ok (named (String.ofList s.toList)) = _
  rw [String.ofList_toList]

theorem ofLiteral_typed (s : String) :
    ofLiteral ("=:string:" ++ s).toList = .ok (.equals (.typed "string" s)) := by
  rw [String.toList_append]
  show Except.ok (equals (Literal.typed "string" (String.ofList s.toList))) = _
  rw [String.ofList_toList]

end Selector

/-- Every text can be quoted. With its quotation marks doubled, or with a backslash before each mark
and each backslash, it stands for a name, and the children that have this name are selected; after
the name of its type it stands for itself, and the children that have it as their value are. -/
theorem Evaluator.evaluateText_quoted {F : Forest} (hF : F.WellFormed) (E : Evaluator) (c : NodeId)
    (s : String) :
    E.evaluateText F ("@/*/@\"\\" ++ Token.doubledText s ++ "\"?node") c =
      .ok (Match.ofNodes .node none ((F.children c).filter fun n => F.name n = s)) ∧
    E.evaluateText F ("@/*/\"\\\\" ++ Token.guardedText s ++ "\"?node") c =
      E.evaluateText F ("@/*/@\"\\" ++ Token.doubledText s ++ "\"?node") c ∧
    (E.convert = TreeQuery.convert →
      E.evaluateText F ("@/*/@\"=:string:" ++ Token.doubledText s ++ "\"?node") c =
        .ok (Match.ofNodes .node none ((F.children c).filter fun n => F.value n = .string s))) := by
  have hnamed {text : String} {front : List Char}
      (htext : text.toList = "@/*/".toList ++ (front ++ "?node".toList))
      (hfront : Token.Spells front "?node".toList (.literal ("\\" ++ s))) :
      E.evaluateText F text c =
        .ok (Match.ofNodes .node none ((F.children c).filter fun n => F.name n = s)) := by
    have hsel : (Token.literal ("\\" ++ s)).selector? = some (.ok (.named s)) :=
      congrArg some (Selector.ofLiteral_name s)
    exact evaluateText_children hF (Expression.compile_children htext hfront hsel) rfl
      (Selector.apply_named F s)
  have hdoubled : E.evaluateText F ("@/*/@\"\\" ++ Token.doubledText s ++ "\"?node") c =
      .ok (Match.ofNodes .node none ((F.children c).filter fun n => F.name n = s)) := by
    refine hnamed ?_ (Token.spells_doubled ("\\" ++ s))
    simp [Token.doubledText, Token.doubled]
  refine ⟨hdoubled, (hnamed ?_ (Token.spells_guarded ("\\" ++ s))).trans hdoubled.symm, ?_⟩
  · simp [Token.guardedText, Token.guarded]
  · intro hconvert
    have hsel : (Token.literal ("=:string:" ++ s)).selector? =
        some (.ok (.equals (.typed "string" s))) := congrArg some (Selector.ofLiteral_typed s)
    have hliteral : E.literal F (.typed "string" s) = .ok (.string s) := by
      rw [literal, convertTo, hconvert]
      rfl
    have hmap : (Selector.equals (.typed "string" s)).mapM (E.literal F) =
        .ok (.equals (.string s)) := by
      rw [Selector.mapM, hliteral]
      rfl
    refine evaluateText_children hF (Expression.compile_children ?_
      (Token.spells_doubled ("=:string:" ++ s)) hsel) hmap (Selector.apply_equals_string F s)
    simp [Token.doubledText, Token.doubled]

/-- A name with a mark, a slash and a question mark, which is also the value of another child. -/
theorem Evaluator.evaluateText_quoted_marks :
    let F := [Edit.create "r" .null, .create "a\"/?" .null, .create "b" (.string "a\"/?"),
      .add ⟨0⟩ ⟨1⟩, .add ⟨0⟩ ⟨2⟩].foldl Edit.run {}
    F.WellFormed ∧
      Evaluator.evaluateText {} F "@/*/@\"\\a\"\"/?\"?node" ⟨0⟩ =
        .ok (Match.ofNodes .node none [⟨1⟩]) ∧
      Evaluator.evaluateText {} F "@/*/\"\\\\a\\\"/?\"?node" ⟨0⟩ =
        .ok (Match.ofNodes .node none [⟨1⟩]) ∧
      Evaluator.evaluateText {} F "@/*/@\"=:string:a\"\"/?\"?node" ⟨0⟩ =
        .ok (Match.ofNodes .node none [⟨2⟩]) := by
  intro F
  have hF : F.Reachable := Forest.Reachable.empty.foldl (by decide +kernel)
  obtain ⟨hdoubled, hguarded, htyped⟩ := evaluateText_quoted hF.wellFormed {} ⟨0⟩ "a\"/?"
  exact ⟨hF.wellFormed, hdoubled, hguarded.trans hdoubled, htyped rfl⟩

end TreeQuery
