import TreeQuery.Proofs.Evaluate.Mirror
import TreeQuery.Proofs.Evaluate.Selection
import TreeQuery.Proofs.Expression.Grammar
import TreeQuery.Proofs.Expression.Image

namespace TreeQuery

/-- A step width is not zero, positions have 64 bits, and offsets one of them for the sign. -/
def Selector.Fits {α : Type} : Selector α → Prop
  | .everyNth n => 0 < n ∧ n < 2 ^ 64
  | .range start stop => (∀ i ∈ start, i < 2 ^ 64) ∧ ∀ i ∈ stop, i < 2 ^ 64
  | .numbered i => i < 2 ^ 64
  | .sibling offset => -2 ^ 63 ≤ offset ∧ offset < 2 ^ 63
  | _ => True

theorem Selector.fits_of_wellFormed {s : Selector Literal} (h : s.WellFormed) : s.Fits := by
  cases s with
  | sibling offset =>
    rw [WellFormed] at h
    rw [Fits]
    omega
  | everyNth | range | numbered => exact h
  | _ => exact trivial

theorem Selector.fits_of_mapM {α β ε : Type} {f : α → Except ε β} {s : Selector α}
    {t : Selector β} (hs : s.Fits) (h : s.mapM f = .ok t) : t.Fits := by
  cases s with
  | equals a =>
    obtain ⟨b, -, rfl⟩ := ok_of_map h
    exact trivial
  | _ =>
    obtain rfl := Except.ok.inj h
    exact hs

theorem Expression.fits_of_compile {text : String} {e : Expression} (he : compile text = .ok e) :
    e.chain.Every Selector.Fits :=
  (Chain.every_iff _).2 fun s hs =>
    Selector.fits_of_wellFormed ((Chain.every_iff _).1 (wellFormed_of_compile he) s hs)

theorem Expression.fits_of_resolve {text : String} {e : Expression} (he : compile text = .ok e)
    {E : Evaluator} {F : Forest} {chain : Chain Value} (h : E.resolve F e.chain = .ok chain) :
    chain.Every Selector.Fits :=
  Chain.every_of_mapM (fun _ _ hs => Selector.fits_of_mapM hs) e.chain (fits_of_compile he) h

/-- What a converter makes of a text depends on nothing but the text and the type. -/
def Converter.IsPure (convert : Converter) : Prop :=
  ∀ F G text typeName, convert F (.string text) typeName = convert G (.string text) typeName

theorem isPure_convert : Converter.IsPure convert :=
  fun F G _ typeName => convert_congr G F (by simp) typeName

/-- The type and the text of a literal that has a type. -/
def Literal.typed? : Literal → Option (String × String)
  | .plain _ => none
  | .typed typeName text => some (typeName, text)

/-- The types and texts of the literals of a chain that have types, in the order in which they are
written. -/
def Chain.typedLiterals (c : Chain Literal) : List (String × String) :=
  c.literals.filterMap Literal.typed?

def Token.typedLiterals (ts : List Token) : List (String × String) :=
  (Mark.literals (ts.filterMap Token.mark?)).filterMap Literal.typed?

/-- The literals of a compiled chain stand in the order in which the text has them. -/
theorem Expression.typedLiterals_of_compile {text : String} {e : Expression}
    (he : compile text = .ok e) : ∃ body suffix, IsExpression text e.referenced body suffix ∧
      e.chain.typedLiterals = Token.typedLiterals body := by
  obtain ⟨body, suffix, hexp, -, -, hmarks⟩ := compile_eq_ok_iff.1 he
  refine ⟨body, suffix, hexp, ?_⟩
  rw [Chain.typedLiterals, Chain.literals, hmarks, Token.typedLiterals]

namespace Evaluator

def convertText (E : Evaluator) (l : String × String) : Except ConvertError Value :=
  E.convert {} (.string l.2) l.1

/-- Some texts can all be converted to their types. -/
def Converts (E : Evaluator) (ls : List (String × String)) : Prop :=
  ∀ l ∈ ls, ∃ v, E.convertText l = .ok v

/-- The error of the first of some texts that cannot be converted to their types. -/
def FirstFailure (E : Evaluator) (ls : List (String × String)) (err : EvalError) : Prop :=
  ∃ before l after e, ls = before ++ l :: after ∧ (∀ b ∈ before, ∃ v, E.convertText b = .ok v) ∧
    E.convertText l = .error e ∧ err = .conversion e

variable {E : Evaluator} {F : Forest} {chain : Chain Literal} {err : EvalError}

theorem resolve_eq_error_iff_mapM (hE : Converter.IsPure E.convert) :
    E.resolve F chain = .error err ↔
      (chain.typedLiterals.mapM fun l => E.convertTo {} l.1 (.string l.2)) = .error err := by
  refine Chain.mapM_eq_error_iff.trans (mapM_filterMap_eq_error_iff ?_ ?_)
  · intro l hl
    cases l with
    | plain text => exact ⟨_, rfl⟩
    | typed typeName text => exact absurd hl nofun
  · intro l pair hl
    cases l with
    | plain text => exact absurd hl nofun
    | typed typeName text =>
      obtain rfl := Option.some.inj hl
      rw [literal, convertTo, convertTo, hE F {}]

theorem resolve_eq_error_iff (hE : Converter.IsPure E.convert) :
    E.resolve F chain = .error err ↔ E.FirstFailure chain.typedLiterals err := by
  rw [resolve_eq_error_iff_mapM hE, mapM_eq_error_iff, FirstFailure]
  simp only [convertTo_eq_ok_iff, convertTo_eq_error_iff, convertText]
  constructor
  · rintro ⟨before, l, after, hsplit, hbefore, e, hl, rfl⟩
    exact ⟨before, l, after, e, hsplit, hbefore, hl, rfl⟩
  · rintro ⟨before, l, after, e, hsplit, hbefore, hl, rfl⟩
    exact ⟨before, l, after, hsplit, hbefore, e, hl, rfl⟩

theorem exists_resolve_iff (hE : Converter.IsPure E.convert) :
    (∃ resolved, E.resolve F chain = .ok resolved) ↔ E.Converts chain.typedLiterals := by
  constructor
  · rintro ⟨resolved, h⟩ l hl
    cases hmap : chain.typedLiterals.mapM fun l => E.convertTo {} l.1 (.string l.2) with
    | error err =>
      rw [(resolve_eq_error_iff_mapM hE).2 hmap] at h
      exact absurd h nofun
    | ok vs =>
      obtain ⟨v, hv⟩ := ok_of_mem_mapM hmap hl
      exact ⟨v, convertTo_eq_ok_iff.1 hv⟩
  · intro hall
    cases h : E.resolve F chain with
    | ok resolved => exact ⟨resolved, rfl⟩
    | error err =>
      obtain ⟨before, l, after, e, hsplit, -, hl, -⟩ := (resolve_eq_error_iff hE).1 h
      obtain ⟨v, hv⟩ := hall l (hsplit ▸ List.mem_append_right _ List.mem_cons_self)
      exact absurd (hv.symm.trans hl) nofun

variable {e : Expression} {n : NodeId}

theorem evaluate_eq_error_iff_firstFailure (he : e.referenced = false)
    (hE : Converter.IsPure E.convert) :
    E.evaluate F e n = .error err ↔ E.FirstFailure e.chain.typedLiterals err :=
  (evaluate_eq_error_iff_resolve he).trans (resolve_eq_error_iff hE)

theorem exists_evaluate_iff (he : e.referenced = false) (hE : Converter.IsPure E.convert) :
    (∃ m, E.evaluate F e n = .ok m) ↔ E.Converts e.chain.typedLiterals :=
  (exists_ok_congr fun _ => evaluate_eq_error_iff_resolve he).trans (exists_resolve_iff hE)

/-- An expression that is not referenced is evaluated, streamed and counted at every node of every
forest exactly if all texts of literals with types, wherever they stand, can be converted, and
otherwise fails with the error of the first that cannot. The numbers of all steps are in range. -/
theorem evaluation_fails_at_typed_literals {text : String} {e : Expression}
    (he : Expression.compile text = .ok e) (hplain : e.referenced = false) {E : Evaluator}
    (hE : Converter.IsPure E.convert) :
    (∃ body suffix, Expression.IsExpression text false body suffix ∧
      e.chain.typedLiterals = Token.typedLiterals body) ∧
    (∀ F n,
      ((∃ m, E.evaluate F e n = .ok m) ↔ E.Converts e.chain.typedLiterals) ∧
      ((∃ c, E.stream F e n = .ok c) ↔ E.Converts e.chain.typedLiterals) ∧
      ((∃ k, E.count F e n = .ok k) ↔ E.Converts e.chain.typedLiterals) ∧
      ∀ err, (E.evaluate F e n = .error err ↔ E.FirstFailure e.chain.typedLiterals err) ∧
        (E.stream F e n = .error err ↔ E.FirstFailure e.chain.typedLiterals err) ∧
        (E.count F e n = .error err ↔ E.FirstFailure e.chain.typedLiterals err)) ∧
    e.chain.Every Selector.Fits ∧
    ∀ F chain, E.resolve F e.chain = .ok chain → chain.Every Selector.Fits := by
  refine ⟨hplain ▸ Expression.typedLiterals_of_compile he, fun F n => ?_,
    Expression.fits_of_compile he, fun F chain => Expression.fits_of_resolve he⟩
  have hstream (err : EvalError) : E.stream F e n = .error err ↔ E.evaluate F e n = .error err :=
    evaluate_eq_error_iff.symm
  have hcount (err : EvalError) : E.count F e n = .error err ↔ E.evaluate F e n = .error err :=
    count_eq_error_iff.trans (hstream err)
  have hok : (∃ m, E.evaluate F e n = .ok m) ↔ E.Converts e.chain.typedLiterals :=
    exists_evaluate_iff hplain hE
  refine ⟨hok, (exists_ok_congr hstream).trans hok, (exists_ok_congr hcount).trans hok, ?_⟩
  intro err
  have herr : E.evaluate F e n = .error err ↔ E.FirstFailure e.chain.typedLiterals err :=
    evaluate_eq_error_iff_firstFailure hplain hE
  exact ⟨herr, (hstream err).trans herr, (hcount err).trans herr⟩

/-- A literal in a right side, which no node reaches, after one in a left side. -/
theorem evaluation_fails_at_typed_literals_operand :
    let e : Expression := ⟨"@/(/=:int:5 | /%2/=:int:x)?node", false,
      ⟨[.group ⟨[.single (.equals (.typed "int" "5"))],
        [⟨.or, [.single (.everyNth 2), .single (.equals (.typed "int" "x"))]⟩]⟩], []⟩, .node, none⟩
    let err := EvalError.conversion ⟨"String(\"x\")", "int", .integer .invalidDigit⟩
    Expression.compile "@/(/=:int:5 | /%2/=:int:x)?node" = .ok e ∧ ∀ F n,
      Evaluator.evaluate {} F e n = .error err ∧ Evaluator.stream {} F e n = .error err ∧
        Evaluator.count {} F e n = .error err := by
  intro e err
  have he : Expression.compile "@/(/=:int:5 | /%2/=:int:x)?node" = .ok e := by
    dsimp only [e]
    rfl
  have hfirst : Evaluator.FirstFailure {} e.chain.typedLiterals err := by
    refine ⟨[("int", "5")], ("int", "x"), [], _, rfl, ?_, rfl, rfl⟩
    intro b hb
    obtain rfl := List.mem_singleton.1 hb
    exact ⟨.integer 5, rfl⟩
  refine ⟨he, fun F n => ?_⟩
  obtain ⟨-, -, -, herr⟩ :=
    (evaluation_fails_at_typed_literals he rfl (E := {}) isPure_convert).2.1 F n
  exact ⟨(herr err).1.2 hfirst, (herr err).2.1.2 hfirst, (herr err).2.2.2 hfirst⟩

end Evaluator
end TreeQuery
