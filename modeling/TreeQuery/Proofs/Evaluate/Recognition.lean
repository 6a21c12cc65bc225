import TreeQuery.Evaluate.Resolution
import TreeQuery.Proofs.Evaluate.Reference
import TreeQuery.Proofs.Expression.Recognition

namespace TreeQuery

/-- The values of a result: the number of its nodes if it is a count. -/
def Match.results (E : Evaluator) (F : Forest) (m : Match) : Except EvalError (List Value) :=
  if m.kind = .count then .ok [.integer (Int64.ofNat m.count)] else m.values E F

namespace Evaluator

variable {E : Evaluator} {F : Forest} {text : String} {e : Expression}

/-- Wherever a text may be evaluated, it stands for the results of an expression. -/
structure Evaluates (E : Evaluator) (F : Forest) (text : String) (e : Expression)
    (source : NodeId) : Prop where
  likely : Expression.isLikely text = true
  /-- An entity that holds the text is replaced by the entities of the expression at its node. -/
  expanded (budget : Nat) (m : Match) (before after : List Entity) (x : Entity)
    (hx : x.unconverted F = some (.string text)) (hm : m.entities = before ++ x :: after) :
    expand F (E.evaluateWith F budget) m = do
      let xs ← expand F (E.evaluateWith F budget) { m with entities := before }
      let inner ← E.evaluateWith F budget e x.node
      let ys ← expand F (E.evaluateWith F budget) { m with entities := after }
      return { m with
        entities := xs.entities ++ inner.entities.map (reconvert m.convert) ++ ys.entities }
  values : E.values F (.string text) source = E.evaluate F e source >>= Match.results E F
  single : E.single F (.string text) source =
    E.evaluate F e source >>= fun m => m.results E F >>= E.reduce F
  node (n : NodeId) (hn : E.templateWith F E.budget n source = .ok (.string text)) :
    E.evaluateNode F n source = E.evaluate F e source
  singleNode (n : NodeId) (hn : E.templateWith F E.budget n source = .ok (.string text)) :
    E.singleNode F n source = E.evaluate F e source >>= fun m => m.results E F >>= E.reduce F
  /-- As an argument of a template the text is reduced to one value, one level further down. -/
  argument (budget : Nat) (format : NodeId → NodeId → Except EvalError String) (n : NodeId)
    (hn : F.value n = .string text) (hplain : F.isFormatted n = false) :
    E.argumentWith F budget format n source = do
      let m ← E.evaluateWith F (budget - 1) e source
      E.textOf F (← E.reduce F (← m.results E F))
  /-- An argument that is a template itself is filled first, and then reduced. -/
  filledArgument (budget : Nat) (format : NodeId → NodeId → Except EvalError String) (n : NodeId)
    (hn : F.value n = .string text) (hformatted : F.isFormatted n = true) :
    E.argumentWith F budget format n source = do
      let filled ← format n source
      E.textOf F (← E.singleWith F (budget - 1) (.string filled) source)

theorem expand_append (F : Forest) (evaluate : Expression → NodeId → Except EvalError Match)
    (kind : Projection) (convert : Option String) (xs ys : List Entity) :
    expand F evaluate ⟨kind, convert, xs ++ ys⟩ = do
      let front ← expand F evaluate ⟨kind, convert, xs⟩
      let back ← expand F evaluate ⟨kind, convert, ys⟩
      return ⟨kind, convert, front.entities ++ back.entities⟩ := by
  rw [expand_eq, expand_eq, expand_eq, List.mapM_append]
  cases xs.mapM (replacement F evaluate convert) with
  | error err => rfl
  | ok parts =>
    cases ys.mapM (replacement F evaluate convert) with
    | error err => rfl
    | ok parts' =>
      show Except.ok (Match.mk kind convert (parts ++ parts').flatten) = _
      rw [List.flatten_append]
      rfl

theorem isNull_of_template {n source : NodeId} {budget : Nat}
    (h : E.templateWith F budget n source = .ok (.string text)) : (F.value n).isNull = false := by
  rw [templateWith] at h
  cases hvalue : F.value n with
  | null =>
    have hplain : F.isFormatted n = false := by
      rw [Forest.isFormatted, hvalue]
      rfl
    rw [hplain, hvalue] at h
    exact absurd (Except.ok.inj h) nofun
  | _ => rfl

section Text
variable (hcompile : Expression.compile text = .ok e) (hlikely : Expression.isLikely text = true)
include hcompile hlikely

theorem expand_singleton (evaluate : Expression → NodeId → Except EvalError Match) {x : Entity}
    (hx : x.unconverted F = some (.string text)) (kind : Projection) (convert : Option String) :
    expand F evaluate ⟨kind, convert, [x]⟩ = do
      return ⟨kind, convert, (← evaluate e x.node).entities.map (reconvert convert)⟩ := by
  have hreference : reference? F x = some text := by
    rw [reference?, hx]
    exact Option.filter_some_pos hlikely
  have hreplacement : replacement F evaluate convert x = do
      return (← evaluate e x.node).entities.map (reconvert convert) := by
    rw [replacement, hreference]
    dsimp only
    rw [compileAt, hcompile]
    rfl
  rw [expand_eq]
  show Except.map _ ([x].mapM (replacement F evaluate convert)) = _
  rw [List.mapM_cons, hreplacement]
  cases evaluate e x.node with
  | error err => rfl
  | ok inner =>
    show Except.ok (Match.mk kind convert [inner.entities.map (reconvert convert)].flatten) = _
    rw [List.flatten_singleton]
    rfl

theorem expand_of_compile (evaluate : Expression → NodeId → Except EvalError Match) {m : Match}
    {before after : List Entity} {x : Entity} (hx : x.unconverted F = some (.string text))
    (hm : m.entities = before ++ x :: after) : expand F evaluate m = do
      let xs ← expand F evaluate { m with entities := before }
      let inner ← evaluate e x.node
      let ys ← expand F evaluate { m with entities := after }
      return { m with
        entities := xs.entities ++ inner.entities.map (reconvert m.convert) ++ ys.entities } := by
  obtain ⟨kind, convert, entities⟩ := m
  obtain rfl : entities = before ++ x :: after := hm
  have hone := expand_singleton hcompile hlikely evaluate hx kind convert
  rw [← List.singleton_append, expand_append, expand_append, hone]
  cases expand F evaluate ⟨kind, convert, before⟩ with
  | error err => rfl
  | ok xs =>
    cases evaluate e x.node with
    | error err => rfl
    | ok inner =>
      cases expand F evaluate ⟨kind, convert, after⟩ with
      | error err => rfl
      | ok ys =>
        show Except.ok (Match.mk kind convert (xs.entities ++ (_ ++ ys.entities))) = _
        rw [← List.append_assoc]
        rfl

theorem valuesWith_of_compile (budget : Nat) (source : NodeId) :
    E.valuesWith F budget (.string text) source =
      E.evaluateWith F budget e source >>= Match.results E F := by
  rw [valuesWith, if_pos hlikely, compileAt, hcompile]
  show E.evaluateWith F budget e source >>= _ = _
  cases E.evaluateWith F budget e source with
  | error err => rfl
  | ok m =>
    show (if m.kind = .count then _ else _) = m.results E F
    rw [Match.results]
    rfl

theorem singleWith_of_compile (budget : Nat) (source : NodeId) :
    E.singleWith F budget (.string text) source =
      E.evaluateWith F budget e source >>= fun m => m.results E F >>= E.reduce F := by
  rw [singleWith, valuesWith_of_compile hcompile hlikely]
  cases E.evaluateWith F budget e source <;> rfl

variable {n source : NodeId}

theorem evaluateNode_of_compile
    (hn : E.templateWith F E.budget n source = .ok (.string text)) :
    E.evaluateNode F n source = E.evaluate F e source := by
  have hfilter : (Value.string text).string?.filter Expression.isLikely = some text :=
    Option.filter_some_pos hlikely
  rw [evaluateNode, hn]
  simp only [bind, Except.bind, hfilter, compileAt, hcompile]

theorem singleNode_of_compile (hn : E.templateWith F E.budget n source = .ok (.string text)) :
    E.singleNode F n source =
      E.evaluate F e source >>= fun m => m.results E F >>= E.reduce F := by
  have hvalue : ¬ (F.value n).isNull = true := by
    rw [isNull_of_template hn]
    exact Bool.false_ne_true
  rw [singleNode, nodeValues, if_neg hvalue, hn]
  exact singleWith_of_compile hcompile hlikely E.budget source

omit hcompile in
theorem argumentWith_of_likely (hn : F.value n = .string text) (budget : Nat)
    (format : NodeId → NodeId → Except EvalError String) : E.argumentWith F budget format n source =
      (if F.isFormatted n = true then format n source else .ok text) >>= fun filled =>
        E.singleWith F (budget - 1) (.string filled) source >>= E.textOf F := by
  have hany : (Value.string text).string?.any Expression.isLikely = true := hlikely
  rw [argumentWith, hn, hany]
  cases F.isFormatted n <;> rfl

end Text

/-- A text that is an expression is evaluated as this expression wherever a text may be one: unless
an operator comes first in it, after its sentinel. -/
theorem evaluates_of_compile (hcompile : Expression.compile text = .ok e)
    (hleads : Expression.leadsWithOperator text = false) (E : Evaluator) (F : Forest)
    (source : NodeId) : E.Evaluates F text e source := by
  have hlikely : Expression.isLikely text = true := by
    rw [Expression.isLikely_of_compile hcompile, hleads]
    rfl
  refine ⟨hlikely, ?expanded, ?values, ?single, ?node, ?singleNode, ?argument, ?filledArgument⟩
  case expanded =>
    intro budget m before after x hx hm
    exact expand_of_compile hcompile hlikely (E.evaluateWith F budget) hx hm
  case values => exact valuesWith_of_compile hcompile hlikely E.budget source
  case single => exact singleWith_of_compile hcompile hlikely E.budget source
  case node => exact fun n hn => evaluateNode_of_compile hcompile hlikely hn
  case singleNode => exact fun n hn => singleNode_of_compile hcompile hlikely hn
  case argument =>
    intro budget format n hn hplain
    rw [argumentWith_of_likely hlikely hn, hplain, if_neg Bool.false_ne_true]
    show E.singleWith F (budget - 1) (.string text) source >>= E.textOf F = _
    rw [singleWith_of_compile hcompile hlikely]
    simp only [bind_assoc]
  case filledArgument =>
    intro budget format n hn hformatted
    rw [argumentWith_of_likely hlikely hn, if_pos hformatted]

/-- An expression with a blank after its sentinel. -/
theorem evaluates_of_compile_children :
    let text := "@ /*?value"
    let e := ⟨text, false, ⟨[.single .children], []⟩, .value, none⟩
    let F := [Edit.create "r" (.string text), .create "a" (.integer 5), .add ⟨0⟩ ⟨1⟩].foldl
      Edit.run {}
    Expression.compile text = .ok e ∧ Expression.leadsWithOperator text = false ∧
      Evaluates {} F text e ⟨0⟩ ∧ Evaluator.values {} F (.string text) ⟨0⟩ = .ok [.integer 5] := by
  intro text e F
  have hcompile : Expression.compile text = .ok e := by
    dsimp only [text, e]
    rfl
  have hleads : Expression.leadsWithOperator text = false := by decide
  have hevaluates := evaluates_of_compile hcompile hleads {} F ⟨0⟩
  have hresults : Evaluator.evaluate {} F e ⟨0⟩ >>= Match.results {} F = .ok [.integer 5] := by
    decide +kernel
  exact ⟨hcompile, hleads, hevaluates, hevaluates.values.trans hresults⟩

/-- An expression that begins with an operator is read as one and taken for a constant. -/
theorem not_evaluates_operator :
    let text := "@|/*?node"
    let F := [Edit.create "r" (.string text), .create "a" .null, .add ⟨0⟩ ⟨1⟩].foldl Edit.run {}
    Expression.compile text =
        .ok ⟨text, false, ⟨[], [⟨.or, [.single .children]⟩]⟩, .node, none⟩ ∧
      Expression.isLikely text = false ∧
      Evaluator.evaluateText {} F text ⟨0⟩ = .ok (Match.ofNodes .node none [⟨0⟩, ⟨1⟩]) ∧
      Evaluator.values {} F (.string text) ⟨0⟩ = .ok [.string text] := by
  intro text F
  have hcompile : Expression.compile text =
      .ok ⟨text, false, ⟨[], [⟨.or, [.single .children]⟩]⟩, .node, none⟩ := by
    dsimp only [text]
    rfl
  have hlikely : Expression.isLikely text = false := by decide
  refine ⟨hcompile, hlikely, ?_, ?_⟩
  · rw [evaluateText_of_compile hcompile]
    decide +kernel
  · rw [values, valuesWith, hlikely]
    rfl

end Evaluator
end TreeQuery
