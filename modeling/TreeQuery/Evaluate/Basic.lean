import TreeQuery.Evaluate.Match
import TreeQuery.Expression.Reader
import TreeQuery.Select.Cursor

namespace TreeQuery

def Forest.describe (F : Forest) (n : NodeId) : String :=
  "'" ++ F.name n ++ "' at " ++ (F.path n).text

namespace Evaluator

def literal (E : Evaluator) (F : Forest) : Literal → Except EvalError Value
  | .plain text => .ok (.string text)
  | .typed typeName text => E.convertTo F typeName (.string text)

def resolve (E : Evaluator) (F : Forest) (chain : Chain Literal) : Except EvalError (Chain Value) :=
  chain.mapM (E.literal F)

def compileAt (F : Forest) (node : Option NodeId) (text : String) : Except EvalError Expression :=
  match Expression.compile text with
  | .ok e => .ok e
  | .error error => .error (.malformed (node.map F.describe) error)

def reference? (F : Forest) (e : Entity) : Option String :=
  ((e.unconverted F).bind Value.string?).filter Expression.isLikely

/-- The entity with the conversion that an outer suffix asks for. -/
def reconvert (convert : Option String) (e : Entity) : Entity :=
  if convert.isSome then { e with convert } else e

/-- Replaces every entity that is an expression by the entities of that expression, `evaluate`d at
the entity's node. -/
def expand (F : Forest) (evaluate : Expression → NodeId → Except EvalError Match) (m : Match) :
    Except EvalError Match := do
  let entities ← m.entities.mapM fun e =>
    match reference? F e with
    | none => .ok [e]
    | some text => do
      let inner ← compileAt F (some e.node) text
      return (← evaluate inner e.node).entities.map (reconvert m.convert)
  return { m with entities := entities.flatten }

/-- Evaluates an expression with a budget of levels. The results of a referenced expression that are
expressions themselves are evaluated in their turn, each at its own node and with one level less. -/
def evaluateWith (E : Evaluator) (F : Forest) : Nat → Expression → NodeId → Except EvalError Match
  | 0, _, _ => .error (.tooDeep E.maxDepth)
  | budget + 1, e, context => do
    let chain ← E.resolve F e.chain
    let found := Match.ofNodes e.kind e.convert ((chain.cursor F (.list [context])).drain F)
    if e.referenced then expand F (E.evaluateWith F budget) found else return found

/-- The budget of an evaluation that no other one led to. -/
def budget (E : Evaluator) : Nat := E.maxDepth + 1

def evaluate (E : Evaluator) (F : Forest) (e : Expression) (context : NodeId) :
    Except EvalError Match :=
  E.evaluateWith F E.budget e context

def evaluateText (E : Evaluator) (F : Forest) (text : String) (context : NodeId) :
    Except EvalError Match := do
  E.evaluate F (← compileAt F none text) context

/-- The selected nodes, lazily. A referenced expression is evaluated at once. -/
def stream (E : Evaluator) (F : Forest) (e : Expression) (context : NodeId) :
    Except EvalError Cursor :=
  if e.referenced then do return .list (← E.evaluate F e context).nodes
  else do return (← E.resolve F e.chain).cursor F (.list [context])

def count (E : Evaluator) (F : Forest) (e : Expression) (context : NodeId) :
    Except EvalError Nat := do
  return ((← E.stream F e context).drain F).length

end Evaluator
end TreeQuery
