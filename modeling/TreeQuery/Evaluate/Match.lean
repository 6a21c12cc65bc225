import TreeQuery.Convert
import TreeQuery.Expression.Fault
import TreeQuery.Forest.Edit
import TreeQuery.Template.Basic

namespace TreeQuery

inductive EvalError
  /-- A text is no expression; `node` describes the node that held it, if one did. -/
  | malformed (node : Option String) (error : SyntaxError)
  | conversion (error : ConvertError)
  | tree (error : TreeError)
  | tooDeep (limit : Nat)
  | notExpression (node : String)
  | template (text : String) (fault : TemplateFault)
  | readOnly (kind : Projection)
deriving Repr, DecidableEq

def EvalError.message : EvalError → String
  | malformed (some node) error => "in node " ++ node ++ ": " ++ error.message
  | malformed none error => error.message
  | conversion error => error.message
  | tree error => error.message
  | tooDeep limit => "expressions nested deeper than " ++ toString limit ++ " levels"
  | notExpression node => "value of node '" ++ node ++ "' is not an expression"
  | template text fault => "cannot format '" ++ text ++ "': " ++ fault.message
  | readOnly kind => kind.text ++ " results are read-only"

structure Evaluator where
  convert : Converter := TreeQuery.convert
  maxDepth : Nat := 64

/-- A selected node, how it is read, the type it is converted to, and how many were selected
together with it. -/
structure Entity where
  node : NodeId
  kind : Projection
  convert : Option String
  count : Nat
deriving Repr, DecidableEq

structure Match where
  kind : Projection
  convert : Option String
  entities : List Entity
deriving Repr, DecidableEq

namespace Evaluator

def convertTo (E : Evaluator) (F : Forest) (typeName : String) (v : Value) :
    Except EvalError Value :=
  match E.convert F v typeName with
  | .ok v => .ok v
  | .error e => .error (.conversion e)

/-- The text of a value in a concatenation; null has an empty one. -/
def textOf (E : Evaluator) (F : Forest) (v : Value) : Except EvalError String := do
  return (← E.convertTo F "string" v).text F

end Evaluator

namespace Entity

def unconverted (F : Forest) (e : Entity) : Option Value :=
  match e.kind with
  | .name => some (.string (F.name e.node))
  | .value => some (F.value e.node)
  | _ => none

def value (E : Evaluator) (F : Forest) (e : Entity) : Except EvalError Value :=
  match e.kind with
  | .count => .ok (.integer (Int64.ofNat e.count))
  | .path => .ok (.path (F.path e.node))
  | .node => .ok (.node e.node)
  | .name | .value =>
    let raw := (e.unconverted F).getD .null
    match e.convert with
    | some typeName => E.convertTo F typeName raw
    | none => .ok raw

/-- Writes through to the node: renames it, assigns its value, or replaces it by a copy of a node
or takes it out of its tree. Counts and paths cannot be written. -/
def set (E : Evaluator) (F : Forest) (e : Entity) (v : Value) : Except EvalError Forest :=
  match e.kind with
  | .name => do return F.setName e.node (← E.textOf F v)
  | .value =>
    match e.convert with
    | some typeName => do return F.setValue e.node (← E.convertTo F typeName v)
    | none => .ok (F.setValue e.node v)
  | .node => do
    match ← E.convertTo F "node" v with
    | .null => return (F.untie e.node).2
    | .node replacement =>
      match F.replace e.node replacement with
      | .ok F => return F
      | .error error => throw (.tree error)
    | other => throw (.conversion ⟨other.debug F, "node", .noNodeProduced⟩)
  | .count => .error (.readOnly .count)
  | .path => .error (.readOnly .path)

end Entity

namespace Match

def ofNodes (kind : Projection) (convert : Option String) (nodes : List NodeId) : Match :=
  ⟨kind, convert, nodes.map fun n => ⟨n, kind, convert, nodes.length⟩⟩

def count (m : Match) : Nat := m.entities.length

def nodes (m : Match) : List NodeId := m.entities.map Entity.node

def values (E : Evaluator) (F : Forest) (m : Match) : Except EvalError (List Value) :=
  m.entities.mapM fun e => e.value E F

end Match
end TreeQuery
