import TreeQuery.Number.Decimal
import TreeQuery.Number.FloatText
import TreeQuery.Number.Integer

namespace TreeQuery

structure NodeId where
  index : Nat
deriving Repr, DecidableEq

/-- An address in a tree: the positions among siblings on the way down from the root. -/
structure NodePath where
  indices : List Nat
deriving Repr, DecidableEq

namespace NodePath

def root : NodePath := ⟨[]⟩

def isRoot (p : NodePath) : Bool := p.indices.isEmpty

/-- Every position after a slash; the root is a single slash. -/
def text (p : NodePath) : String :=
  if p.isRoot then "/" else String.join (p.indices.map fun i => "/" ++ toString i)

def segments : List Char → List (List Char)
  | [] => [[]]
  | c :: rest =>
    if c = '/' then [] :: segments rest
    else match segments rest with
      | [] => [[c]]
      | s :: more => (c :: s) :: more

/-- Reads an address; empty parts between slashes are passed over. -/
def read (text : List Char) : Except IntegerError NodePath := do
  let parts := (segments text).filter fun s => !s.isEmpty
  return ⟨← parts.mapM (Integer.readNatural Integer.maxNatural)⟩

end NodePath

inductive Value
  | null
  | boolean (b : Bool)
  | integer (n : Int64)
  | float (x : Binary64)
  | decimal (d : Decimal)
  | string (s : String)
  | bytes (b : List UInt8)
  | node (n : NodeId)
  | path (p : NodePath)
deriving DecidableEq

namespace Value

instance : Inhabited Value := ⟨null⟩

def isNull : Value → Bool
  | null => true
  | _ => false

def isNode : Value → Bool
  | node _ => true
  | _ => false

def string? : Value → Option String
  | string s => some s
  | _ => none

def integer? : Value → Option Int64
  | integer n => some n
  | _ => none

def node? : Value → Option NodeId
  | node n => some n
  | _ => none

def typeName : Value → String
  | null => "null"
  | boolean _ => "bool"
  | integer _ => "int"
  | float _ => "float"
  | decimal _ => "decimal"
  | string _ => "string"
  | bytes _ => "blob"
  | node _ => "node"
  | path _ => "path"

/-- Equality of values of one type; values of two types differ. -/
def equals : Value → Value → Bool
  | null, null => true
  | boolean a, boolean b => a == b
  | integer a, integer b => a == b
  | float a, float b => a.equals b
  | decimal a, decimal b => a.equals b
  | string a, string b => a == b
  | bytes a, bytes b => a == b
  | node a, node b => a == b
  | path a, path b => a == b
  | _, _ => false

end Value
end TreeQuery
