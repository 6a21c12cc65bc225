import TreeQuery.Forest.Walk

namespace TreeQuery

inductive TreeError
  | cycle (parent child : String)
  | positionOutOfRange (parent : String) (position count : Nat)
deriving Repr, DecidableEq

def TreeError.message : TreeError → String
  | cycle parent child =>
    "cannot add '" ++ child ++ "' beneath '" ++ parent ++ "': it would make the tree cyclic"
  | positionOutOfRange parent position count =>
    "position " ++ toString position ++ " is out of range for '" ++ parent ++ "' with " ++
      toString count ++ " children"

namespace Forest

/-- Takes a node away from its parent; answers with the position it had. -/
def untie (F : Forest) (n : NodeId) : Option Nat × Forest :=
  match F.parent n with
  | none => (none, F)
  | some p => (F.position? n, (F.setChildren p ((F.children p).erase n)).setParent n none)

def untieChildren (F : Forest) (n : NodeId) : List NodeId × Forest :=
  let children := F.children n
  (children, children.foldl (fun F c => F.setParent c none) (F.setChildren n []))

def tie (F : Forest) (p : NodeId) (position : Nat) (n : NodeId) : Forest :=
  (F.setParent n (some p)).setChildren p ((F.children p).insertIdx position n)

def adopt (F : Forest) (p n : NodeId) : Forest :=
  let F := (F.untie n).2
  F.tie p (F.children p).length n

def createWith (F : Forest) (name : String) (value : Value) (children : List NodeId) :
    NodeId × Forest :=
  let (n, F) := F.create name value
  (n, children.foldl (fun F c => F.adopt n c) F)

def roomBeside (F : Forest) (p n : NodeId) : Nat :=
  (F.children p).length - if F.parent n = some p then 1 else 0

/-- Moves a node below `p`, to a position among the other children or to their end. -/
def attach (F : Forest) (p : NodeId) (position : Option Nat) (n : NodeId) :
    Except TreeError Forest :=
  if F.isAtOrAbove n p then .error (.cycle (F.name p) (F.name n))
  else
    let count := F.roomBeside p n
    let position := position.getD count
    if count < position then .error (.positionOutOfRange (F.name p) position count)
    else .ok ((F.untie n).2.tie p position n)

def add (F : Forest) (p n : NodeId) : Except TreeError Forest := F.attach p none n

def insert (F : Forest) (p : NodeId) (position : Nat) (n : NodeId) : Except TreeError Forest :=
  F.attach p (some position) n

/-- The copy of a node when the nodes of a list are copied in order behind a forest of `size`
nodes. -/
def copyOf (size : Nat) (sources : List NodeId) (n : NodeId) : Option NodeId :=
  (sources.idxOf? n).map fun i => ⟨size + i⟩

def copyValue (size : Nat) (sources : List NodeId) : Value → Value
  | .node n => .node ((copyOf size sources n).getD n)
  | v => v

/-- Copies a subtree; the copy is a root. References to nodes of the subtree lead to their
copies, others to where they led before. -/
def copy (F : Forest) (n : NodeId) : NodeId × Forest :=
  let sources := F.preorder n
  let copyNode (m : NodeId) : Node :=
    { name := F.name m
      value := copyValue F.size sources (F.value m)
      children := (F.children m).filterMap (copyOf F.size sources)
      parent := if m = n then none else (F.parent m).bind (copyOf F.size sources) }
  (⟨F.size⟩, ⟨F.nodes ++ (sources.map copyNode).toArray⟩)

/-- Puts a copy of a subtree in the place of a node. A root stays where it is and takes over the
name, the value and the children of the copy. -/
def replace (F : Forest) (n replacement : NodeId) : Except TreeError Forest :=
  let (c, F) := F.copy replacement
  match F.parent n, F.position? n with
  | some p, some i => (F.untie n).2.insert p i c
  | _, _ =>
    let F := (F.setName n (F.name c)).setValue n (F.value c)
    let F := (F.untieChildren n).2
    let (children, F) := F.untieChildren c
    children.foldlM (fun F child => F.add n child) F

end Forest
end TreeQuery
