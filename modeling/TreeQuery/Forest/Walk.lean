import TreeQuery.Forest.Basic

namespace TreeQuery.Forest

def climb (F : Forest) : Nat → NodeId → List NodeId
  | 0, _ => []
  | fuel + 1, n =>
    n :: match F.parent n with
      | some p => F.climb fuel p
      | none => []

/-- The node, its parent, and so on up to the root. A way without a cycle is shorter than the bound.
-/
def lineage (F : Forest) (n : NodeId) : List NodeId := F.climb (F.size + 1) n

def root (F : Forest) (n : NodeId) : NodeId := (F.lineage n).getLastD n

def isAtOrAbove (F : Forest) (a n : NodeId) : Bool := (F.lineage n).contains a

def nearestNamed? (F : Forest) (name : String) (n : NodeId) : Option NodeId :=
  (F.lineage n).find? fun m => F.name m == name

def position? (F : Forest) (n : NodeId) : Option Nat := do
  (F.children (← F.parent n)).idxOf? n

def path (F : Forest) (n : NodeId) : NodePath := ⟨((F.lineage n).filterMap F.position?).reverse⟩

def child? (F : Forest) (n : NodeId) (i : Nat) : Option NodeId := (F.children n)[i]?

def at? (F : Forest) (n : NodeId) (p : NodePath) : Option NodeId := p.indices.foldlM F.child? n

def childrenNamed (F : Forest) (n : NodeId) (name : String) : List NodeId :=
  (F.children n).filter fun c => F.name c == name

def sibling? (F : Forest) (n : NodeId) (offset : Int) : Option NodeId := do
  let i : Int := (← F.position? n) + offset
  if 0 ≤ i then F.child? (← F.parent n) i.toNat else none

def previousSibling? (F : Forest) (n : NodeId) : Option NodeId := F.sibling? n (-1)

def nextSibling? (F : Forest) (n : NodeId) : Option NodeId := F.sibling? n 1

def lastWithin (F : Forest) : Nat → NodeId → NodeId
  | 0, n => n
  | fuel + 1, n =>
    match (F.children n).getLast? with
    | some c => F.lastWithin fuel c
    | none => n

/-- The next node in document order: the first child, else the next sibling of the node or of the
nearest ancestor with one. -/
def next? (F : Forest) (n : NodeId) : Option NodeId :=
  match F.children n with
  | c :: _ => some c
  | [] => (F.lineage n).findSome? F.nextSibling?

/-- The previous node in document order: the last node below the previous sibling, else the
parent. -/
def previous? (F : Forest) (n : NodeId) : Option NodeId :=
  match F.previousSibling? n with
  | some s => some (F.lastWithin F.size s)
  | none => F.parent n

/-- A subtree in document order, cut off at the depth `fuel`. -/
def preorderTo (F : Forest) : Nat → NodeId → List NodeId
  | 0, _ => []
  | fuel + 1, n => n :: (F.children n).flatMap (F.preorderTo fuel)

def preorder (F : Forest) (n : NodeId) : List NodeId := F.preorderTo (F.size + 1) n

def descendants (F : Forest) (n : NodeId) : List NodeId := (F.preorder n).tail

/-- The positions on the way from `ancestor` down to a node; `none` if it is not below. -/
def pathFrom? (F : Forest) (ancestor : NodeId) : Nat → NodeId → Option (List Nat)
  | 0, _ => none
  | fuel + 1, n =>
    if n = ancestor then some []
    else do return (← F.pathFrom? ancestor fuel (← F.parent n)) ++ [← F.position? n]

/-- Equality of values; nodes are also equal when they stand at one place below `a` and `b`. -/
def valuesMatch (F : Forest) (a b : NodeId) : Value → Value → Bool
  | .node x, .node y =>
    x == y ||
      match F.pathFrom? a (F.size + 1) x, F.pathFrom? b (F.size + 1) y with
      | some p, some q => p == q
      | _, _ => false
  | x, y => x.equals y

def shapesMatch (F : Forest) (a b : NodeId) : Nat → NodeId → NodeId → Bool
  | 0, _, _ => true
  | fuel + 1, x, y =>
    x == y ||
      (F.name x == F.name y && F.valuesMatch a b (F.value x) (F.value y) &&
        (F.children x).isEqv (F.children y) (F.shapesMatch a b fuel))

def sameShape (F : Forest) (a b : NodeId) : Bool := F.shapesMatch a b (F.size + 1) a b

end TreeQuery.Forest
