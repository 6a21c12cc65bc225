import TreeQuery.Expression.Basic
import TreeQuery.Forest.Walk
import TreeQuery.Value.Text

namespace TreeQuery

def firstsOutside (seen : List NodeId) : List NodeId → List NodeId
  | [] => []
  | n :: rest =>
    if seen.contains n then firstsOutside seen rest else n :: firstsOutside (n :: seen) rest

def amongst (keep : Bool) (known : List NodeId) (ns : List NodeId) : List NodeId :=
  ns.filter fun n => known.contains n == keep

/-- Combines two sequences. The order of the left one comes first, and its repetitions stay. -/
def SetOp.combine (op : SetOp) (left right : List NodeId) : List NodeId :=
  match op with
  | or => left ++ firstsOutside left right
  | and => amongst true right left
  | not => amongst false right left
  | xor => amongst false right left ++ amongst false left right

/-- Every `n`-th element, the next one being number `i`. -/
def everyNth (n : Nat) : Nat → List NodeId → List NodeId
  | _, [] => []
  | i, x :: rest => if i % n = 0 then x :: everyNth n (i + 1) rest else everyNth n (i + 1) rest

namespace Selector

/-- The node to which a selector leads from a node, for the selectors that lead to at most one. -/
def step? (F : Forest) (s : Selector Value) (n : NodeId) : Option NodeId :=
  match s with
  | parent => F.parent n
  | root => some (F.root n)
  | ancestor name => F.nearestNamed? name n
  | numbered i => F.child? n i
  | sibling offset => F.sibling? n offset
  | previous => F.previous? n
  | next => F.next? n
  | reference => (F.value n).node?
  | named name => if F.name n = name then some n else none
  | equals v => if (F.value n).equals v then some n else none
  | nameMatches p => if p.occursIn (F.name n) then some n else none
  | valueMatches p => if ((F.value n).text? F).any p.occursIn then some n else none
  | _ => none

def apply (F : Forest) (s : Selector Value) (ns : List NodeId) : List NodeId :=
  match s with
  | children => ns.flatMap F.children
  | descendants => ns.flatMap F.descendants
  | range start stop =>
    let first := start.getD 0
    match stop with
    | some stop => (ns.drop first).take (stop - first)
    | none => ns.drop first
  | everyNth n => TreeQuery.everyNth n 0 ns
  | _ => ns.filterMap (s.step? F)

end Selector

mutual
def Step.select (F : Forest) : Step Value → List NodeId → List NodeId
  | .single s, ns => s.apply F ns
  | .group c, ns => c.select F ns

/-- The nodes that a chain selects from a list of nodes. A group works on all that stands before it;
the right side of an operator starts from the nodes that the chain started from. -/
def Chain.select (F : Forest) : Chain Value → List NodeId → List NodeId
  | ⟨steps, operands⟩, ns => Operand.selectAll F ns operands (Step.selectAll F steps ns)

def Step.selectAll (F : Forest) : List (Step Value) → List NodeId → List NodeId
  | [], ns => ns
  | s :: rest, ns => Step.selectAll F rest (s.select F ns)

def Operand.selectAll (F : Forest) (ns : List NodeId) :
    List (Operand Value) → List NodeId → List NodeId
  | [], result => result
  | ⟨op, steps⟩ :: rest, result =>
    Operand.selectAll F ns rest (op.combine result (Step.selectAll F steps ns))
end

section Resolve
variable {α β ε : Type} (f : α → Except ε β)

def Selector.mapM : Selector α → Except ε (Selector β)
  | .equals a => .equals <$> f a
  | .children => .ok .children
  | .descendants => .ok .descendants
  | .parent => .ok .parent
  | .root => .ok .root
  | .ancestor name => .ok (.ancestor name)
  | .numbered i => .ok (.numbered i)
  | .sibling offset => .ok (.sibling offset)
  | .previous => .ok .previous
  | .next => .ok .next
  | .reference => .ok .reference
  | .named name => .ok (.named name)
  | .nameMatches p => .ok (.nameMatches p)
  | .valueMatches p => .ok (.valueMatches p)
  | .range start stop => .ok (.range start stop)
  | .everyNth n => .ok (.everyNth n)

mutual
def Step.mapM : Step α → Except ε (Step β)
  | .single s => .single <$> s.mapM f
  | .group c => .group <$> c.mapM

def Chain.mapM : Chain α → Except ε (Chain β)
  | ⟨steps, operands⟩ => do return ⟨← Step.mapAllM steps, ← Operand.mapAllM operands⟩

def Step.mapAllM : List (Step α) → Except ε (List (Step β))
  | [] => .ok []
  | s :: rest => do return (← s.mapM) :: (← Step.mapAllM rest)

def Operand.mapAllM : List (Operand α) → Except ε (List (Operand β))
  | [] => .ok []
  | ⟨op, steps⟩ :: rest => do return ⟨op, ← Step.mapAllM steps⟩ :: (← Operand.mapAllM rest)
end

end Resolve
end TreeQuery
