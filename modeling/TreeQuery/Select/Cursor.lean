import TreeQuery.Select.Basic

namespace TreeQuery

/-- What is left of a selection that is under way. Children are read when the node before them
arrives, the children of a descendant when it is pulled itself, and the right side of an operator as
a whole when the first node arrives on its left, that of `or` not before the left side ends. -/
inductive Cursor
  | list (rest : List NodeId)
  | children (pending : List NodeId) (source : Cursor)
  | descendants (stack : List NodeId) (source : Cursor)
  | step (s : Selector Value) (source : Cursor)
  | skip (count : Nat) (source : Cursor)
  | take (count : Nat) (source : Cursor)
  | everyNth (n i : Nat) (source : Cursor)
  /-- Both sides of a union; `seen` are the nodes that the left one gave. -/
  | union (seen : List NodeId) (left right : Cursor)
  | unseen (seen : List NodeId) (right : Cursor)
  /-- Nodes of the left side that are, or are not, on the right one, which is yet to be read. -/
  | members (keep : Bool) (left right : Cursor)
  | amongst (keep : Bool) (known : List NodeId) (left : Cursor)
  | difference (left right : Cursor)
  | differenceFrom (seen known : List NodeId) (left : Cursor)
  | matching (n : NodeId) (position : Nat) (accepts : String → Bool)

inductive Event
  | done
  | idle (next : Cursor)
  | yield (n : NodeId) (next : Cursor)

def Event.map (f : Cursor → Cursor) : Event → Event
  | done => done
  | idle c => idle (f c)
  | yield n c => yield n (f c)

namespace Cursor

/-- One step of a cursor; `read` gives all nodes of a right side that is read as a whole. -/
def advanceWith (F : Forest) (read : Cursor → List NodeId) : Cursor → Event
  | list [] => .done
  | list (n :: rest) => .yield n (list rest)
  | children (n :: pending) source => .yield n (children pending source)
  | children [] source =>
    match source.advanceWith F read with
    | .yield n source => .idle (children (F.children n) source)
    | e => e.map (children [])
  | descendants (n :: stack) source => .yield n (descendants (F.children n ++ stack) source)
  | descendants [] source =>
    match source.advanceWith F read with
    | .yield n source => .idle (descendants (F.children n) source)
    | e => e.map (descendants [])
  | step s source =>
    match source.advanceWith F read with
    | .yield n source =>
      match s.step? F n with
      | some m => .yield m (step s source)
      | none => .idle (step s source)
    | e => e.map (step s)
  | skip 0 source => (source.advanceWith F read).map (skip 0)
  | skip (count + 1) source =>
    match source.advanceWith F read with
    | .yield _ source => .idle (skip count source)
    | e => e.map (skip (count + 1))
  | take 0 _ => .done
  | take (count + 1) source =>
    match source.advanceWith F read with
    | .yield n source => .yield n (take count source)
    | e => e.map (take (count + 1))
  | everyNth n i source =>
    match source.advanceWith F read with
    | .yield x source =>
      if i % n = 0 then .yield x (everyNth n (i + 1) source) else .idle (everyNth n (i + 1) source)
    | e => e.map (everyNth n i)
  | union seen left right =>
    match left.advanceWith F read with
    | .done => .idle (unseen seen right)
    | .idle left => .idle (union seen left right)
    | .yield n left => .yield n (union (n :: seen) left right)
  | unseen seen right =>
    match right.advanceWith F read with
    | .yield n right =>
      if seen.contains n then .idle (unseen seen right) else .yield n (unseen (n :: seen) right)
    | e => e.map (unseen seen)
  | members keep left right =>
    match left.advanceWith F read with
    | .yield n left =>
      let known := read right
      if known.contains n == keep then .yield n (amongst keep known left)
      else .idle (amongst keep known left)
    | e => e.map fun left => members keep left right
  | amongst keep known left =>
    match left.advanceWith F read with
    | .yield n left =>
      if known.contains n == keep then .yield n (amongst keep known left)
      else .idle (amongst keep known left)
    | e => e.map (amongst keep known)
  | difference left right =>
    match left.advanceWith F read with
    | .done => .idle (list (read right))
    | .idle left => .idle (difference left right)
    | .yield n left =>
      let known := read right
      if known.contains n then .idle (differenceFrom [n] known left)
      else .yield n (differenceFrom [n] known left)
  | differenceFrom seen known left =>
    match left.advanceWith F read with
    | .done => .idle (list (TreeQuery.amongst false seen known))
    | .idle left => .idle (differenceFrom seen known left)
    | .yield n left =>
      if known.contains n then .idle (differenceFrom (n :: seen) known left)
      else .yield n (differenceFrom (n :: seen) known left)
  | matching n position accepts =>
    match F.child? n position with
    | none => .done
    | some c =>
      if accepts (F.name c) then .yield c (matching n (position + 1) accepts)
      else .idle (matching n (position + 1) accepts)

def work (size : Nat) : Cursor → Nat
  | list rest => rest.length + 1
  | children pending source => pending.length + (size + 1) * source.work size
  | descendants stack source => (stack.length + source.work size) * (size + 1)
  | step _ source => source.work size
  | skip _ source => source.work size
  | take _ source => source.work size + 1
  | everyNth _ _ source => source.work size
  | union _ left right => left.work size + right.work size + 1
  | unseen _ right => right.work size
  | members _ left _ => left.work size
  | amongst _ _ left => left.work size
  | difference left right => left.work size + right.work size + 1
  | differenceFrom _ known left => left.work size + known.length + 1
  | matching _ _ _ => size + 1

/-- How deeply the right sides that are read as a whole lie within one another. -/
def depth : Cursor → Nat
  | list _ => 0
  | children _ source => source.depth
  | descendants _ source => source.depth
  | step _ source => source.depth
  | skip _ source => source.depth
  | take _ source => source.depth
  | everyNth _ _ source => source.depth
  | union _ left right => max left.depth right.depth
  | unseen _ right => right.depth
  | members _ left right => max left.depth (right.depth + 1)
  | amongst _ _ left => left.depth
  | difference left right => max left.depth (right.depth + 1)
  | differenceFrom _ _ left => left.depth
  | matching _ _ _ => 0

def collect (step : Cursor → Event) : Nat → Cursor → List NodeId
  | 0, _ => []
  | fuel + 1, c =>
    match step c with
    | .done => []
    | .idle c => collect step fuel c
    | .yield n c => n :: collect step fuel c

def drainTo (F : Forest) : Nat → Cursor → List NodeId
  | 0, _ => []
  | bound + 1, c => collect (advanceWith F (drainTo F bound)) (c.work F.size) c

def drain (F : Forest) (c : Cursor) : List NodeId := c.drainTo F (c.depth + 1)

def advance (F : Forest) (c : Cursor) : Event := c.advanceWith F (drainTo F c.depth)

def pullWithin (F : Forest) : Nat → Cursor → Option (NodeId × Cursor)
  | 0, _ => none
  | fuel + 1, c =>
    match c.advance F with
    | .done => none
    | .idle c => pullWithin F fuel c
    | .yield n c => some (n, c)

def pull? (F : Forest) (c : Cursor) : Option (NodeId × Cursor) := c.pullWithin F (c.work F.size)

/-- Pulls up to `k` nodes; answers with them, whether the end was met, and the cursor for the
next ones. After the end there are none. -/
def pullUpTo (F : Forest) : Nat → Cursor → List NodeId × Bool × Cursor
  | 0, c => ([], false, c)
  | k + 1, c =>
    match c.pull? F with
    | none => ([], true, list [])
    | some (n, c) =>
      let (ns, done, c) := pullUpTo F k c
      (n :: ns, done, c)

end Cursor

def SetOp.cursor (op : SetOp) (left right : Cursor) : Cursor :=
  match op with
  | or => .union [] left right
  | and => .members true left right
  | not => .members false left right
  | xor => .difference left right

def Selector.cursor (s : Selector Value) (source : Cursor) : Cursor :=
  match s with
  | .children => .children [] source
  | .descendants => .descendants [] source
  | .range start stop =>
    let first := start.getD 0
    match stop with
    | some stop => .take (stop - first) (.skip first source)
    | none => .skip first source
  | .everyNth n => .everyNth n 0 source
  | s => .step s source

mutual
def Step.cursor (F : Forest) : Step Value → Cursor → Cursor
  | .single s, source => s.cursor source
  | .group c, source => c.cursor F source

/-- The cursor of a chain. Nothing is read, but that a chain with operators collects its input,
since every right side starts from it again. -/
def Chain.cursor (F : Forest) : Chain Value → Cursor → Cursor
  | ⟨steps, []⟩, source => Step.cursorAll F steps source
  | ⟨steps, operands⟩, source =>
    let roots := source.drain F
    Operand.cursorAll F roots operands (Step.cursorAll F steps (.list roots))

def Step.cursorAll (F : Forest) : List (Step Value) → Cursor → Cursor
  | [], source => source
  | s :: rest, source => Step.cursorAll F rest (s.cursor F source)

def Operand.cursorAll (F : Forest) (roots : List NodeId) : List (Operand Value) → Cursor → Cursor
  | [], result => result
  | ⟨op, steps⟩ :: rest, result =>
    Operand.cursorAll F roots rest (op.cursor result (Step.cursorAll F steps (.list roots)))
end

def Cursor.beneath (F : Forest) (n : NodeId) : Cursor := .descendants (F.children n) (.list [])

def Cursor.childrenWhere (n : NodeId) (accepts : String → Bool) : Cursor := .matching n 0 accepts

def Cursor.childrenNamed (n : NodeId) (name : String) : Cursor := .childrenWhere n (· == name)

end TreeQuery
