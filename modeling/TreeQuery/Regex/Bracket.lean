import TreeQuery.Regex.Escape

namespace TreeQuery.Regex
open Unicode

inductive ClassOp
  | intersection
  | difference
  | symmetricDifference

def ClassOp.apply (flags : Flags) (op : ClassOp) (left right : CodeSet) : CodeSet :=
  let a := flags.fold left
  let b := flags.fold right
  match op with
  | .intersection => a.inter b
  | .difference => a.difference b
  | .symmetricDifference => a.symmetricDifference b

structure Nested where
  set : CodeSet
  height : Nat

structure Members where
  set : CodeSet := .empty
  count : Nat := 0
  height : Nat := 0

def Members.add (m : Members) (s : CodeSet) (height : Nat := 0) : Members :=
  ⟨m.set.union s, m.count + 1, max m.height height⟩

/-- Several members are one construct; a single one is not. -/
def Members.nested (m : Members) : Nested :=
  ⟨m.set, if m.count ≤ 1 then m.height else m.height + 1⟩

/-- A class whose end has not been read: brackets around the part being read, or an operator
whose right side is being read. -/
inductive ClassFrame
  | bracket (before : Members) (negated : Bool)
  | operator (op : ClassOp) (left : Nested)

def settle (flags : Flags) (right : Nested) : List ClassFrame → Nested × List ClassFrame
  | .operator op left :: frames =>
    (⟨op.apply flags left.set right.set, max left.height right.height + 1⟩, frames)
  | frames => (right, frames)

def readMember (flags : Flags) : List Char → Option (Escape × List Char)
  | [] => none
  | '\\' :: rest => readEscape flags rest
  | c :: rest => some (.literal c, rest)

/-- Where Unicode is off, the characters of a class are ASCII. -/
def literalCode? (flags : Flags) : Escape → Option Nat
  | .literal c => if flags.unicode || decide (c.toNat < 0x80) then some c.toNat else none
  | _ => none

/-- The next character that counts, as far as can be told without reading a comment: its first
blanks, the number sign and the blanks after that are passed over. -/
def glance (flags : Flags) (cs : List Char) : Option Char :=
  if flags.ignoreLayout then
    match cs.dropWhile isBlank with
    | '#' :: rest => (rest.dropWhile isBlank).head?
    | rest => rest.head?
  else cs.head?

/-- A member, or the range it begins. A hyphen before a bracket or another hyphen begins none. -/
def readRange (flags : Flags) (cs : List Char) : Option (CodeSet × List Char) := do
  let (first, rest) ← readMember flags cs
  let rest := flags.skip rest
  let single : Option (CodeSet × List Char) := match first with
    | .characters s => some (s, rest)
    | other => (literalCode? flags other).map fun n => (CodeSet.range n n, rest)
  match rest with
  | '-' :: after =>
    if glance flags after = some ']' ∨ glance flags after = some '-' then single
    else
      let (last, rest) ← readMember flags (flags.skip after)
      let lo ← literalCode? flags first
      let hi ← literalCode? flags last
      if lo ≤ hi then some (CodeSet.range lo hi, rest) else none
  | _ => single

def readPosix (cs : List Char) : Option (CodeSet × Bool × List Char) :=
  match cs with
  | ':' :: rest =>
    let (negated, rest) := match rest with
      | '^' :: rest => (true, rest)
      | _ => (false, rest)
    let name := rest.takeWhile (· != ':')
    match rest.drop name.length with
    | ':' :: ']' :: rest => (posixClass? (String.ofList name)).map (·, negated, rest)
    | _ => none
  | _ => none

/-- Takes hyphens at the start of a class, and a closing bracket if nothing stands before it, as
members; `fuel` exceeds their number. -/
def readLeading (flags : Flags) : Nat → Members → List Char → Members × List Char
  | 0, m, cs => (m, cs)
  | fuel + 1, m, cs =>
    match cs with
    | '-' :: rest => readLeading flags fuel (m.add (.range 0x2D 0x2D)) (flags.skip rest)
    | ']' :: rest =>
      if m.count = 0 then (m.add (.range 0x5D 0x5D), flags.skip rest) else (m, cs)
    | _ => (m, cs)

def openClass (flags : Flags) (fuel : Nat) (cs : List Char) : Bool × Members × List Char :=
  let cs := flags.skip cs
  let (negated, cs) := match cs with
    | '^' :: rest => (true, flags.skip rest)
    | _ => (false, cs)
  (negated, readLeading flags fuel {} cs)

/-- Reads a class from after its opening bracket: `current` collects the members of the innermost
part. Answers with the class and the rest; `fuel` exceeds the number of characters. -/
def readClass (flags : Flags) : Nat → List ClassFrame → Members → List Char →
    Option (Nested × List Char)
  | 0, _, _, _ => none
  | fuel + 1, frames, current, cs =>
    let operator (op : ClassOp) (rest : List Char) :=
      let (left, frames) := settle flags current.nested frames
      readClass flags fuel (.operator op left :: frames) {} rest
    match flags.skip cs with
    | [] => none
    | '[' :: rest =>
      match readPosix rest with
      | some (s, negated, rest) => do
        readClass flags fuel frames (current.add (← flags.negate? negated (flags.fold s))) rest
      | none =>
        let (negated, leading, rest) := openClass flags fuel rest
        readClass flags fuel (.bracket current negated :: frames) leading rest
    | ']' :: rest =>
      match settle flags current.nested frames with
      | (part, .bracket before negated :: frames) => do
        let closed ← flags.negate? negated (flags.fold part.set)
        match frames with
        | [] => return (⟨closed, part.height + 1⟩, rest)
        | _ => readClass flags fuel frames (before.add closed (part.height + 1)) rest
      | _ => none
    | '&' :: '&' :: rest => operator .intersection rest
    | '-' :: '-' :: rest => operator .difference rest
    | '~' :: '~' :: rest => operator .symmetricDifference rest
    | cs => do
      let (s, rest) ← readRange flags cs
      readClass flags fuel frames (current.add s) rest

def readBracketed (flags : Flags) (fuel : Nat) (cs : List Char) : Option (Nested × List Char) :=
  let (negated, leading, rest) := openClass flags fuel cs
  readClass flags fuel [.bracket {} negated] leading rest

end TreeQuery.Regex
