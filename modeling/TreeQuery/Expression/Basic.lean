import TreeQuery.Regex.Reader
import TreeQuery.Token.Basic

namespace TreeQuery

inductive PatternError
  | unknownFlag (flag : Char)
  | malformed
deriving Repr, DecidableEq

def PatternError.message : PatternError → String
  | unknownFlag flag => "unknown regex flag '" ++ String.singleton flag ++ "'"
  | malformed => "the expression is malformed"

namespace Regex

def Flags.ofLetters (flags : Flags) : List Char → Except PatternError Flags
  | [] => .ok flags
  | c :: rest =>
    if c = 'i' ∨ c = 'm' ∨ c = 's' ∨ c = 'x' then
      Flags.ofLetters ((flags.change? c true).getD flags) rest
    else .error (.unknownFlag c)

def compile (body flags : String) : Except PatternError Regex := do
  match read? (← Flags.ofLetters {} flags.toList) body with
  | some r => return r
  | none => throw .malformed

end Regex

structure Pattern where
  body : String
  flags : String
  regex : Regex
  compiles : Regex.compile body flags = .ok regex

namespace Pattern

def compile (body flags : String) : Except PatternError Pattern :=
  match h : Regex.compile body flags with
  | .ok regex => .ok ⟨body, flags, regex, h⟩
  | .error e => .error e

def source (p : Pattern) : String := "/" ++ p.body ++ "/" ++ p.flags

def occursIn (p : Pattern) (text : String) : Bool := p.regex.occursIn text

instance : DecidableEq Pattern := fun p q =>
  if h : p.body = q.body ∧ p.flags = q.flags then
    .isTrue <| by
      obtain ⟨_, _, _, hp⟩ := p
      obtain ⟨_, _, _, hq⟩ := q
      obtain ⟨rfl, rfl⟩ := h
      obtain rfl : _ = _ := Except.ok.inj (hp.symm.trans hq)
      rfl
  else .isFalse fun e => h (e ▸ ⟨rfl, rfl⟩)

end Pattern

/-- The literal of a comparison: a text, or a text to be converted to a type. -/
inductive Literal
  | plain (text : String)
  | typed (typeName text : String)
deriving Repr, DecidableEq

/-- A step without inner structure: a move from each node to others, or a choice among them. -/
inductive Selector (α : Type)
  | children
  | descendants
  | parent
  | root
  | ancestor (name : String)
  | numbered (index : Nat)
  | sibling (offset : Int)
  | previous
  | next
  | reference
  | named (name : String)
  | equals (literal : α)
  | nameMatches (pattern : Pattern)
  | valueMatches (pattern : Pattern)
  | range (start stop : Option Nat)
  | everyNth (n : Nat)
deriving DecidableEq

inductive SetOp
  | or
  | and
  | xor
  | not
deriving Repr, DecidableEq

namespace SetOp

def symbol : SetOp → Char
  | or => '|'
  | and => '&'
  | xor => '^'
  | not => '!'

def ofSymbol? : Char → Option SetOp
  | '|' => some or
  | '&' => some and
  | '^' => some xor
  | '!' => some not
  | _ => none

def ofText? (text : String) : Option SetOp :=
  match text.toList with
  | [c] => ofSymbol? c
  | _ => none

end SetOp

mutual
inductive Step (α : Type)
  | single (selector : Selector α)
  | group (chain : Chain α)

/-- Steps, and what their result is combined with. A group is a chain used as a step. Chains are
generic in the literals that values are compared with: texts when an expression has been read,
values when it is evaluated. -/
structure Chain (α : Type) where
  steps : List (Step α)
  operands : List (Operand α)

/-- An operator with the steps of its right side, which start where the chain starts. -/
structure Operand (α : Type) where
  op : SetOp
  steps : List (Step α)
end

mutual
def Step.same [DecidableEq α] : Step α → Step α → Bool
  | .single s, .single t => s == t
  | .group c, .group d => c.same d
  | _, _ => false

/-- Equality of chains; patterns are equal when their texts are. -/
def Chain.same [DecidableEq α] : Chain α → Chain α → Bool
  | ⟨steps, operands⟩, ⟨steps', operands'⟩ =>
    Step.sameList steps steps' && Operand.sameList operands operands'

def Step.sameList [DecidableEq α] : List (Step α) → List (Step α) → Bool
  | [], [] => true
  | s :: rest, t :: rest' => s.same t && Step.sameList rest rest'
  | _, _ => false

def Operand.sameList [DecidableEq α] : List (Operand α) → List (Operand α) → Bool
  | [], [] => true
  | ⟨op, steps⟩ :: rest, ⟨op', steps'⟩ :: rest' =>
    op == op' && Step.sameList steps steps' && Operand.sameList rest rest'
  | _, _ => false
end

namespace Chain

def empty : Chain α := ⟨[], []⟩

def push (chain : Chain α) (step : Step α) : Chain α :=
  match chain.operands.getLast? with
  | some last =>
    { chain with
      operands := chain.operands.dropLast ++ [{ last with steps := last.steps ++ [step] }] }
  | none => { chain with steps := chain.steps ++ [step] }

def pushOperator (chain : Chain α) (op : SetOp) : Chain α :=
  { chain with operands := chain.operands ++ [⟨op, []⟩] }

end Chain

inductive Projection
  | name
  | value
  | count
  | path
  | node
deriving Repr, DecidableEq

namespace Projection

def text : Projection → String
  | name => "name"
  | value => "value"
  | count => "count"
  | path => "path"
  | node => "node"

def ofText? : String → Option Projection
  | "name" => some name
  | "value" => some value
  | "count" => some count
  | "path" => some path
  | "node" => some node
  | _ => none

end Projection

/-- An expression that has been read. `referenced` expressions have results that are expressions
themselves; `convert` names the type that names and values are converted to. -/
structure Expression where
  source : String
  referenced : Bool
  chain : Chain Literal
  kind : Projection
  convert : Option String

end TreeQuery
