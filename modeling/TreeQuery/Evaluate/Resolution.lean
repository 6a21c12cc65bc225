import TreeQuery.Evaluate.Basic

namespace TreeQuery

/-- A node whose value is a text and that has nameless children is a template; the children are its
arguments. -/
def Forest.isFormatted (F : Forest) (n : NodeId) : Bool :=
  (F.value n).string?.isSome && (F.children n).any fun c => F.name c == ""

namespace Evaluator

def valuesWith (E : Evaluator) (F : Forest) (budget : Nat) (v : Value) (source : NodeId) :
    Except EvalError (List Value) :=
  match v with
  | .null => .ok []
  | .string text =>
    if Expression.isLikely text then do
      let m ← E.evaluateWith F budget (← compileAt F none text) source
      if m.kind = .count then return [.integer (Int64.ofNat m.count)] else m.values E F
    else .ok [v]
  | _ => .ok [v]

/-- The texts of values in a row, a new line on both sides of a node. -/
def joinAfter (E : Evaluator) (F : Forest) (afterNode : Bool) : List Value →
    Except EvalError String
  | [] => .ok ""
  | v :: rest => do
    let text ← E.textOf F v
    let more ← E.joinAfter F v.isNode rest
    return (if v.isNode || afterNode then "\r\n" else "") ++ text ++ more

/-- One value stays what it is; several are joined to a text, and none are null. -/
def reduce (E : Evaluator) (F : Forest) : List Value → Except EvalError Value
  | [] => .ok .null
  | [v] => .ok v
  | v :: rest => do
    let text ← E.textOf F v
    return .string (text ++ (← E.joinAfter F v.isNode rest))

def singleWith (E : Evaluator) (F : Forest) (budget : Nat) (v : Value) (source : NodeId) :
    Except EvalError Value := do
  E.reduce F (← E.valuesWith F budget v source)

/-- The text that an argument contributes; `format` is the text of a template one level down. -/
def argumentWith (E : Evaluator) (F : Forest) (budget : Nat)
    (format : NodeId → NodeId → Except EvalError String) (n source : NodeId) :
    Except EvalError String :=
  let v := F.value n
  let evaluated (v : Value) : Except EvalError String := do
    E.textOf F (← E.singleWith F (budget - 1) v source)
  match F.isFormatted n, v.string?.any Expression.isLikely with
  | true, true => do evaluated (.string (← format n source))
  | true, false => format n source
  | false, true => evaluated v
  | false, false => E.textOf F v

/-- The text of a template, with a budget of levels. A template that is its own source leaves
each argument to be its own source too. -/
def formatWith (E : Evaluator) (F : Forest) : Nat → NodeId → NodeId → Except EvalError String
  | 0, _, _ => .error (.tooDeep E.maxDepth)
  | budget + 1, n, source =>
    match F.value n with
    | .string template =>
      if F.isFormatted n then do
        let args ← (F.childrenNamed n "").mapM fun c =>
          E.argumentWith F budget (E.formatWith F budget) c (if n = source then c else source)
        match Template.fill args template with
        | .ok text => return text
        | .error fault => throw (.template template fault)
      else .error (.template template (.noArguments (F.describe n)))
    | v => .error (.template (v.text F) .notText)

def templateWith (E : Evaluator) (F : Forest) (budget : Nat) (n source : NodeId) :
    Except EvalError Value :=
  if F.isFormatted n then .string <$> E.formatWith F budget n source else .ok (F.value n)

def formatNode (E : Evaluator) (F : Forest) (n source : NodeId) : Except EvalError String :=
  E.formatWith F E.budget n source

def evaluateNode (E : Evaluator) (F : Forest) (n source : NodeId) : Except EvalError Match := do
  match (← E.templateWith F E.budget n source).string?.filter Expression.isLikely with
  | some text => E.evaluate F (← compileAt F (some n) text) source
  | none => throw (.notExpression (F.describe n))

def values (E : Evaluator) (F : Forest) (v : Value) (source : NodeId) :
    Except EvalError (List Value) :=
  E.valuesWith F E.budget v source

def single (E : Evaluator) (F : Forest) (v : Value) (source : NodeId) : Except EvalError Value :=
  E.singleWith F E.budget v source

def singleAs (E : Evaluator) (F : Forest) (v : Value) (source : NodeId) (typeName : String) :
    Except EvalError Value := do
  E.convertTo F typeName (← E.single F v source)

/-- All values that a node stands for: those of its value, or without one those of its children. -/
def nodeValues (E : Evaluator) (F : Forest) (n source : NodeId) : Except EvalError (List Value) :=
  if (F.value n).isNull then .ok ((F.children n).map F.value)
  else do E.values F (← E.templateWith F E.budget n source) source

def singleNode (E : Evaluator) (F : Forest) (n source : NodeId) : Except EvalError Value := do
  E.reduce F (← E.nodeValues F n source)

end Evaluator
end TreeQuery
