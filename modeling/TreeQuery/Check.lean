import TreeQuery.Documentation
import TreeQuery.Evaluate.Basic
import TreeQuery.Json.Reader
import TreeQuery.Render

namespace TreeQuery

def Json.value : Json → Value
  | .boolean b => .boolean b
  | .integer n =>
    match Convert.int64? n with
    | some i => .integer i
    | none => .float (.ofInt n)
  | .float x => .float x
  | .string s => .string s
  | _ => .null

mutual
/-- Adds a document as a tree of its own, under a name. -/
def Forest.addJson (F : Forest) (name : String) : Json → NodeId × Forest
  | .array items =>
    let (children, F) := F.addItems items
    F.createWith name .null children
  | .object members =>
    let (children, F) := F.addMembers members
    F.createWith name .null children
  | scalar => F.create name scalar.value

def Forest.addItems (F : Forest) : List Json → List NodeId × Forest
  | [] => ([], F)
  | item :: rest =>
    let (n, F) := F.addJson "" item
    let (ns, F) := F.addItems rest
    (n :: ns, F)

def Forest.addMembers (F : Forest) : List (String × Json) → List NodeId × Forest
  | [] => ([], F)
  | (name, value) :: rest =>
    let (n, F) := F.addJson name value
    let (ns, F) := F.addMembers rest
    (n :: ns, F)
end

inductive CheckError
  | malformed (error : SyntaxError)
  | evaluation (error : EvalError)
  | invalidJson
  | noInput
  | unknownCategory (name : String)
deriving Repr, DecidableEq

def CheckError.message : CheckError → String
  | malformed error => "Parse error: " ++ error.message
  | evaluation error => "Evaluation error: " ++ error.message
  | invalidJson => "Invalid JSON: the input is not a document"
  | noInput => "No input provided. Use --input or pipe JSON to stdin."
  | unknownCategory name =>
    "Unknown category: '" ++ name ++ "'\nRun 'nodex docs' to see available categories."

/-- What to check: an expression, and the document it is evaluated on. -/
structure Check where
  expression : String
  input : Option String := none
  pretty : Bool := false
  syntaxOnly : Bool := false

namespace Check

def evaluate (expression : Expression) (document : Json) : Except EvalError Json := do
  let (root, F) := Forest.addJson {} "" document
  let E : Evaluator := {}
  (← E.evaluate F expression root).json E F

/-- The result of a check; none if only the syntax is checked. -/
def run (check : Check) : Except CheckError (Option Json) :=
  match Expression.compile check.expression with
  | .error error => .error (.malformed error)
  | .ok expression =>
    if check.syntaxOnly then .ok none
    else match check.input with
      | none => .error .noInput
      | some input =>
        match Json.read? input with
        | none => .error .invalidJson
        | some document =>
          match evaluate expression document with
          | .ok result => .ok (some result)
          | .error error => .error (.evaluation error)

def resultText (check : Check) (result : Json) : String :=
  if check.pretty then result.pretty else result.compact

end Check

def Documentation.find (name : String) : Except CheckError String :=
  match Documentation.category? name with
  | some page => .ok page
  | none => .error (.unknownCategory name)

end TreeQuery
