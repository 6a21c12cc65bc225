import TreeQuery.Check

namespace TreeQuery

inductive Command
  | version
  | docs
  | doc (category : String)
  | check (check : Check)

structure Outcome where
  code : Nat
  stdout : String := ""
  stderr : String := ""
deriving Repr, DecidableEq

namespace Command

/-- The options of a check that have been read; each may be given once. -/
structure CheckArgs where
  expression : Option String := none
  input : Option String := none
  pretty : Bool := false
  syntaxOnly : Bool := false

namespace CheckArgs

def setExpression (a : CheckArgs) (text : String) : Option CheckArgs :=
  if a.expression.isSome then none else some { a with expression := some text }

def setInput (a : CheckArgs) (text : String) : Option CheckArgs :=
  if a.input.isSome then none else some { a with input := some text }

def setPretty (a : CheckArgs) : Option CheckArgs :=
  if a.pretty then none else some { a with pretty := true }

def setSyntaxOnly (a : CheckArgs) : Option CheckArgs :=
  if a.syntaxOnly then none else some { a with syntaxOnly := true }

end CheckArgs

def isOption (arg : String) : Bool :=
  match arg.toList with
  | ['-'] => false
  | '-' :: _ => true
  | _ => false

/-- Short options joined behind one hyphen. `next` is the argument after them; the result tells
whether it was used up as a value. -/
def readShort (next : Option String) (a : CheckArgs) : List Char → Option (CheckArgs × Bool)
  | [] => some (a, false)
  | 'p' :: rest => do readShort next (← a.setPretty) rest
  | ['i'] =>
    match next with
    | some value => if isOption value then none else (a.setInput value).map (·, true)
    | none => none
  | 'i' :: '=' :: value => (a.setInput (String.ofList value)).map (·, false)
  | 'i' :: value => (a.setInput (String.ofList value)).map (·, false)
  | _ => none

def readCheck (skip : Bool) (a : CheckArgs) : List String → Option CheckArgs
  | [] => some a
  | arg :: rest =>
    if skip then readCheck false a rest
    else match arg.toList with
      | ['-', '-'] => rest.foldlM CheckArgs.setExpression a
      | '-' :: '-' :: option =>
        let name := String.ofList (option.takeWhile (· != '='))
        match option.dropWhile (· != '='), name with
        | [], "pretty" => do readCheck false (← a.setPretty) rest
        | [], "syntax-only" => do readCheck false (← a.setSyntaxOnly) rest
        | [], "input" =>
          match rest with
          | value :: _ =>
            if isOption value then none else do readCheck true (← a.setInput value) rest
          | [] => none
        | _ :: value, "input" => do readCheck false (← a.setInput (String.ofList value)) rest
        | _, _ => none
      | '-' :: c :: cs => do
        let (a, used) ← readShort rest.head? a (c :: cs)
        readCheck used a rest
      | _ => do readCheck false (← a.setExpression arg) rest

def readPlain : List String → Option (List String)
  | [] => some []
  | "--" :: rest => some rest
  | arg :: rest => if isOption arg then none else (readPlain rest).map (arg :: ·)

/-- Whether an argument asks for the version, which short options behind it do not change. -/
def asksVersion (arg : String) : Bool :=
  arg == "--version" || ['-', 'V'].isPrefixOf arg.toList

def read? : List String → Option Command
  | "check" :: args => do
    let a ← readCheck false {} args
    return .check ⟨← a.expression, a.input, a.pretty, a.syntaxOnly⟩
  | "docs" :: args => do
    let [] ← readPlain args | none
    return .docs
  | "doc" :: args => do
    let [category] ← readPlain args | none
    return .doc category
  | arg :: _ => if asksVersion arg then some .version else none
  | [] => none

def versionText : String := "nodex 0.2.0\n"

def readsInput : Command → Bool
  | .check c => !c.syntaxOnly && c.input.isNone
  | _ => false

def failure (error : CheckError) : Outcome := { code := 1, stderr := error.message ++ "\n" }

def run (stdin : String) : Command → Outcome
  | .version => { code := 0, stdout := versionText }
  | .docs => { code := 0, stdout := Documentation.overview }
  | .doc category =>
    match Documentation.find category with
    | .ok page => { code := 0, stdout := page }
    | .error error => failure error
  | .check c =>
    let check := if readsInput (.check c) then { c with input := some stdin } else c
    match check.run with
    | .ok none => { code := 0, stdout := "Syntax is valid\n" }
    | .ok (some result) => { code := 0, stdout := check.resultText result ++ "\n" }
    | .error error => failure error

/-- Runs the command of some arguments; arguments that make no sense have code 2. -/
def runArgs (args : List String) (stdin : String) : Outcome :=
  match read? args with
  | some command => command.run stdin
  | none => { code := 2, stderr := "usage: nodex check <expression> | docs | doc <category>\n" }

end Command
end TreeQuery
