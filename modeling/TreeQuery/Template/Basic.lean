import TreeQuery.Number.Integer
import TreeQuery.Text.Blank

namespace TreeQuery

inductive TemplateFault
  | unterminated
  | notPositional (place : String)
  | missingArgument (index count : Nat)
  | unmatchedBrace
  | notText
  | noArguments (node : String)
deriving Repr, DecidableEq

def TemplateFault.message : TemplateFault → String
  | unterminated => "unterminated placeholder"
  | notPositional place => "'\x7b" ++ place ++ "\x7d' is not a positional placeholder"
  | missingArgument index count =>
    "placeholder \x7b" ++ toString index ++ "\x7d has no argument, " ++ toString count ++ " given"
  | unmatchedBrace => "unmatched '\x7d'"
  | notText => "only string values can be formatted"
  | noArguments node => node ++ " has no formatting children"

namespace Template

def argument (args : List String) (place : List Char) : Except TemplateFault (List Char) :=
  match Integer.readNatural Integer.maxNatural (Text.trim place) with
  | .error _ => .error (.notPositional (String.ofList place))
  | .ok i =>
    match args[i]? with
    | some arg => .ok arg.toList
    | none => .error (.missingArgument i args.length)

/-- Fills a template; `place` is the part of a place that has been read, inside one. -/
def fillFrom (args : List String) : Option (List Char) → List Char →
    Except TemplateFault (List Char)
  | none, [] => .ok []
  | none, '\x7b' :: '\x7b' :: rest => do return '\x7b' :: (← fillFrom args none rest)
  | none, '\x7d' :: '\x7d' :: rest => do return '\x7d' :: (← fillFrom args none rest)
  | none, c :: rest =>
    if c = '\x7b' then fillFrom args (some []) rest
    else if c = '\x7d' then .error .unmatchedBrace
    else do return c :: (← fillFrom args none rest)
  | some _, [] => .error .unterminated
  | some place, c :: rest =>
    if c = '\x7d' then do
      let filling ← argument args place
      return filling ++ (← fillFrom args none rest)
    else fillFrom args (some (place ++ [c])) rest

/-- The text of a template with its places filled; a brace of the text itself is written twice.
Arguments are not looked at again. -/
def fill (args : List String) (template : String) : Except TemplateFault String :=
  String.ofList <$> fillFrom args none template.toList

end Template
end TreeQuery
