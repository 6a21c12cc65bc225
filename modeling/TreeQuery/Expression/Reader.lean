import TreeQuery.Expression.Selector
import TreeQuery.Token.Lexer

namespace TreeQuery

/-- A body that has been read in part: the chain being extended, those around it from the inside
out, and whether the last token was a slash. -/
structure Progress where
  chain : Chain Literal := .empty
  outer : List (Chain Literal) := []
  afterSlash : Bool := false

namespace Progress

def select (p : Progress) (missingSlash : Fault) (selector : Except Fault (Selector Literal)) :
    Except Fault Progress :=
  if p.afterSlash then do
    return { p with chain := p.chain.push (.single (← selector)), afterSlash := false }
  else .error missingSlash

def feed (p : Progress) : Token → Except Fault Progress
  | .slash => .ok { p with afterSlash := true }
  | .openParen => .ok { chain := .empty, outer := p.chain :: p.outer }
  | .closeParen =>
    match p.outer with
    | [] => .error .unmatchedParen
    | parent :: outer => .ok { chain := parent.push (.group p.chain), outer }
  | .word text escaped =>
    match if escaped then none else SetOp.ofText? text with
    | some op => .ok { p with chain := p.chain.pushOperator op, afterSlash := false }
    | none =>
      p.select .slashBeforeStep
        (if escaped then .ok (.named text) else Selector.ofWord text.toList)
  | .literal text => p.select .slashBeforeLiteral (Selector.ofLiteral text.toList)
  | .sentinel => .error .misplacedSentinel
  | .suffix _ | .eof => .error .missingSuffix

end Progress

namespace Expression

def readSuffix (suffix : String) : Except Fault (Projection × Option String) :=
  let (kind, convert) := match Selector.cutAt? '.' suffix.toList with
    | some (kind, convert) => (kind, some (Text.trim convert))
    | none => (suffix.toList, none)
  match Projection.ofText? (String.ofList (Text.trim kind)), convert with
  | none, _ => .error (.unknownKind (String.ofList kind))
  | some _, some [] => .error .emptyTypeName
  | some kind, some name => .ok (kind, some (String.ofList name))
  | some kind, none => .ok (kind, none)

structure Body where
  chain : Chain Literal
  kind : Projection
  convert : Option String

def faultAt (lexeme : Lexeme) : Except Fault α → Except SyntaxError α
  | .ok a => .ok a
  | .error fault => .error (.unexpected lexeme fault)

/-- Reads a body up to its suffix. `failure` is the fault after the last token. -/
def readBody (failure : SyntaxError) : Progress → List Lexeme → Except SyntaxError Body
  | _, [] => .error failure
  | p, lexeme :: rest =>
    match lexeme.token with
    | .suffix text =>
      if p.outer.isEmpty then do
        let (kind, convert) ← faultAt lexeme (readSuffix text)
        return ⟨p.chain, kind, convert⟩
      else .error (.unexpected lexeme .unterminatedGroup)
    | .eof =>
      .error (.unexpected lexeme (if p.outer.isEmpty then .missingSuffix else .unterminatedGroup))
    | token => do readBody failure (← faultAt lexeme (p.feed token)) rest

def readLexemes (source : String) (failure : SyntaxError) (lexemes : List Lexeme) :
    Except SyntaxError Expression :=
  let finish (referenced : Bool) (lexemes : List Lexeme) : Except SyntaxError Expression := do
    let body ← readBody failure {} lexemes
    return ⟨source, referenced, body.chain, body.kind, body.convert⟩
  match lexemes with
  | [] => .error failure
  | first :: rest =>
    if first.token = .sentinel then
      match rest with
      | second :: rest =>
        if second.token = .sentinel then
          match rest with
          | third :: _ =>
            if third.token = .sentinel then .error (.unexpected third .tooManySentinels)
            else finish true rest
          | [] => .error failure
        else finish false (second :: rest)
      | [] => .error failure
    else .error (.unexpected first .expectedSentinel)

def compile (source : String) : Except SyntaxError Expression :=
  match Token.tokenize source with
  | (lexemes, some e) => readLexemes source (.lexical e) lexemes
  | (lexemes, none) =>
    readLexemes source (.unexpected ⟨.eof, Position.after {} source.toList⟩ .missingSuffix) lexemes

/-- Whether a text looks like an expression: a sentinel, and after blanks a character that only an
expression has there. -/
def isLikely (text : String) : Bool :=
  match Text.trimStart text.toList with
  | '@' :: rest =>
    match Text.trimStart rest with
    | c :: _ => c == '/' || c == '?' || c == '@' || c == '\x7b' || c == '('
    | [] => false
  | _ => false

end Expression
end TreeQuery
