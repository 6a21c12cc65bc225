import TreeQuery.Expression.Basic

namespace TreeQuery

inductive Fault
  | expectedSentinel
  | tooManySentinels
  | misplacedSentinel
  | missingSuffix
  | unknownKind (name : String)
  | emptyTypeName
  | unmatchedParen
  | unterminatedGroup
  | slashBeforeStep
  | slashBeforeLiteral
  | pattern (error : PatternError)
  | operatorOperand (op : SetOp)
  | expectedNumber (text : String)
  | numberTooLarge (text : String)
  | offsetTooLarge (text : String)
  | zeroModulo
  | malformedRange
  | malformedTyped
deriving Repr, DecidableEq

def Fault.message : Fault → String
  | expectedSentinel => "expected '@'"
  | tooManySentinels => "an expression takes at most two leading '@'"
  | misplacedSentinel => "'@' may only start an expression"
  | missingSuffix => "missing type suffix ('?name', '?value', '?count', '?path' or '?node')"
  | unknownKind name =>
    "unknown type '" ++ name ++ "'; expected name, value, count, path or node"
  | emptyTypeName => "empty type name after '.'"
  | unmatchedParen => "')' without matching '('"
  | unterminatedGroup => "unterminated group, expected ')'"
  | slashBeforeStep => "expected '/' before step"
  | slashBeforeLiteral => "expected '/' before literal"
  | pattern error => "invalid regex: " ++ error.message
  | operatorOperand op =>
    let symbol := String.singleton op.symbol
    "operator '" ++ symbol ++ "' takes no operand here; put it in its own step, as in '/" ++
      symbol ++ "/'"
  | expectedNumber text => "expected a number, found '" ++ text ++ "'"
  | numberTooLarge text => "number '" ++ text ++ "' is too large"
  | offsetTooLarge text => "offset '" ++ text ++ "' is too large"
  | zeroModulo => "modulo step must be greater than zero"
  | malformedRange => "malformed range, expected '[start,end]'"
  | malformedTyped => "malformed typed literal, expected '=:type:value'"

/-- A fault of a text, or the token at which its tokens cannot go on. -/
inductive SyntaxError
  | lexical (error : LexError)
  | unexpected (lexeme : Lexeme) (fault : Fault)
deriving Repr, DecidableEq

namespace SyntaxError

def position : SyntaxError → Position
  | lexical error => error.position
  | unexpected lexeme _ => lexeme.start

def message : SyntaxError → String
  | lexical error => error.message
  | unexpected lexeme fault =>
    "syntax error at " ++ lexeme.start.text ++ " near '" ++ lexeme.token.describe ++ "': " ++
      fault.message

end SyntaxError
end TreeQuery
