namespace TreeQuery

/-- A place in a text: characters before it, and its line and column, both counted from one. -/
structure Position where
  offset : Nat := 0
  line : Nat := 1
  column : Nat := 1
deriving Repr, DecidableEq

namespace Position

def next (p : Position) (c : Char) : Position :=
  if c = '\n' then ⟨p.offset + 1, p.line + 1, 1⟩ else ⟨p.offset + 1, p.line, p.column + 1⟩

def after (p : Position) (cs : List Char) : Position := cs.foldl next p

def text (p : Position) : String := "line " ++ toString p.line ++ ", column " ++ toString p.column

@[simp] theorem after_nil (p : Position) : p.after [] = p := rfl

theorem after_append (p : Position) (a b : List Char) : p.after (a ++ b) = (p.after a).after b :=
  List.foldl_append

theorem offset_after (p : Position) (cs : List Char) :
    (p.after cs).offset = p.offset + cs.length := by
  induction cs generalizing p with
  | nil => simp
  | cons c cs ih =>
    have step : (p.next c).offset = p.offset + 1 := by unfold next; split <;> rfl
    have := ih (p.next c)
    simp only [after, List.foldl_cons, List.length_cons] at this ⊢
    omega

end Position

inductive Token
  | sentinel
  | slash
  | openParen
  | closeParen
  /-- A bare word with its escapes resolved; `escaped` if it began with one. -/
  | word (text : String) (escaped : Bool)
  | literal (text : String)
  /-- All that follows a question mark, without blanks at its ends. -/
  | suffix (text : String)
  | eof
deriving Repr, DecidableEq

def Token.describe : Token → String
  | sentinel => "@"
  | slash => "/"
  | openParen => "("
  | closeParen => ")"
  | word text escaped => if escaped then "\\" ++ text else text
  | literal text => "\"" ++ text ++ "\""
  | suffix text => "?" ++ text
  | eof => "end of expression"

structure Lexeme where
  token : Token
  start : Position
deriving Repr, DecidableEq

inductive LexError
  | unterminatedLiteral (start : Position)
  | danglingEscape (place : Position)
deriving Repr, DecidableEq

namespace LexError

def position : LexError → Position
  | unterminatedLiteral p => p
  | danglingEscape p => p

def message : LexError → String
  | unterminatedLiteral p => "unterminated literal starting at " ++ p.text
  | danglingEscape p =>
    "dangling escape at " ++ p.text ++ ": a backslash must be followed by a character"

end LexError
end TreeQuery
