import TreeQuery.Expression.Fault
import TreeQuery.Number.Integer
import TreeQuery.Text.Blank

namespace TreeQuery.Selector

def isDigits (cs : List Char) : Bool := !cs.isEmpty && cs.all Char.isDigit

def cutAt? (mark : Char) : List Char → Option (List Char × List Char)
  | [] => none
  | c :: rest => if c = mark then some ([], rest) else (cutAt? mark rest).map fun p => (c :: p.1, p.2)

def cutAtLast? (mark : Char) (cs : List Char) : Option (List Char × List Char) :=
  (cutAt? mark cs.reverse).map fun p => (p.2.reverse, p.1.reverse)

def number (cs : List Char) : Except Fault Nat :=
  if !isDigits cs then .error (.expectedNumber (String.ofList cs))
  else match Integer.readNatural Integer.maxNatural cs with
    | .ok n => .ok n
    | .error _ => .error (.numberTooLarge (String.ofList cs))

def offset (sign : Int) (cs : List Char) : Except Fault Int :=
  match Integer.readNatural Integer.maxInteger cs with
  | .ok n => .ok (sign * n)
  | .error _ => .error (.offsetTooLarge (String.ofList cs))

/-- A bound of a range; blanks alone leave it out. -/
def bound (cs : List Char) : Except Fault (Option Nat) :=
  match Text.trim cs with
  | [] => .ok none
  | digits => do return some (← number digits)

def range? (cs : List Char) : Except Fault (Selector Literal) :=
  match cs.getLast?, cutAt? ',' cs.dropLast with
  | some ']', some (start, stop) => do return .range (← bound start) (← bound stop)
  | _, _ => .error .malformedRange

/-- The literal after an equals sign: a colon begins the name of a type, and another ends it. -/
def literal : List Char → Except Fault Literal
  | ':' :: typed =>
    match cutAt? ':' typed with
    | some (c :: name, text) => .ok (.typed (String.ofList (c :: name)) (String.ofList text))
    | _ => .error .malformedTyped
  | text => .ok (.plain (String.ofList text))

/-- The selector of a word without a backslash at its front. Of several readings the first counts;
what has none of them is a name. -/
def ofWord (text : List Char) : Except Fault (Selector Literal) :=
  match text with
  | ['*'] => .ok .children
  | ['*', '*'] => .ok .descendants
  | ['.'] => .ok .parent
  | ['.', '.'] => .ok .root
  | ['+'] => .ok (.sibling 1)
  | ['-'] => .ok (.sibling (-1))
  | ['<'] => .ok .previous
  | ['>'] => .ok .next
  | ['#'] => .ok .reference
  | '.' :: '.' :: name => .ok (.ancestor (String.ofList name))
  | _ =>
    if isDigits text then .numbered <$> number text
    else match text with
      | [] => .ok (.named "")
      | c :: rest =>
        if c = '+' ∧ isDigits rest then .sibling <$> offset 1 rest
        else if c = '-' ∧ isDigits rest then .sibling <$> offset (-1) rest
        else if c = '[' then range? rest
        else if c = '%' then do
          match ← number rest with
          | 0 => .error .zeroModulo
          | n => return .everyNth n
        else if c = '=' then .equals <$> literal rest
        else match SetOp.ofSymbol? c with
          | some op => .error (.operatorOperand op)
          | none => .ok (.named (String.ofList text))

def patternParts? : List Char → Option (List Char × List Char)
  | '/' :: rest => cutAtLast? '/' rest
  | _ => none

def pattern (parts : List Char × List Char) : Except Fault Pattern :=
  match Pattern.compile (String.ofList parts.1) (String.ofList parts.2) with
  | .ok p => .ok p
  | .error e => .error (.pattern e)

/-- The selector of a literal: a name after a backslash, a pattern for values or names between
slashes, else what a word of this text stands for. -/
def ofLiteral (text : List Char) : Except Fault (Selector Literal) :=
  match text with
  | '\\' :: name => .ok (.named (String.ofList name))
  | _ =>
    let valueParts := match text with
      | '=' :: rest => patternParts? rest
      | _ => none
    match valueParts, patternParts? text with
    | some parts, _ => .valueMatches <$> pattern parts
    | none, some parts => .nameMatches <$> pattern parts
    | none, none => ofWord text

end TreeQuery.Selector
