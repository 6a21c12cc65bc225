import TreeQuery.Number.Decimal
import TreeQuery.Number.Integer

namespace TreeQuery.Decimal

inductive ReadError
  | empty
  | noDigits
  | secondPoint
  | leadingSeparator
  | unknownCharacter
  | tooManyDigits
  | roundingOverflow
  | noExponent
  | scaleTooLarge (scale : Nat)
  | tooLarge
deriving Repr, DecidableEq

def ReadError.message : ReadError → String
  | empty => "Invalid decimal: empty"
  | noDigits => "Invalid decimal: no digits found"
  | secondPoint => "Invalid decimal: two decimal points"
  | leadingSeparator => "Invalid decimal: must start lead with a number"
  | unknownCharacter => "Invalid decimal: unknown character"
  | tooManyDigits => "Invalid decimal: overflow from too many digits"
  | roundingOverflow => "Invalid decimal: overflow from mantissa after rounding"
  | noExponent => "Failed to parse"
  | scaleTooLarge scale =>
    "Scale exceeds the maximum precision allowed: " ++ toString scale ++ " > 28"
  | tooLarge => "Number exceeds maximum value that can be represented."

def misplaced (c : Char) : ReadError :=
  if c = '.' then .secondPoint else if c = '_' then .leadingSeparator else .unknownCharacter

structure Reading where
  negative : Bool
  coefficient : Nat := 0
  scale : Nat := 0
  pointSeen : Bool := false
  digitSeen : Bool := false

def Reading.finish (r : Reading) : Except ReadError Decimal :=
  if !r.digitSeen then .error .noDigits
  else match ofParts? (r.negative && r.coefficient != 0) r.coefficient r.scale with
    | some d => .ok d
    | none => .error .tooManyDigits

/-- Rounds by the digit after those that were kept. A coefficient that has no room to grow gives
up its last place. The rest of the text may hold digits and low lines. -/
def Reading.roundBy (r : Reading) (digit : Nat) (rest : List Char) : Except ReadError Decimal :=
  match rest.find? fun c => !(c.isDigit || c == '_') with
  | some c => .error (misplaced c)
  | none =>
    if digit < 5 then r.finish
    else if r.coefficient + 1 < coefficientLimit then
      { r with coefficient := r.coefficient + 1 }.finish
    else if r.scale = 0 then .error .roundingOverflow
    else { r with coefficient := (r.coefficient + 5) / 10, scale := r.scale - 1 }.finish

def Reading.push (r : Reading) (digit : Nat) : Reading :=
  { r with
    coefficient := 10 * r.coefficient + digit
    scale := if r.pointSeen then r.scale + 1 else r.scale
    digitSeen := true }

def Reading.isFull (r : Reading) : Bool := r.pointSeen && decide (maxScale ≤ r.scale)

/-- From this coefficient on, a low line after the last place is passed over; before, it counts
as the digit zero. -/
def wideCoefficient : Nat := Integer.maxNatural / 10 - 255

/-- Continues a plain decimal. `wide` tells whether the coefficient has become wide before the
last place was filled. -/
def readPlain (wide : Bool) (r : Reading) : List Char → Except ReadError Decimal
  | [] => r.finish
  | c :: rest =>
    if c.isDigit then
      let digit := c.toNat - '0'.toNat
      let next := r.push digit
      if r.isFull then r.roundBy digit rest
      else if coefficientLimit ≤ next.coefficient then
        if r.pointSeen then r.roundBy digit rest else .error .tooManyDigits
      else
        readPlain (wide || (!next.isFull && decide (wideCoefficient ≤ next.coefficient))) next rest
    else if c = '.' ∧ !r.pointSeen then readPlain wide { r with pointSeen := true } rest
    else if c = '_' ∧ r.digitSeen then
      if r.isFull && !wide then r.roundBy 0 rest else readPlain wide r rest
    else .error (misplaced c)

def readUnscaled : List Char → Except ReadError Decimal
  | [] => .error .empty
  | '-' :: rest => readPlain false { negative := true } rest
  | '+' :: rest => readPlain false { negative := false } rest
  | text => readPlain false { negative := false } text

def orFail (e : ReadError) : Option Decimal → Except ReadError Decimal
  | some d => .ok d
  | none => .error e

def shiftDown (d : Decimal) (power : Nat) : Except ReadError Decimal :=
  if maxScale < power then .error (.scaleTooLarge power)
  else if d.scale + power ≤ maxScale then
    orFail .tooLarge (ofParts? d.negative d.coefficient (d.scale + power))
  else
    let n := (Ratio.mk d.coefficient (Nat.pow 10 (d.scale + power - maxScale))).roundHalfUp
    orFail .tooLarge (ofParts? d.negative n maxScale)

def shiftUp (d : Decimal) (power : Nat) : Except ReadError Decimal :=
  if power ≤ d.scale then orFail .tooLarge (ofParts? d.negative d.coefficient (d.scale - power))
  else if maxScale < power then .error (.scaleTooLarge power)
  else if d.coefficient = 0 then .ok zero
  else orFail .tooLarge (ofParts? d.negative (d.coefficient * Nat.pow 10 (power - d.scale)) 0)

def isExponentMark (c : Char) : Bool := c == 'e' || c == 'E'

def readScaled (text : List Char) : Except ReadError Decimal :=
  let base := text.takeWhile fun c => !isExponentMark c
  match text.drop base.length with
  | [] => .error .noExponent
  | _ :: power => do
    let d ← readUnscaled base
    let (down, digits) := match power with
      | '-' :: digits => (true, digits)
      | digits => (false, digits)
    match Integer.readNatural Integer.maxCount digits with
    | .error _ => .error .noExponent
    | .ok n => if down then shiftDown d n else shiftUp d n

/-- Reads a decimal; the fault of a text that is none in either form is that of the second. -/
def read (text : List Char) : Except ReadError Decimal :=
  match readUnscaled text with
  | .ok d => .ok d
  | .error _ => readScaled text

end TreeQuery.Decimal
