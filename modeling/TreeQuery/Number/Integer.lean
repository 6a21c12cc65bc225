namespace TreeQuery

inductive IntegerError
  | empty
  | invalidDigit
  | tooLarge
  | tooSmall
deriving Repr, DecidableEq

def IntegerError.message : IntegerError → String
  | empty => "cannot parse integer from empty string"
  | invalidDigit => "invalid digit found in string"
  | tooLarge => "number too large to fit in target type"
  | tooSmall => "number too small to fit in target type"

namespace Integer

def maxNatural : Nat := 0xFFFFFFFFFFFFFFFF

/-- The greatest number of 64 bits, one of them for the sign. -/
def maxInteger : Nat := 0x7FFFFFFFFFFFFFFF

def maxCount : Nat := 0xFFFFFFFF

def readDigits (limit : Nat) (overflow : IntegerError) : Nat → List Char → Except IntegerError Nat
  | n, [] => .ok n
  | n, c :: rest =>
    if c.isDigit then
      let next := 10 * n + (c.toNat - '0'.toNat)
      if next ≤ limit then readDigits limit overflow next rest else .error overflow
    else .error .invalidDigit

/-- Reads the digits after a sign; at least one must follow. -/
def readSigned (limit : Nat) (overflow : IntegerError) (digits : List Char) :
    Except IntegerError Nat :=
  if digits.isEmpty then .error .invalidDigit else readDigits limit overflow 0 digits

def readNatural (limit : Nat) : List Char → Except IntegerError Nat
  | [] => .error .empty
  | '+' :: digits => readSigned limit .tooLarge digits
  | digits => readDigits limit .tooLarge 0 digits

def readInt64 : List Char → Except IntegerError Int64
  | '-' :: digits => do
    return Int64.ofInt (-(← readSigned (maxInteger + 1) .tooSmall digits : Nat))
  | text => do return Int64.ofInt (← readNatural maxInteger text : Nat)

end Integer
end TreeQuery
