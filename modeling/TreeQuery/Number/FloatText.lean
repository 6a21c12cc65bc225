import TreeQuery.Number.Shortest

namespace TreeQuery.Binary64

def natText (n : Nat) : List Char := Nat.toDigits 10 n

def positional (d : Digits) : List Char :=
  let digits := natText d.digits
  if 0 ≤ d.exponent then digits ++ List.replicate d.exponent.toNat '0'
  else
    let places := (-d.exponent).toNat
    if places < digits.length then
      digits.take (digits.length - places) ++ '.' :: digits.drop (digits.length - places)
    else '0' :: '.' :: List.replicate (places - digits.length) '0' ++ digits

def scientific (d : Digits) : List Char :=
  let digits := natText d.digits
  let power := d.exponent + (digits.length : Int) - 1
  let fraction := digits.drop 1
  digits.take 1 ++ (if fraction.isEmpty then [] else '.' :: fraction) ++
    'e' :: (if power < 0 then '-' else '+') :: natText power.natAbs

def signed (x : Binary64) (text : List Char) : String :=
  String.ofList (if x.isNegative then '-' :: text else text)

/-- The text of a number: never an exponent, a point only before a fraction. -/
def text (x : Binary64) : String :=
  if x.isNaN then "NaN"
  else if x.isInfinite then x.signed ['i', 'n', 'f']
  else if x.isZero then x.signed ['0']
  else x.signed (positional (x.shortest .greater))

/-- The text of a finite number in JSON: always a point or an exponent, and an exponent when the
first digit stands for less than 10⁻⁵ or for more than 10¹⁵. -/
def jsonText (x : Binary64) : String :=
  if x.isZero then x.signed ['0', '.', '0']
  else
    let d := x.shortest .even
    let power := d.exponent + (digitCount d.digits : Int) - 1
    x.signed <|
      if power < -5 ∨ 15 < power then scientific d
      else if 0 ≤ d.exponent then positional d ++ ['.', '0']
      else positional d

inductive ReadError
  | empty
  | invalid
deriving Repr, DecidableEq

def ReadError.message : ReadError → String
  | empty => "cannot parse float from empty string"
  | invalid => "invalid float literal"

def valueOfDigits (digits : List Char) : Nat :=
  digits.foldl (fun n c => 10 * n + (c.toNat - '0'.toNat)) 0

def readExponent? : List Char → Option Int
  | [] => some 0
  | c :: rest =>
    if c = 'e' ∨ c = 'E' then
      let (negative, digits) := match rest with
        | '-' :: digits => (true, digits)
        | '+' :: digits => (false, digits)
        | digits => (false, digits)
      if digits.isEmpty || !digits.all Char.isDigit then none
      else some (if negative then -(valueOfDigits digits : Int) else valueOfDigits digits)
    else none

/-- The double nearest to a decimal; beyond the range of doubles the power of ten is not
computed. -/
def ofDecimal (negative : Bool) (n : Nat) (exponent : Int) : Binary64 :=
  let power := exponent + (digitCount n : Int)
  if n = 0 ∨ power < -400 then zero negative
  else if 400 < power then infinity negative
  else ofRatio negative (decimalRatio n exponent)

def readUnsigned (negative : Bool) (text : List Char) : Except ReadError Binary64 :=
  let name := String.ofList (text.map Char.toLower)
  if name = "inf" ∨ name = "infinity" then .ok (infinity negative)
  else if name = "nan" then .ok nan
  else
    let whole := text.takeWhile Char.isDigit
    let rest := text.drop whole.length
    let fraction := match rest with
      | '.' :: rest => rest.takeWhile Char.isDigit
      | _ => []
    let rest := match rest with
      | '.' :: rest => rest.drop fraction.length
      | rest => rest
    if whole.isEmpty && fraction.isEmpty then .error .invalid
    else match readExponent? rest with
      | some e => .ok (ofDecimal negative (valueOfDigits (whole ++ fraction)) (e - fraction.length))
      | none => .error .invalid

def read : List Char → Except ReadError Binary64
  | [] => .error .empty
  | '-' :: text => readUnsigned true text
  | '+' :: text => readUnsigned false text
  | text => readUnsigned false text

end TreeQuery.Binary64
