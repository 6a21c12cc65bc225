import TreeQuery.Number.Binary64

namespace TreeQuery

def Decimal.coefficientLimit : Nat := 0x1000000000000000000000000

structure Decimal where
  negative : Bool
  coefficient : Nat
  scale : Nat
  coefficient_lt : coefficient < Decimal.coefficientLimit := by decide
  scale_le : scale ≤ 28 := by decide
deriving Repr, DecidableEq

namespace Decimal

def maxScale : Nat := 28

def ofParts? (negative : Bool) (coefficient scale : Nat) : Option Decimal :=
  if h : coefficient < coefficientLimit ∧ scale ≤ 28 then some ⟨negative, coefficient, scale, h.1, h.2⟩
  else none

def zero : Decimal := { negative := false, coefficient := 0, scale := 0 }

/-- The coefficient brought to the greatest scale, with its sign: equal for equal values. -/
def units (d : Decimal) : Int :=
  let n : Int := (d.coefficient * Nat.pow 10 (28 - d.scale) : Nat)
  if d.negative then -n else n

def equals (a b : Decimal) : Bool := decide (a.units = b.units)

/-- All places that the scale asks for, and the sign of a negative zero too. -/
def text (d : Decimal) : String :=
  let digits := Nat.toDigits 10 d.coefficient
  let padded := List.replicate (d.scale + 1 - digits.length) '0' ++ digits
  let whole := padded.take (padded.length - d.scale)
  let fraction := padded.drop (padded.length - d.scale)
  let body := whole ++ if fraction.isEmpty then [] else '.' :: fraction
  String.ofList (if d.negative then '-' :: body else body)

def toInt? (d : Decimal) : Option Int :=
  if d.coefficient % Nat.pow 10 d.scale = 0 then
    let n : Int := (d.coefficient / Nat.pow 10 d.scale : Nat)
    some (if d.negative then -n else n)
  else none

def ofInt64 (n : Int64) : Decimal :=
  (ofParts? (decide (n.toInt < 0)) n.toInt.natAbs 0).getD zero

/-- The double for a decimal. Whole part and fraction are rounded on their own, added, and the
sum is rounded once more to as many places as the decimal has. -/
def toBinary64 (d : Decimal) : Binary64 :=
  if d.scale = 0 then .ofInt (if d.negative then -d.coefficient else d.coefficient)
  else
    let power : Nat := Nat.pow 10 d.scale
    let whole := (Ratio.ofNat (d.coefficient / power)).round
    let fraction :=
      ((Ratio.ofNat (d.coefficient % power)).round.div (Ratio.ofNat power).round).round
    if fraction.num = 0 then .ofRatio d.negative whole
    else
      let factor := (Ratio.ofNat power).round
      let scaled := ((whole.add fraction).round.mul factor).round
      .ofRatio d.negative ((Ratio.ofNat scaled.roundHalfUp).round.div factor)

def dropDigit (n : Nat) : Nat := n / 10 + if 5 ≤ n % 10 then 1 else 0

/-- Turns `n / 2 ^ k` into a coefficient over powers of ten: an even coefficient is halved, an odd
one is multiplied by five, or loses its last bit if it has no room to grow. Answers with the
coefficient and the scale. -/
def expand : Nat → Nat → Nat → Nat × Nat
  | 0, n, scale => (n, scale)
  | k + 1, n, scale =>
    if n % 2 = 0 then expand k (n / 2) scale
    else if 5 * n < coefficientLimit then expand k (5 * n) (scale + 1)
    else expand k (n / 2) scale

def fitScale : Nat → Nat → Nat × Nat
  | n, 0 => (n, 0)
  | n, scale + 1 =>
    if scale + 1 ≤ maxScale then (n, scale + 1)
    else if n / 10 = 0 then (0, 0)
    else fitScale (dropDigit n) scale

def fitPrecision : Nat → Nat → Nat × Nat
  | n, 0 => (n, 0)
  | n, scale + 1 => if n < Binary64.hiddenBit then (n, scale + 1) else fitPrecision (dropDigit n) scale

def stripZeros : Nat → Nat → Nat × Nat
  | n, 0 => (n, 0)
  | n, scale + 1 => if n % 10 = 0 then stripZeros (n / 10) scale else (n, scale + 1)

def ofBinary64? (x : Binary64) : Option Decimal :=
  if !x.isFinite then none
  else if 0 ≤ x.exponent then
    ofParts? x.isNegative (x.mantissa * Nat.pow 2 x.exponent.toNat) 0
  else
    let (n, scale) := expand (-x.exponent).toNat x.mantissa 0
    let (n, scale) := fitScale n scale
    let (n, scale) := fitPrecision n scale
    let (n, scale) := stripZeros n scale
    ofParts? x.isNegative n scale

end Decimal
end TreeQuery
