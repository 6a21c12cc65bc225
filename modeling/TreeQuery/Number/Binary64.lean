namespace TreeQuery

/-- A double-precision number, by its bits. Nothing is computed with hardware floats. -/
structure Binary64 where
  bits : UInt64
deriving Repr, DecidableEq

namespace Binary64

def signBit : Nat := 0x8000000000000000

def hiddenBit : Nat := 0x10000000000000

def isNegative (x : Binary64) : Bool := decide (signBit ≤ x.bits.toNat)

def magnitude (x : Binary64) : Nat := x.bits.toNat % signBit

/-- The magnitude of infinity; greater ones are not numbers. -/
def infiniteMagnitude : Nat := 0x7FF0000000000000

def isNaN (x : Binary64) : Bool := decide (infiniteMagnitude < x.magnitude)

def isInfinite (x : Binary64) : Bool := decide (x.magnitude = infiniteMagnitude)

def isFinite (x : Binary64) : Bool := decide (x.magnitude < infiniteMagnitude)

def isZero (x : Binary64) : Bool := decide (x.magnitude = 0)

def ofMagnitude (negative : Bool) (magnitude : Nat) : Binary64 :=
  ⟨UInt64.ofNat (magnitude + if negative then signBit else 0)⟩

def nan : Binary64 := ofMagnitude false 0x7FF8000000000000

def infinity (negative : Bool) : Binary64 := ofMagnitude negative infiniteMagnitude

def zero (negative : Bool) : Binary64 := ofMagnitude negative 0

/-- The whole-number factor of a finite value: the value is it times two to the power of
`exponent`, up to sign. -/
def mantissa (x : Binary64) : Nat :=
  if x.magnitude < hiddenBit then x.magnitude else hiddenBit + x.magnitude % hiddenBit

def exponent (x : Binary64) : Int :=
  if x.magnitude < hiddenBit then -1074 else (x.magnitude / hiddenBit : Nat) - 1075

/-- Equality of numbers: the two zeros are equal and what is not a number equals nothing. -/
def equals (x y : Binary64) : Bool :=
  !x.isNaN && !y.isNaN && (decide (x = y) || (x.isZero && y.isZero))

end Binary64

structure Ratio where
  num : Nat
  den : Nat
deriving Repr, DecidableEq

namespace Ratio

def ofNat (n : Nat) : Ratio := ⟨n, 1⟩

def mul (a b : Ratio) : Ratio := ⟨a.num * b.num, a.den * b.den⟩

def div (a b : Ratio) : Ratio := ⟨a.num * b.den, a.den * b.num⟩

def add (a b : Ratio) : Ratio := ⟨a.num * b.den + b.num * a.den, a.den * b.den⟩

def floor (a : Ratio) : Nat := a.num / a.den

def roundHalfUp (a : Ratio) : Nat := (2 * a.num + a.den) / (2 * a.den)

def roundHalfEven (a : Ratio) : Nat :=
  let whole := a.num / a.den
  let rest := 2 * (a.num % a.den)
  if rest < a.den then whole
  else if a.den < rest then whole + 1
  else whole + whole % 2

def scaleDown (a : Ratio) (k : Int) : Ratio :=
  if 0 ≤ k then ⟨a.num, a.den * Nat.pow 2 k.toNat⟩ else ⟨a.num * Nat.pow 2 (-k).toNat, a.den⟩

/-- Two to the power of `-k` brings the quotient into the range of 53-bit numbers, unless it is
less than the least normal double. -/
def binaryExponent (a : Ratio) : Int :=
  let guess : Int := (Nat.log2 a.num : Int) - (Nat.log2 a.den : Int) - 52
  max (if (a.scaleDown guess).floor < Binary64.hiddenBit then guess - 1 else guess) (-1074)

/-- The magnitude of the nearest double, the even one of two; infinity beyond the greatest. -/
def nearestMagnitude (a : Ratio) : Nat :=
  if a.num = 0 then 0
  else
    let k := a.binaryExponent
    min Binary64.infiniteMagnitude ((k + 1074).toNat * Binary64.hiddenBit + (a.scaleDown k).roundHalfEven)

end Ratio

namespace Binary64

def ofRatio (negative : Bool) (a : Ratio) : Binary64 := ofMagnitude negative a.nearestMagnitude

def toRatio (x : Binary64) : Ratio :=
  if 0 ≤ x.exponent then ⟨x.mantissa * Nat.pow 2 x.exponent.toNat, 1⟩
  else ⟨x.mantissa, Nat.pow 2 (-x.exponent).toNat⟩

def ofInt (n : Int) : Binary64 := ofRatio (decide (n < 0)) (.ofNat n.natAbs)

def toInt? (x : Binary64) : Option Int :=
  let a := x.toRatio
  if x.isFinite ∧ a.num % a.den = 0 then
    let n : Int := (a.num / a.den : Nat)
    some (if x.isNegative then -n else n)
  else none

end Binary64

def Ratio.round (a : Ratio) : Ratio := (Binary64.ofRatio false a).toRatio

end TreeQuery
