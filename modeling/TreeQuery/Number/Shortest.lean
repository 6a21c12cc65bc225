import TreeQuery.Number.Binary64

namespace TreeQuery.Binary64

/-- A decimal number: `digits` times ten to the power of `exponent`. -/
structure Digits where
  digits : Nat
  exponent : Int
deriving Repr, DecidableEq

def digitCount (n : Nat) : Nat := if n = 0 then 0 else (Nat.toDigits 10 n).length

def leadingPower (a : Ratio) : Int :=
  if a.den ≤ a.num then (digitCount a.floor : Int) - 1
  else -(digitCount ((a.den - 1) / a.num) : Int)

def inUnits (a : Ratio) (k : Int) : Ratio :=
  if 0 ≤ k then ⟨a.num, a.den * Nat.pow 10 k.toNat⟩ else ⟨a.num * Nat.pow 10 (-k).toNat, a.den⟩

/-- The distance to the middle of the gap below a finite number, in quarters of its unit: the gap
is only half as wide below a power of two. -/
def gapBelow (x : Binary64) : Nat :=
  if x.mantissa = hiddenBit ∧ -1074 < x.exponent then 1 else 2

/-- Whether a quotient rounds to the double `x`: it is between the middles to the neighbours of
`x`, or such a middle when `x` is even. All are compared in quarters of the unit of `x`. -/
def roundsTo (x : Binary64) (a : Ratio) : Bool :=
  let q := a.scaleDown (x.exponent - 2)
  let low := (4 * x.mantissa - x.gapBelow) * q.den
  let high := (4 * x.mantissa + 2) * q.den
  if x.mantissa % 2 = 0 then decide (low ≤ q.num ∧ q.num ≤ high)
  else decide (low < q.num ∧ q.num < high)

def decimalRatio (n : Nat) (k : Int) : Ratio :=
  if 0 ≤ k then ⟨n * Nat.pow 10 k.toNat, 1⟩ else ⟨n, Nat.pow 10 (-k).toNat⟩

inductive Tie
  | greater
  | even
deriving Repr, DecidableEq

/-- On the grid of multiples of ten to the power of `k`, the nearest point that rounds to `x`. -/
def onGrid? (tie : Tie) (x : Binary64) (k : Int) : Option Nat :=
  let u := inUnits x.toRatio k
  let low := u.floor
  let lowFits := roundsTo x (decimalRatio low k)
  let highFits := roundsTo x (decimalRatio (low + 1) k)
  let rest := 2 * (u.num % u.den)
  let takeHigh :=
    if rest = u.den then (match tie with | .greater => true | .even => low % 2 = 1)
    else decide (u.den < rest)
  if lowFits && highFits then some (if takeHigh then low + 1 else low)
  else if lowFits then some low
  else if highFits then some (low + 1)
  else none

def search (tie : Tie) (x : Binary64) : Nat → Int → Digits
  | 0, k => ⟨(inUnits x.toRatio k).floor, k⟩
  | tries + 1, k =>
    match onGrid? tie x k with
    | some n => ⟨n, k⟩
    | none => search tie x tries (k - 1)

def Digits.strip : Nat → Digits → Digits
  | 0, d => d
  | fuel + 1, d =>
    if d.digits ≠ 0 ∧ d.digits % 10 = 0 then strip fuel ⟨d.digits / 10, d.exponent + 1⟩ else d

/-- The shortest digits of a finite number other than zero: of all decimals that round to it, those
with the fewest digits, and of these the one nearest to it. -/
def shortest (tie : Tie) (x : Binary64) : Digits :=
  let d := search tie x 17 (leadingPower x.toRatio)
  d.strip (digitCount d.digits)

end TreeQuery.Binary64
