import TreeQuery.Json.Basic
import TreeQuery.Number.Integer

namespace TreeQuery.Json

def depthLimit : Nat := 128

def isSpace (c : Char) : Bool := c == ' ' || c == '\n' || c == '\t' || c == '\r'

def skipSpaces (cs : List Char) : List Char := cs.dropWhile isSpace

def hexDigit? (c : Char) : Option Nat :=
  if '0' ≤ c ∧ c ≤ '9' then some (c.toNat - '0'.toNat)
  else if 'a' ≤ c ∧ c ≤ 'f' then some (c.toNat - 'a'.toNat + 10)
  else if 'A' ≤ c ∧ c ≤ 'F' then some (c.toNat - 'A'.toNat + 10)
  else none

def hexUnit? (a b c d : Char) : Option Nat := do
  return ((16 * (← hexDigit? a) + (← hexDigit? b)) * 16 + (← hexDigit? c)) * 16 + (← hexDigit? d)

def simpleEscape? : Char → Option Char
  | '"' => some '"'
  | '\\' => some '\\'
  | '/' => some '/'
  | 'b' => some '\x08'
  | 'f' => some '\x0c'
  | 'n' => some '\n'
  | 'r' => some '\r'
  | 't' => some '\t'
  | _ => none

/-- Reads a string from after its opening mark to after its closing mark. The units of a
surrogate pair stand for one character and are refused alone. -/
def readString : List Char → Option (List Char × List Char)
  | [] => none
  | '"' :: rest => some ([], rest)
  | '\\' :: 'u' :: a :: b :: c :: d :: rest =>
    match hexUnit? a b c d with
    | none => none
    | some unit =>
      if 0xDC00 ≤ unit ∧ unit ≤ 0xDFFF then none
      else if 0xD800 ≤ unit ∧ unit ≤ 0xDBFF then
        match rest with
        | '\\' :: 'u' :: e :: f :: g :: h :: rest =>
          match hexUnit? e f g h with
          | none => none
          | some low =>
            if 0xDC00 ≤ low ∧ low ≤ 0xDFFF then
              (readString rest).map fun p =>
                (Char.ofNat (0x10000 + 0x400 * (unit - 0xD800) + (low - 0xDC00)) :: p.1, p.2)
            else none
        | _ => none
      else (readString rest).map fun p => (Char.ofNat unit :: p.1, p.2)
  | '\\' :: e :: rest =>
    match simpleEscape? e with
    | some c => (readString rest).map fun p => (c :: p.1, p.2)
    | none => none
  | c :: rest =>
    if c.toNat < 0x20 ∨ c = '\\' then none else (readString rest).map fun p => (c :: p.1, p.2)

/-- The significand of a number being read: digits are kept while 64 bits hold them. -/
structure Significand where
  value : Nat := 0
  exponent : Int := 0
deriving Repr

/-- Takes digits of the whole part; digits without room raise the exponent. -/
def Significand.whole (s : Significand) (full : Bool) : List Char → Significand
  | [] => s
  | c :: rest =>
    let next := 10 * s.value + (c.toNat - '0'.toNat)
    if full || decide (Integer.maxNatural < next) then
      Significand.whole { s with exponent := s.exponent + 1 } true rest
    else Significand.whole { s with value := next } false rest

/-- Takes digits of the fraction; digits without room are dropped. -/
def Significand.fraction (s : Significand) : List Char → Significand
  | [] => s
  | c :: rest =>
    let next := 10 * s.value + (c.toNat - '0'.toNat)
    if Integer.maxNatural < next then s else Significand.fraction ⟨next, s.exponent - 1⟩ rest

def power (n : Nat) : Ratio := (Ratio.ofNat (Nat.pow 10 n)).round

/-- Scales a double by a power of ten, in steps of at most 308; `none` if it becomes infinite. -/
def scale : Nat → Ratio → Int → Option Ratio
  | 0, _, _ => none
  | fuel + 1, f, e =>
    if e.natAbs ≤ 308 then
      if 0 ≤ e then
        let a := f.mul (power e.toNat)
        if a.nearestMagnitude < Binary64.infiniteMagnitude then some a.round else none
      else some (f.div (power e.natAbs)).round
    else if f.num = 0 then some f
    else if 0 ≤ e then none
    else scale fuel (f.div (power 308)).round (e + 308)

def floatOf? (negative : Bool) (s : Significand) (e : Int) : Option Json :=
  (scale 8 (Ratio.ofNat s.value).round (s.exponent + e)).map fun a => .float (.ofRatio negative a)

def maxExponent : Nat := 0x7FFFFFFF

def withExponent? (negative : Bool) (s : Significand) (down : Bool) (digits : List Char) :
    Option Json :=
  let e := digits.foldl (fun n c => 10 * n + (c.toNat - '0'.toNat)) 0
  if e ≤ maxExponent then floatOf? negative s (if down then -(e : Int) else e)
  else if s.value ≠ 0 ∧ !down then none
  else some (.float (.zero negative))

def integerOf (negative : Bool) (n : Nat) : Json :=
  if !negative then .integer n
  else if n = 0 ∨ Integer.maxInteger + 1 < n then .float (.ofRatio true (.ofNat n))
  else .integer (-n)

def readExponent (negative : Bool) (s : Significand) (plain : Option Json) (cs : List Char) :
    Option (Json × List Char) :=
  match cs with
  | [] => plain.map (·, [])
  | c :: rest =>
    if c = 'e' ∨ c = 'E' then
      let (down, rest) := match rest with
        | '-' :: rest => (true, rest)
        | '+' :: rest => (false, rest)
        | rest => (false, rest)
      let digits := rest.takeWhile Char.isDigit
      if digits.isEmpty then none
      else (withExponent? negative s down digits).map (·, rest.drop digits.length)
    else plain.map (·, cs)

/-- Reads a number after its sign. One with a point or an exponent, or beyond 64 bits, is scaled in
double precision, so that its last bit is not always that of the nearest double. -/
def readNumber (negative : Bool) (cs : List Char) : Option (Json × List Char) :=
  let digits := cs.takeWhile Char.isDigit
  let rest := cs.drop digits.length
  if digits.isEmpty || (digits.head? == some '0' && decide (1 < digits.length)) then none
  else
    let s := Significand.whole {} false digits
    match rest with
    | '.' :: rest =>
      let fraction := rest.takeWhile Char.isDigit
      if fraction.isEmpty then none
      else
        let s := s.fraction fraction
        readExponent negative s (floatOf? negative s 0) (rest.drop fraction.length)
    | rest =>
      let plain := if s.exponent = 0 then some (integerOf negative s.value) else floatOf? negative s 0
      readExponent negative s plain rest

def readWord (word : List Char) (value : Json) (cs : List Char) : Option (Json × List Char) :=
  if word.isPrefixOf cs then some (value, cs.drop word.length) else none

mutual
/-- Reads a value; `fuel` exceeds the number of characters, and `depth` is how much deeper
arrays and objects may go. -/
def readValue : Nat → Nat → List Char → Option (Json × List Char)
  | 0, _, _ => none
  | fuel + 1, depth, cs =>
    match skipSpaces cs with
    | '[' :: rest =>
      if depth ≤ 1 then none
      else match skipSpaces rest with
        | ']' :: rest => some (.array [], rest)
        | rest => (readItems fuel (depth - 1) rest).map fun p => (.array p.1, p.2)
    | '\x7b' :: rest =>
      if depth ≤ 1 then none
      else match skipSpaces rest with
        | '\x7d' :: rest => some (.object [], rest)
        | rest => (readMembers fuel (depth - 1) rest).map fun p => (ofMembers p.1, p.2)
    | '"' :: rest => (readString rest).map fun p => (.string (String.ofList p.1), p.2)
    | 't' :: rest => readWord ['r', 'u', 'e'] (.boolean true) rest
    | 'f' :: rest => readWord ['a', 'l', 's', 'e'] (.boolean false) rest
    | 'n' :: rest => readWord ['u', 'l', 'l'] .null rest
    | '-' :: rest => readNumber true rest
    | rest => readNumber false rest

def readItems : Nat → Nat → List Char → Option (List Json × List Char)
  | 0, _, _ => none
  | fuel + 1, depth, cs =>
    match readValue fuel depth cs with
    | none => none
    | some (item, rest) =>
      match skipSpaces rest with
      | ']' :: rest => some ([item], rest)
      | ',' :: rest => (readItems fuel depth rest).map fun p => (item :: p.1, p.2)
      | _ => none

def readMembers : Nat → Nat → List Char → Option (List (String × Json) × List Char)
  | 0, _, _ => none
  | fuel + 1, depth, cs =>
    match skipSpaces cs with
    | '"' :: rest =>
      match readString rest with
      | none => none
      | some (key, rest) =>
        match skipSpaces rest with
        | ':' :: rest =>
          match readValue fuel depth rest with
          | none => none
          | some (value, rest) =>
            match skipSpaces rest with
            | '\x7d' :: rest => some ([(String.ofList key, value)], rest)
            | ',' :: rest =>
              (readMembers fuel depth rest).map fun p => ((String.ofList key, value) :: p.1, p.2)
            | _ => none
        | _ => none
    | _ => none
end

def read? (text : String) : Option Json :=
  let cs := text.toList
  match readValue (cs.length + 1) depthLimit cs with
  | some (value, rest) => if (skipSpaces rest).isEmpty then some value else none
  | none => none

end TreeQuery.Json
