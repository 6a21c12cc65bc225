namespace TreeQuery.Unicode

def lastCode : Nat := 0x10FFFF

/-- A set of code points: ranges with both ends included, in ascending order. -/
structure CodeSet where
  ranges : List (Nat × Nat)
deriving Repr, DecidableEq

namespace CodeSet

def holds : List (Nat × Nat) → Nat → Bool
  | [], _ => false
  | (lo, hi) :: rest, n => if n < lo then false else if n ≤ hi then true else holds rest n

def contains (s : CodeSet) (n : Nat) : Bool := holds s.ranges n

def empty : CodeSet := ⟨[]⟩

def range (lo hi : Nat) : CodeSet := if lo ≤ hi then ⟨[(lo, hi)]⟩ else empty

def all : CodeSet := range 0 lastCode

def coalesce (lo hi : Nat) : List (Nat × Nat) → List (Nat × Nat)
  | [] => [(lo, hi)]
  | (lo', hi') :: rest =>
    if lo' ≤ hi + 1 then coalesce lo (max hi hi') rest else (lo, hi) :: coalesce lo' hi' rest

def ofRanges (ranges : List (Nat × Nat)) : CodeSet :=
  match (ranges.filter fun r => decide (r.1 ≤ r.2)).mergeSort fun a b => decide (a.1 ≤ b.1) with
  | [] => empty
  | (lo, hi) :: rest => ⟨coalesce lo hi rest⟩

def unions (sets : List CodeSet) : CodeSet := ofRanges (sets.flatMap ranges)

def edges : List (Nat × Nat) → List Nat
  | [] => []
  | (lo, hi) :: rest => lo :: (hi + 1) :: edges rest

def ofEdges : List Nat → List (Nat × Nat)
  | [] => []
  | [lo] => [(lo, lastCode)]
  | lo :: next :: rest => (lo, next - 1) :: ofEdges rest

/-- The edges of the set of code points whose memberships in two sets are related by `f`; `p` and
`q` are the memberships before the given edges of the two. -/
def sweep (f : Bool → Bool → Bool) (p q : Bool) : List Nat → List Nat → List Nat
  | [], [] => []
  | x :: xs, [] =>
    let rest := sweep f (!p) q xs []
    if f p q = f (!p) q then rest else x :: rest
  | [], y :: ys =>
    let rest := sweep f p (!q) [] ys
    if f p q = f p (!q) then rest else y :: rest
  | x :: xs, y :: ys =>
    if x < y then
      let rest := sweep f (!p) q xs (y :: ys)
      if f p q = f (!p) q then rest else x :: rest
    else if y < x then
      let rest := sweep f p (!q) (x :: xs) ys
      if f p q = f p (!q) then rest else y :: rest
    else
      let rest := sweep f (!p) (!q) xs ys
      if f p q = f (!p) (!q) then rest else x :: rest
termination_by xs ys => xs.length + ys.length

def combine (f : Bool → Bool → Bool) (a b : CodeSet) : CodeSet :=
  ⟨ofEdges (sweep f false false (edges a.ranges) (edges b.ranges))⟩

def union (a b : CodeSet) : CodeSet := combine (· || ·) a b

def inter (a b : CodeSet) : CodeSet := combine (· && ·) a b

def difference (a b : CodeSet) : CodeSet := combine (fun p q => p && !q) a b

def symmetricDifference (a b : CodeSet) : CodeSet := combine (· != ·) a b

def complement (s : CodeSet) : CodeSet := all.difference s

def surrogates : CodeSet := range 0xD800 0xDFFF

def hexDigit (c : Char) : Nat :=
  if '0' ≤ c ∧ c ≤ '9' then c.toNat - '0'.toNat
  else if 'A' ≤ c ∧ c ≤ 'F' then c.toNat - 'A'.toNat + 10
  else 0

/-- Reads ranges written `41-5A 61`; `lo` is the start of a range whose end is being read. -/
def readRanges : List Char → Option Nat → Nat → List (Nat × Nat)
  | [], lo, n => [(lo.getD n, n)]
  | c :: rest, lo, n =>
    if c = ' ' then (lo.getD n, n) :: readRanges rest none 0
    else if c = '-' then readRanges rest (some n) 0
    else readRanges rest lo (16 * n + hexDigit c)

def ofText (lines : List String) : CodeSet :=
  ⟨lines.flatMap fun line => if line = "" then [] else readRanges line.toList none 0⟩

/-- The sum of some sets, which holds what an odd number of them holds, changed at the code points
of a text. -/
def near (sets : List CodeSet) (change : List String) : CodeSet :=
  sets.foldl symmetricDifference (ofText change)

end CodeSet

structure NamedSet where
  names : List String
  base : List CodeSet
  change : List String

def NamedSet.set (s : NamedSet) : CodeSet := .near s.base s.change

def setNamed? (table : List NamedSet) (name : String) : Option CodeSet :=
  (table.find? fun entry => entry.names.contains name).map NamedSet.set

end TreeQuery.Unicode
