import TreeQuery.Regex.Basic

namespace TreeQuery.Regex
open Unicode

mutual

def same : Regex → Regex → Bool
  | empty, empty => true
  | literal cs, literal ds => decide (cs = ds)
  | set narrow s, set narrow' t => narrow == narrow' && decide (s = t)
  | anchor a, anchor b => decide (a = b)
  | seq rs, seq qs => sameAll rs qs
  | alt rs, alt qs => sameAll rs qs
  | repeated least most greedy r, repeated least' most' greedy' q =>
    decide (least = least') && decide (most = most') && greedy == greedy' && same r q
  | group n r, group m q => decide (n = m) && same r q
  | _, _ => false

def sameAll : List Regex → List Regex → Bool
  | [], [] => true
  | r :: rs, q :: qs => same r q && sameAll rs qs
  | _, _ => false

end

mutual

def isEmptyOnly : Regex → Bool
  | empty | anchor _ => true
  | literal _ | set _ _ => false
  | seq rs | alt rs => areEmptyOnly rs
  | repeated _ _ _ r | group _ r => r.isEmptyOnly

def areEmptyOnly : List Regex → Bool
  | [] => true
  | r :: rs => r.isEmptyOnly && areEmptyOnly rs

end

mutual

/-- A number of characters that no match goes below, unless some set in it is empty. -/
def shortest? : Regex → Option Nat
  | empty | anchor _ => some 0
  | literal cs => some cs.length
  | set _ s => if s.ranges.isEmpty then none else some 1
  | seq rs => shortestInTurn? rs
  | alt rs => shortestOfAny? rs
  | repeated least _ _ r => r.shortest?.map (least * ·)
  | group _ r => r.shortest?

def shortestInTurn? : List Regex → Option Nat
  | [] => some 0
  | r :: rs => do return (← r.shortest?) + (← shortestInTurn? rs)

def shortestOfAny? : List Regex → Option Nat
  | [] => none
  | [r] => r.shortest?
  | r :: rs => do return min (← r.shortest?) (← shortestOfAny? rs)

end

def ofSet (narrow : Bool) (s : CodeSet) : Regex :=
  let s := s.difference .surrogates
  match s.ranges with
  | [] => set true s
  | [(lo, hi)] => if lo = hi then literal [Char.ofNat lo] else set narrow s
  | _ => set narrow s

def parts : Regex → List Regex
  | empty => []
  | seq rs => rs
  | r => [r]

def branches : Regex → List Regex
  | alt rs => rs
  | r => [r]

def joinLiterals : List Regex → List Regex
  | [] => []
  | literal cs :: rest =>
    match joinLiterals rest with
    | literal ds :: rest => literal (cs ++ ds) :: rest
    | rest => literal cs :: rest
  | r :: rest => r :: joinLiterals rest

def inTurn (rs : List Regex) : Regex :=
  match joinLiterals (rs.flatMap parts) with
  | [] => empty
  | [r] => r
  | rs => seq rs

def character? : Regex → Option CodeSet
  | literal [c] => some (.range c.toNat c.toNat)
  | _ => none

def set? : Regex → Option CodeSet
  | set _ s => some s
  | _ => none

def merged? (rs : List Regex) : Option Regex :=
  (rs.mapM character? <|> rs.mapM set?).map fun sets => ofSet false (.unions sets)

def anyOfUnlike (rs : List Regex) : Regex :=
  match rs.flatMap branches with
  | [r] => r
  | rs => (merged? rs).getD (alt rs)

def sharedParts : List Regex → List Regex → List Regex
  | r :: rs, q :: qs => if same r q then r :: sharedParts rs qs else []
  | _, _ => []

def commonParts : List Regex → List Regex
  | seq first :: rest =>
    rest.foldl (fun shared r => match r with
      | seq rs => sharedParts shared rs
      | _ => []) first
  | _ => []

/-- Any of the expressions. What is left of the alternatives without their common beginning has
no beginning in common, because the parts of each are in normal form. -/
def anyOf (rs : List Regex) : Regex :=
  match rs.flatMap branches with
  | [r] => r
  | rs =>
    match merged? rs, commonParts rs with
    | some r, _ => r
    | none, [] => alt rs
    | none, shared =>
      inTurn (shared ++ [anyOfUnlike (rs.map fun r => inTurn (r.parts.drop shared.length))])

/-- A repetition. What matches nothing but the empty text is taken once at most. -/
def times (least : Nat) (most : Option Nat) (greedy : Bool) (r : Regex) : Regex :=
  let least := if r.isEmptyOnly then min least 1 else least
  let most := if r.isEmptyOnly then some (min (most.getD 1) 1) else most
  match least, most with
  | 0, some 0 => empty
  | 1, some 1 => r
  | _, _ => repeated least most greedy r

end TreeQuery.Regex
