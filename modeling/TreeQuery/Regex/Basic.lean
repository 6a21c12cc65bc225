import TreeQuery.Unicode.Property

namespace TreeQuery
open Unicode

/-- The condition of a match of no characters. `word` anchors look at characters of words, the
ASCII ones only where `ascii` is set. -/
inductive Anchor
  | startOfText
  | endOfText
  | startOfLine (carriageReturns : Bool)
  | endOfLine (carriageReturns : Bool)
  | wordBoundary (ascii : Bool)
  | noWordBoundary (ascii : Bool)
  | wordStart (ascii : Bool)
  | wordEnd (ascii : Bool)
  | wordStartHalf (ascii : Bool)
  | wordEndHalf (ascii : Bool)
deriving Repr, DecidableEq

/-- The number whose bit `i` is the `i`-th truth value; it stands for a set of places in a text. -/
inductive Regex
  | empty
  | literal (text : List Char)
  | set (narrow : Bool) (s : CodeSet)
  | anchor (a : Anchor)
  | seq (parts : List Regex)
  | alt (branches : List Regex)
  | repeated (least : Nat) (most : Option Nat) (greedy : Bool) (body : Regex)
  | group (number : Nat) (body : Regex)
deriving Repr

namespace Regex

def places : List Bool → Nat
  | [] => 0
  | b :: rest => 2 * places rest + b.toNat

def placesBefore (p : Char → Bool) (text : List Char) : Nat := places (text.map p)

def surroundings : Option Char → List Char → List (Option Char × Option Char)
  | before, [] => [(before, none)]
  | before, c :: rest => (before, some c) :: surroundings (some c) rest

def isWord (ascii : Bool) (c : Char) : Bool :=
  Property.word.contains c.toNat && (!ascii || decide (c.toNat < 0x80))

end Regex

def Anchor.holds (before after : Option Char) : Anchor → Bool
  | startOfText => before.isNone
  | endOfText => after.isNone
  | startOfLine false => before.isNone || before == some '\n'
  | startOfLine true =>
    before.isNone || before == some '\n' || (before == some '\r' && after != some '\n')
  | endOfLine false => after.isNone || after == some '\n'
  | endOfLine true =>
    after.isNone || after == some '\r' || (after == some '\n' && before != some '\r')
  | wordBoundary ascii => before.any (Regex.isWord ascii) != after.any (Regex.isWord ascii)
  | noWordBoundary ascii => before.any (Regex.isWord ascii) == after.any (Regex.isWord ascii)
  | wordStart ascii => !before.any (Regex.isWord ascii) && after.any (Regex.isWord ascii)
  | wordEnd ascii => before.any (Regex.isWord ascii) && !after.any (Regex.isWord ascii)
  | wordStartHalf ascii => !before.any (Regex.isWord ascii)
  | wordEndHalf ascii => !after.any (Regex.isWord ascii)

namespace Regex

def steps (f : Nat → Nat) : Nat → Nat → Nat
  | 0, s => s
  | n + 1, s => let t := f s; if t = s then s else steps f n t

/-- Places reached from `s` by at most `n` uses of `f`. -/
def within (f : Nat → Nat) (n s : Nat) : Nat := steps (fun t => t ||| f t) n s

def passing (p : Char → Bool) (text : List Char) (s : Nat) : Nat :=
  (s &&& placesBefore p text) <<< 1

mutual

/-- The places where a match that starts at one of the given places can end. -/
def reach (text : List Char) : Regex → Nat → Nat
  | empty, s => s
  | literal cs, s => cs.foldl (fun s c => passing (· == c) text s) s
  | set _ cs, s => passing (fun c => cs.contains c.toNat) text s
  | anchor a, s => s &&& places ((surroundings none text).map fun p => a.holds p.1 p.2)
  | seq rs, s => reachInTurn text rs s
  | alt rs, s => reachByAny text rs s
  | repeated least most _ r, s =>
    within (r.reach text) ((most.map (· - least)).getD (text.length + 1))
      (steps (r.reach text) least s)
  | group _ r, s => r.reach text s

def reachInTurn (text : List Char) : List Regex → Nat → Nat
  | [], s => s
  | r :: rs, s => reachInTurn text rs (r.reach text s)

def reachByAny (text : List Char) : List Regex → Nat → Nat
  | [], _ => 0
  | r :: rs, s => r.reach text s ||| reachByAny text rs s

end

def occursIn (r : Regex) (text : String) : Bool :=
  r.reach text.toList (Nat.pow 2 (text.toList.length + 1) - 1) != 0

end Regex
end TreeQuery
