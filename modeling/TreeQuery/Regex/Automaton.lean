import Std.Data.HashMap
import TreeQuery.Regex.Normal
import TreeQuery.Text.ByteRange

namespace TreeQuery.Regex
open Text Unicode

/-- How far the building of an automaton has come. States are numbered as they are added. -/
structure Extent where
  states : Nat
  bytes : Nat

namespace Extent

def limit : Nat := 10 * 1024 * 1024

def isWithinLimit (e : Extent) : Bool := decide (e.bytes ≤ limit)

def addStates (e : Extent) (n : Nat) : Extent := ⟨e.states + n, e.bytes + 32 * n⟩

def addChoices (e : Extent) (n : Nat) : Extent := { e with bytes := e.bytes + 4 * n }

def addBranching (e : Extent) (ranges : Nat) : Extent :=
  { e.addStates 1 with bytes := e.bytes + 32 + 8 * ranges }

def extendTimes (f : Extent → Extent) : Nat → Extent → Extent
  | 0, e => e
  | n + 1, e => if e.isWithinLimit then extendTimes f n (f e) else e

end Extent

inductive Direction
  | forward
  | backward
deriving DecidableEq

structure Arrow where
  range : ByteRange
  target : Nat
deriving DecidableEq

def mix (h : UInt64) (n : UInt64) : UInt64 := (h ^^^ n) * 0x100000001B3

def mixSeed : UInt64 := 0xCBF29CE484222325

/-- An automaton under construction with the latest state of each hash value, so that most states
that lead alike are added only once. -/
structure Sharing (α : Type) where
  extent : Extent
  known : Std.HashMap UInt64 (α × Nat)

def Sharing.known? {α : Type} [DecidableEq α] (s : Sharing α) (hash : UInt64) (key : α) :
    Option Nat :=
  (s.known[hash]?.filter fun entry => decide (entry.1 = key)).map Prod.snd

def Sharing.find {α : Type} [DecidableEq α] (s : Sharing α) (hash : UInt64) (key : α)
    (add : Extent → Extent) : Nat × Sharing α :=
  match s.known? hash key with
  | some state => (state, s)
  | none =>
    let state := s.extent.states
    (state, { extent := add s.extent, known := s.known.insert hash (key, state) })

/-- Sequences that begin alike, put together; only neighbours are compared. -/
def groupByFirst : List (List ByteRange) → List (ByteRange × List (List ByteRange))
  | [] => []
  | [] :: rest => groupByFirst rest
  | (r :: tail) :: rest =>
    match groupByFirst rest with
    | (r', tails) :: groups =>
      if r = r' then (r, tail :: tails) :: groups else (r, [tail]) :: (r', tails) :: groups
    | [] => [(r, [tail])]

def arrowsHash (arrows : List Arrow) : UInt64 :=
  arrows.foldl
    (fun h a => mix (mix (mix h a.range.first.toUInt64) a.range.last.toUInt64) (.ofNat a.target))
    mixSeed % 10000

/-- Adds the states that read any of the sequences and then come to the state `target`. `depth`
bounds the lengths of the sequences. -/
def shareForward (target : Nat) : Nat → List (List ByteRange) → Sharing (List Arrow) →
    Nat × Sharing (List Arrow)
  | 0, _, s => (target, s)
  | depth + 1, sequences, s =>
    if sequences.all List.isEmpty then (target, s)
    else
      let (arrows, s) := (groupByFirst sequences).foldl
        (fun (arrows, s) (r, tails) =>
          let (state, s) := shareForward target depth tails s
          (⟨r, state⟩ :: arrows, s))
        (([] : List Arrow), s)
      let arrows := arrows.reverse
      s.find (arrowsHash arrows) arrows (·.addBranching arrows.length)

def shareBackward (s : Sharing (Nat × ByteRange)) (target : Nat) (sequence : List ByteRange) :
    Sharing (Nat × ByteRange) :=
  (sequence.foldl
    (fun (target, s) r =>
      let hash := mix (mix (mix mixSeed (.ofNat target)) r.first.toUInt64) r.last.toUInt64 % 1000
      s.find hash (target, r) (·.addStates 1))
    (target, s)).2

def encodingsOf (s : CodeSet) : List (List ByteRange) :=
  s.ranges.flatMap fun r => encodings r.1 r.2

def isAscii (s : CodeSet) : Bool := s.ranges.all fun r => decide (r.2 < 0x80)

def extendBySet (d : Direction) (s : CodeSet) (e : Extent) : Extent :=
  if isAscii s then (e.addStates 1).addBranching s.ranges.length
  else match d with
    | .forward => (shareForward e.states 4 (encodingsOf s) ⟨e.addStates 1, ∅⟩).2.extent
    | .backward =>
      let sequences := encodingsOf s
      let shared := sequences.foldl (fun shared sequence => shareBackward shared (e.states + 1) sequence)
        ⟨e.addStates 2, ∅⟩
      shared.extent.addChoices sequences.length

def textBytes (text : List Char) : List UInt8 := text.flatMap String.utf8EncodeChar

/-- Cuts a list of words at the empty ones. An empty word is passed over where one came before it
and no other word. `cut` and `seen` tell whether an empty word and another have come. -/
def cutAtEmpty (cut seen : Bool) (part : List (List UInt8)) :
    List (List UInt8) → List (List (List UInt8))
  | [] => [part.reverse]
  | [] :: rest =>
    if cut && !seen then cutAtEmpty cut seen part rest
    else part.reverse :: cutAtEmpty true seen [] rest
  | word :: rest => cutAtEmpty cut true (word :: part) rest

def restsByFirst (words : List (List UInt8)) : List (List (List UInt8)) :=
  (words.filterMap List.head?).eraseDups.map fun b =>
    words.filterMap fun word => if word.head? = some b then some word.tail else none

/-- Adds the states that read any of the words, earlier words before later ones. `depth` exceeds
the lengths of the words. -/
def extendByWords : Nat → List (List UInt8) → Extent → Extent
  | 0, _, e => e
  | depth + 1, words, e =>
    let parts := (cutAtEmpty false false [] words).map restsByFirst
    let e := parts.foldl
      (fun e rests =>
        let e := rests.foldl
          (fun e rest => if rest.all List.isEmpty then e else extendByWords depth rest e) e
        match rests with
        | [] => e
        | [_] => e.addStates 1
        | _ => e.addBranching rests.length) e
    (e.addStates 1).addChoices ((parts.filter (!·.isEmpty)).length + (parts.length - 1))

def word? (d : Direction) : Regex → Option (List UInt8)
  | literal cs => some (match d with
    | .forward => textBytes cs
    | .backward => (textBytes cs).reverse)
  | _ => none

mutual

/-- Whether the automaton of an expression ends in a state with a choice, which takes one more
name to lead on from there. -/
def endsInChoice (d : Direction) : Regex → Bool
  | empty | literal _ | set _ _ | anchor _ | alt _ => false
  | seq rs => match d with
    | .forward => lastEndsInChoice d rs
    | .backward => firstEndsInChoice d rs
  | repeated least most _ r => match most with
    | none => decide (0 < least) || decide (0 < r.shortest?.getD 0)
    | some most => decide (least = most) && r.endsInChoice d
  | group _ r => decide (d = .backward) && r.endsInChoice d

def firstEndsInChoice (d : Direction) : List Regex → Bool
  | [] => false
  | r :: _ => r.endsInChoice d

def lastEndsInChoice (d : Direction) : List Regex → Bool
  | [] => false
  | [r] => r.endsInChoice d
  | _ :: rs => lastEndsInChoice d rs

end

def tail (d : Direction) (r : Regex) : Nat := (r.endsInChoice d).toNat

mutual

def extend (d : Direction) : Regex → Extent → Extent
  | empty, e | anchor _, e => e.addStates 1
  | literal cs, e => e.addStates (textBytes cs).length
  | set _ s, e => extendBySet d s e
  | seq rs, e =>
    let joints := match d with
      | .forward => rs.dropLast
      | .backward => rs.drop 1
    (extendInTurn d rs e).addChoices (joints.map (tail d)).sum
  | alt rs, e =>
    match rs.mapM (word? d) with
    | some words => extendByWords ((words.map List.length).foldl max 0 + 1) words (e.addStates 1)
    | none => (extendByAny d 1 rs e).addChoices (rs.map fun r => 1 + tail d r).sum
  | repeated least most _ r, e =>
    let copies (n : Nat) (e : Extent) : Extent :=
      (Extent.extendTimes (r.extend d) n e).addChoices (n * tail d r)
    match least, most with
    | 0, some 1 => ((r.extend d (e.addStates 1)).addStates 1).addChoices (2 + tail d r)
    | 0, none =>
      if 0 < r.shortest?.getD 0 then (r.extend d (e.addStates 1)).addChoices (1 + tail d r)
      else ((r.extend d e).addStates 3).addChoices (4 + tail d r)
    | least, none => ((copies least e).addStates 1).addChoices 1
    | least, some most =>
      if least = most then
        (Extent.extendTimes (r.extend d) least e).addChoices ((least - 1) * tail d r)
      else
        let e := if least = 0 then e.addStates 1 else copies least e
        (Extent.extendTimes (fun e => r.extend d (e.addStates 1)) (most - least)
          (e.addStates 1)).addChoices ((most - least) * (2 + tail d r))
  | group _ r, e =>
    match d with
    | .forward => ((r.extend d (e.addStates 1)).addStates 1).addChoices (tail d r)
    | .backward => r.extend d e

def extendInTurn (d : Direction) : List Regex → Extent → Extent
  | [], e => e
  | r :: rs, e => match d with
    | .forward => extendInTurn d rs (r.extend d e)
    | .backward => r.extend d (extendInTurn d rs e)

/-- Adds the states of alternatives, the first of which has the given number, and after the second
the state where they part and the one where they meet. -/
def extendByAny (d : Direction) : Nat → List Regex → Extent → Extent
  | _, [], e => e
  | n, r :: rs, e =>
    let e := r.extend d e
    extendByAny d (n + 1) rs (if n = 2 then e.addStates 2 else e)

end

mutual

def beginsAtStart : Regex → Bool
  | anchor .startOfText => true
  | empty | literal _ | set _ _ | anchor _ => false
  | seq rs => firstBeginsAtStart rs
  | alt rs => allBeginAtStart rs
  | repeated least _ _ r => decide (0 < least) && r.beginsAtStart
  | group _ r => r.beginsAtStart

def firstBeginsAtStart : List Regex → Bool
  | [] => false
  | r :: rs => r.beginsAtStart || (r.isEmptyOnly && firstBeginsAtStart rs)

def allBeginAtStart : List Regex → Bool
  | [] => true
  | r :: rs => r.beginsAtStart && allBeginAtStart rs

end

mutual

def stopsAtEnd : Regex → Bool
  | anchor .endOfText => true
  | empty | literal _ | set _ _ | anchor _ => false
  | seq rs => lastStopsAtEnd rs
  | alt rs => allStopAtEnd rs
  | repeated least _ _ r => decide (0 < least) && r.stopsAtEnd
  | group _ r => r.stopsAtEnd

def lastStopsAtEnd : List Regex → Bool
  | [] => false
  | r :: rs => lastStopsAtEnd rs || (areEmptyOnly rs && r.stopsAtEnd)

def allStopAtEnd : List Regex → Bool
  | [] => true
  | r :: rs => r.stopsAtEnd && allStopAtEnd rs

end

/-- The whole automaton: one that need not begin where the text does first passes over any bytes,
and a forward one marks where the match begins and ends. -/
def extent (d : Direction) (r : Regex) : Extent :=
  let anchored := match d with
    | .forward => r.beginsAtStart
    | .backward => r.stopsAtEnd
  let e : Extent := ⟨0, 0⟩
  let e := if anchored then e.addStates 1 else ((e.addStates 2).addBranching 1).addChoices 2
  let e := match d with
    | .forward => ((r.extend d (e.addStates 1)).addStates 2)
    | .backward => (r.extend d e).addStates 1
  e.addChoices (tail d r)

def isSmall (r : Regex) : Bool :=
  (r.extent .forward).isWithinLimit && (r.extent .backward).isWithinLimit

end TreeQuery.Regex
