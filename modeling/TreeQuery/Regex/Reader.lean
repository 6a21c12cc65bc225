import TreeQuery.Number.Integer
import TreeQuery.Regex.Automaton
import TreeQuery.Regex.Bracket
import TreeQuery.Unicode.Version17

namespace TreeQuery.Regex
open Unicode

inductive Item
  | piece (r : Regex) (height : Nat)
  | directive

/-- A group whose end has not been read, with its number if it has one. `items` and `branches` are
in reverse. -/
structure Level where
  flags : Flags
  number : Option Nat := none
  items : List Item := []
  branches : List (Regex × Nat) := []

def Item.regex : Item → Regex
  | .piece r _ => r
  | .directive => .empty

def Item.height : Item → Nat
  | .piece _ h => h
  | .directive => 0

/-- Items, in reverse, one after the other. Only several of them are a construct. -/
def sequence : List Item → Regex × Nat
  | [] => (.empty, 0)
  | [item] => (item.regex, item.height)
  | items => (inTurn (items.reverse.map Item.regex), (items.map Item.height).foldl max 0 + 1)

def alternatives : List (Regex × Nat) → Regex × Nat
  | [] => (.empty, 0)
  | [branch] => branch
  | branches =>
    (anyOf (branches.reverse.map Prod.fst), (branches.map Prod.snd).foldl max 0 + 1)

def Level.content (level : Level) : Regex × Nat :=
  alternatives (sequence level.items :: level.branches)

def Level.close (level : Level) : Regex × Nat :=
  let (r, height) := level.content
  ((level.number.map fun n => group n r).getD r, height + 1)

def Level.push (level : Level) (r : Regex) (height : Nat := 0) : Level :=
  { level with items := .piece r height :: level.items }

/-- Repeats the last element, if it is one that can be repeated. The mark for short matches turns
the flag for them around. -/
def Level.repeat? (level : Level) (least : Nat) (most : Option Nat) (marked : Bool) :
    Option Level :=
  match level.items with
  | .piece r height :: items =>
    let r := times least most (marked == level.flags.preferShort) r
    some { level with items := .piece r (height + 1) :: items }
  | _ => none

def readDecimal (flags : Flags) : Nat → Option Nat → List Char → Option (Nat × List Char)
  | 0, _, _ => none
  | fuel + 1, n, cs =>
    match cs with
    | [] => none
    | c :: rest =>
      if c.isDigit then
        readDecimal flags fuel (some (10 * n.getD 0 + (c.toNat - '0'.toNat))) (flags.skip rest)
      else n.bind fun n =>
        if n ≤ Integer.maxCount then some (n, flags.skip (cs.dropWhile isBlank)) else none

def readCount (flags : Flags) (cs : List Char) : Option (Nat × List Char) :=
  let cs := cs.dropWhile isBlank
  readDecimal flags (cs.length + 1) none cs

def readCounts (flags : Flags) (cs : List Char) : Option (Nat × Option Nat × List Char) := do
  let (least, rest) ← readCount flags (flags.skip cs)
  let (most, rest) ← match rest with
    | ',' :: rest =>
      match flags.skip rest with
      | '\x7d' :: rest => some (none, '\x7d' :: rest)
      | rest => (readCount flags rest).map fun p => (some p.1, p.2)
    | _ => some (some least, rest)
  match rest with
  | '\x7d' :: rest =>
    if most.all fun m => decide (least ≤ m) then some (least, most, flags.skip rest) else none
  | _ => none

def readShortMark : List Char → Bool × List Char
  | '?' :: rest => (true, rest)
  | cs => (false, cs)

def readFlags (negated dangling : Bool) (seen : List Char) (flags : Flags) :
    List Char → Option (Flags × Bool × List Char)
  | [] => none
  | c :: rest =>
    if c = ':' then if dangling then none else some (flags, true, rest)
    else if c = ')' then
      if dangling || (seen.isEmpty && !negated) then none else some (flags, false, rest)
    else if c = '-' then
      if negated then none else readFlags true true seen flags rest
    else if seen.contains c then none
    else match flags.change? c (!negated) with
      | some flags => readFlags negated false (c :: seen) flags rest
      | none => none

def isNameStart (c : Char) : Bool := c == '_' || Version17.alphabetic.contains c.toNat

def isNameChar (c : Char) : Bool :=
  isNameStart c || c == '.' || c == '[' || c == ']' || Version17.number.contains c.toNat

def readGroupName (cs : List Char) : Option (List Char × List Char) :=
  let name := cs.takeWhile (· != '>')
  match cs.drop name.length, name with
  | '>' :: rest, first :: others =>
    if isNameStart first && others.all isNameChar then some (name, rest) else none
  | _, _ => none

/-- What the reader has put aside and seen so far; `groups` is the number of groups. -/
structure Progress where
  level : Level
  outer : List Level := []
  names : List (List Char) := []
  groups : Nat := 0

def Progress.openPlain (p : Progress) (flags : Flags) : Progress :=
  { p with level := { flags }, outer := p.level :: p.outer }

def Progress.openNumbered (p : Progress) : Progress :=
  let number := p.groups + 1
  let level : Level := { flags := p.level.flags, number := some number }
  { p with level, outer := p.level :: p.outer, groups := number }

def readOpening (p : Progress) (cs : List Char) : Option (Progress × List Char) :=
  let flags := p.level.flags
  let named (rest : List Char) : Option (Progress × List Char) := do
    let (name, rest) ← readGroupName rest
    if p.names.contains name then none
    else return ({ p.openNumbered with names := name :: p.names }, rest)
  match flags.skip cs with
  | '?' :: 'P' :: '<' :: rest => named rest
  | '?' :: '<' :: rest => named rest
  | '?' :: rest => do
    let (changed, opens, rest) ← readFlags false false [] flags rest
    if opens then return (p.openPlain changed, rest)
    else
      let level := { p.level with flags := changed, items := .directive :: p.level.items }
      return ({ p with level }, rest)
  | rest => some (p.openNumbered, rest)

def Flags.set (flags : Flags) (s : CodeSet) : Regex := ofSet (!flags.unicode) s

def Flags.literal (flags : Flags) (c : Char) : Regex :=
  if flags.ignoreCase then flags.set (flags.fold (CodeSet.range c.toNat c.toNat))
  else Regex.literal [c]

def Flags.dot? (flags : Flags) : Option Regex :=
  if !flags.unicode then none
  else if flags.dotAll then some (flags.set .all)
  else if flags.carriageReturns then some (flags.set (CodeSet.ofText ["A", "D"]).complement)
  else some (flags.set (CodeSet.range 0xA 0xA).complement)

def Flags.lineStart (flags : Flags) : Anchor :=
  if flags.multiLine then .startOfLine flags.carriageReturns else .startOfText

def Flags.lineEnd (flags : Flags) : Anchor :=
  if flags.multiLine then .endOfLine flags.carriageReturns else .endOfText

def Flags.escaped (flags : Flags) : Escape → Regex
  | .literal c => flags.literal c
  | .characters s => flags.set s
  | .anchor a => .anchor a

/-- Reads the rest of an expression, one construct at a time; `fuel` exceeds the number of
characters. -/
def readRest : Nat → Progress → List Char → Option (Regex × Nat)
  | 0, _, _ => none
  | fuel + 1, p, cs =>
    let level := p.level
    let flags := level.flags
    let continueWith (level : Level) (rest : List Char) := readRest fuel { p with level } rest
    let repeated (least : Nat) (most : Option Nat) (rest : List Char) := do
      let (marked, rest) := readShortMark rest
      continueWith (← level.repeat? least most marked) rest
    match flags.skip cs with
    | [] => if p.outer.isEmpty then some level.content else none
    | '(' :: rest => do
      let (p, rest) ← readOpening p rest
      readRest fuel p rest
    | ')' :: rest =>
      match p.outer with
      | [] => none
      | parent :: outer =>
        let (r, height) := level.close
        readRest fuel { p with level := parent.push r height, outer } rest
    | '|' :: rest =>
      continueWith { level with items := [], branches := sequence level.items :: level.branches } rest
    | '[' :: rest => do
      let (s, rest) ← readBracketed flags fuel rest
      continueWith (level.push (flags.set s.set) s.height) rest
    | '?' :: rest => repeated 0 (some 1) rest
    | '*' :: rest => repeated 0 none rest
    | '+' :: rest => repeated 1 none rest
    | '\x7b' :: rest => do
      let (least, most, rest) ← readCounts flags rest
      repeated least most rest
    | '\\' :: rest => do
      let (escape, rest) ← readEscape flags rest
      continueWith (level.push (flags.escaped escape)) rest
    | '.' :: rest => do continueWith (level.push (← flags.dot?)) rest
    | '^' :: rest => continueWith (level.push (.anchor flags.lineStart)) rest
    | '$' :: rest => continueWith (level.push (.anchor flags.lineEnd)) rest
    | c :: rest => continueWith (level.push (flags.literal c)) rest

def heightLimit : Nat := 250

/-- The expression of a text. A text is refused where it is malformed, where it can match part of a
character, where it nests too deeply, and where its automata would be too large. -/
def read? (flags : Flags) (text : String) : Option Regex := do
  let cs := text.toList
  let (r, height) ← readRest (cs.length + 1) { level := { flags } } cs
  if height ≤ heightLimit ∧ r.isSmall then some r else none

end TreeQuery.Regex
