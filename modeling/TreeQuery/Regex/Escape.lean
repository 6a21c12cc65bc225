import TreeQuery.Regex.Basic
import TreeQuery.Regex.Class
import TreeQuery.Regex.Flags

namespace TreeQuery.Regex
open Unicode

inductive Escape
  | literal (c : Char)
  | characters (s : CodeSet)
  | anchor (a : Anchor)

def charOfCode? (n : Nat) : Option Char :=
  if n.isValidChar then some (Char.ofNat n) else none

def hexValue? (c : Char) : Option Nat :=
  if '0' ≤ c ∧ c ≤ '9' then some (c.toNat - '0'.toNat)
  else if 'a' ≤ c ∧ c ≤ 'f' then some (c.toNat - 'a'.toNat + 10)
  else if 'A' ≤ c ∧ c ≤ 'F' then some (c.toNat - 'A'.toNat + 10)
  else none

def readHexDigits (flags : Flags) : Nat → Nat → List Char → Option (Nat × List Char)
  | 0, n, cs => some (n, cs)
  | count + 1, n, cs =>
    match cs with
    | [] => none
    | c :: rest => do readHexDigits flags count (16 * n + (← hexValue? c)) (flags.skip rest)

def readHexBraced (flags : Flags) : Nat → Option Nat → List Char → Option (Nat × List Char)
  | 0, _, _ => none
  | fuel + 1, n, cs =>
    match cs with
    | [] => none
    | c :: rest =>
      if c = '\x7d' then n.map (·, flags.skip rest)
      else do readHexBraced flags fuel (some (16 * n.getD 0 + (← hexValue? c))) (flags.skip rest)

def readHex (flags : Flags) (digits : Nat) (cs : List Char) : Option (Char × List Char) := do
  let cs := flags.skip cs
  match cs with
  | [] => none
  | c :: rest =>
    if c = '\x7b' then
      let (n, rest) ← readHexBraced flags (rest.length + 1) none (flags.skip rest)
      return (← charOfCode? n, rest)
    else
      let (n, rest) ← readHexDigits flags digits 0 cs
      if digits = 2 ∧ 0x80 ≤ n ∧ !flags.unicode then none
      else return (← charOfCode? n, rest)

def readBraced (flags : Flags) : Nat → List Char → Option (List Char × List Char)
  | 0, _ => none
  | fuel + 1, cs =>
    match cs with
    | [] => none
    | c :: rest =>
      if c = '\x7d' then some ([], rest)
      else (readBraced flags fuel (flags.skip rest)).map fun p => (c :: p.1, p.2)

def readQuery (flags : Flags) (cs : List Char) : Option ((CodeSet × Bool) × List Char) :=
  match flags.skip cs with
  | [] => none
  | c :: rest =>
    if c = '\x7b' then
      (readBraced flags (rest.length + 1) (flags.skip rest)).bind fun (name, rest) =>
        (propertyQuery? name).map (·, rest)
    else if c = '\\' then none
    else (propertyNamed? [c]).map fun s => ((s, false), flags.skip rest)

def readProperty (flags : Flags) (negated : Bool) (cs : List Char) :
    Option (Escape × List Char) := do
  let ((s, different), rest) ← readQuery flags cs
  if flags.unicode then
    return (.characters (← flags.negate? (negated != different) (flags.fold s)), rest)
  else none

def isBoundaryLetter (c : Char) : Bool :=
  ('A' ≤ c && c ≤ 'Z') || ('a' ≤ c && c ≤ 'z') || c == '-'

def readBoundaryName (flags : Flags) : Nat → List Char → List Char × List Char
  | 0, cs => ([], cs)
  | fuel + 1, cs =>
    match cs with
    | [] => ([], [])
    | c :: rest =>
      if isBoundaryLetter c then
        let p := readBoundaryName flags fuel (flags.skip rest)
        (c :: p.1, p.2)
      else ([], cs)

/-- What follows `\b`: a named boundary in braces, or nothing, when a brace begins a repetition. -/
def readBoundary (flags : Flags) (cs : List Char) : Option (Escape × List Char) :=
  let ascii := !flags.unicode
  let plain := some (Escape.anchor (.wordBoundary ascii), cs)
  match cs with
  | '\x7b' :: rest =>
    match flags.skip rest with
    | [] => none
    | c :: rest =>
      if isBoundaryLetter c then
        match readBoundaryName flags (rest.length + 2) (c :: rest) with
        | (name, '\x7d' :: rest) =>
          match String.ofList name with
          | "start" => some (.anchor (.wordStart ascii), rest)
          | "end" => some (.anchor (.wordEnd ascii), rest)
          | "start-half" => some (.anchor (.wordStartHalf ascii), rest)
          | "end-half" => some (.anchor (.wordEndHalf ascii), rest)
          | _ => none
        | _ => none
      else plain
  | _ => plain

/-- Any ASCII character may be escaped but letters and digits, which are kept for escapes with a
meaning, and angle brackets, which have one. -/
def isEscapable (c : Char) : Bool := decide (c.toNat < 0x80) && !c.isAlphanum && c != '<' && c != '>'

def readEscape (flags : Flags) : List Char → Option (Escape × List Char)
  | [] => none
  | c :: rest =>
    let ascii := !flags.unicode
    if isEscapable c then some (.literal c, rest)
    else match c with
      | 'x' => do let (c, rest) ← readHex flags 2 rest; return (.literal c, rest)
      | 'u' => do let (c, rest) ← readHex flags 4 rest; return (.literal c, rest)
      | 'U' => do let (c, rest) ← readHex flags 8 rest; return (.literal c, rest)
      | 'p' => readProperty flags false rest
      | 'P' => readProperty flags true rest
      | 'd' | 's' | 'w' => (classOfLetter? flags.unicode c).map fun s => (.characters s, rest)
      | 'D' | 'S' | 'W' => do
        let s ← classOfLetter? flags.unicode c.toLower
        return (.characters (← flags.negate? true s), rest)
      | 'a' => some (.literal '\x07', rest)
      | 'f' => some (.literal '\x0c', rest)
      | 't' => some (.literal '\t', rest)
      | 'n' => some (.literal '\n', rest)
      | 'r' => some (.literal '\r', rest)
      | 'v' => some (.literal '\x0b', rest)
      | 'A' => some (.anchor .startOfText, rest)
      | 'z' => some (.anchor .endOfText, rest)
      | 'b' => readBoundary flags rest
      | 'B' => some (.anchor (.noWordBoundary ascii), rest)
      | '<' => some (.anchor (.wordStart ascii), rest)
      | '>' => some (.anchor (.wordEnd ascii), rest)
      | _ => none

end TreeQuery.Regex
