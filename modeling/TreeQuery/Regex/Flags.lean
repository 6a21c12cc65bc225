import TreeQuery.Text.Blank
import TreeQuery.Unicode.CaseFolding

namespace TreeQuery.Regex
open Unicode

structure Flags where
  ignoreCase : Bool := false
  multiLine : Bool := false
  dotAll : Bool := false
  ignoreLayout : Bool := false
  carriageReturns : Bool := false
  unicode : Bool := true
  preferShort : Bool := false
deriving Repr, DecidableEq

def Flags.change? (flags : Flags) (letter : Char) (on : Bool) : Option Flags :=
  match letter with
  | 'i' => some { flags with ignoreCase := on }
  | 'm' => some { flags with multiLine := on }
  | 's' => some { flags with dotAll := on }
  | 'x' => some { flags with ignoreLayout := on }
  | 'R' => some { flags with carriageReturns := on }
  | 'u' => some { flags with unicode := on }
  | 'U' => some { flags with preferShort := on }
  | _ => none

/-- The set with what differs from its members in case only, if case is ignored. Where Unicode is
off, only ASCII letters have a case. -/
def Flags.fold (flags : Flags) (s : CodeSet) : CodeSet :=
  let ascii := CodeSet.range 0 0x7F
  if !flags.ignoreCase then s
  else if flags.unicode then CaseFolding.close s
  else s.union ((CaseFolding.close (s.inter ascii)).inter ascii)

/-- The set, or what it leaves out. Where Unicode is off that would be bytes, some of which are
parts of characters, so it is refused. -/
def Flags.negate? (flags : Flags) (negated : Bool) (s : CodeSet) : Option CodeSet :=
  if !negated then some s
  else if flags.unicode then some s.complement
  else none

def dropLayout (inComment : Bool) : List Char → List Char
  | [] => []
  | c :: rest =>
    if inComment then dropLayout (c != '\n') rest
    else if isBlank c then dropLayout false rest
    else if c = '#' then dropLayout true rest
    else c :: rest

def Flags.skip (flags : Flags) (cs : List Char) : List Char :=
  if flags.ignoreLayout then dropLayout false cs else cs

end TreeQuery.Regex
