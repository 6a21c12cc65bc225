import TreeQuery.Unicode.Version17

namespace TreeQuery.Text
open Unicode

/-- The sound marks of half width, which attach to the character before them and yet have a place
of their own. -/
def soundMarks : CodeSet := .range 0xFF9E 0xFF9F

def unseen : CodeSet :=
  (CodeSet.unions [Version17.other, CodeSet.surrogates, GeneralCategory.separator,
    Version17.graphemeExtend.difference soundMarks,
    Property.defaultIgnorableCodePoint]).difference (.range 0x20 0x20)

def isSeen (c : Char) : Bool :=
  (decide (0x20 ≤ c.toNat) && decide (c.toNat < 0x7F)) || !unseen.contains c.toNat

def escape (c : Char) : List Char :=
  if c = '"' ∨ c = '\\' then ['\\', c]
  else if c = '\n' then ['\\', 'n']
  else if c = '\r' then ['\\', 'r']
  else if c = '\t' then ['\\', 't']
  else if c = '\x00' then ['\\', '0']
  else if isSeen c then [c]
  else ['\\', 'u', '\x7b'] ++ Nat.toDigits 16 c.toNat ++ ['\x7d']

def quote (text : String) : String :=
  String.ofList ('"' :: text.toList.flatMap escape ++ ['"'])

end TreeQuery.Text
