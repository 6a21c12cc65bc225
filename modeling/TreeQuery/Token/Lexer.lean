import TreeQuery.Text.Blank
import TreeQuery.Token.Basic

namespace TreeQuery.Token

def isDelimiter (c : Char) : Bool :=
  c == '/' || c == '(' || c == ')' || c == '?' || isBlank c

/-- Reads a bare word; a backslash makes the next character part of it. A backslash at the end is
reported by the number of characters before it. -/
def readWord (before : Nat) : List Char → Except Nat (List Char × List Char)
  | [] => .ok ([], [])
  | ['\\'] => .error before
  | '\\' :: c :: rest => do
    let (letters, rest) ← readWord (before + 2) rest
    return (c :: letters, rest)
  | c :: rest =>
    if isDelimiter c then .ok ([], c :: rest)
    else do
      let (letters, rest) ← readWord (before + 1) rest
      return (c :: letters, rest)

/-- What a backslash and a character stand for in a quoted literal; where they stand for nothing
else they stay as written. -/
def unescape (c : Char) : List Char :=
  if c = 'n' then ['\n']
  else if c = 't' then ['\t']
  else if c = 'r' then ['\r']
  else if c = '"' ∨ c = '\\' then [c]
  else ['\\', c]

def readQuoted : List Char → Option (List Char × List Char)
  | [] => none
  | '"' :: rest => some ([], rest)
  | ['\\'] => none
  | '\\' :: c :: rest => (readQuoted rest).map fun p => (unescape c ++ p.1, p.2)
  | c :: rest => (readQuoted rest).map fun p => (c :: p.1, p.2)

/-- Reads a verbatim literal from after its opening mark, in which a mark is written twice; `none`
if it does not end. -/
def readVerbatim : List Char → Option (List Char × List Char)
  | [] => none
  | '"' :: '"' :: rest => (readVerbatim rest).map fun p => ('"' :: p.1, p.2)
  | '"' :: rest => some ([], rest)
  | c :: rest => (readVerbatim rest).map fun p => (c :: p.1, p.2)

def literalAt (start : Position) : Option (List Char × List Char) →
    Except LexError (Token × List Char)
  | some (text, rest) => .ok (.literal (String.ofList text), rest)
  | none => .error (.unterminatedLiteral start)

def read (start : Position) (cs : List Char) : Except LexError (Token × List Char) :=
  match cs with
  | [] => .ok (.eof, [])
  | '/' :: rest => .ok (.slash, rest)
  | '(' :: rest => .ok (.openParen, rest)
  | ')' :: rest => .ok (.closeParen, rest)
  | '?' :: rest => .ok (.suffix (String.ofList (Text.trim rest)), [])
  | '@' :: '"' :: rest => literalAt start (readVerbatim rest)
  | '@' :: rest => .ok (.sentinel, rest)
  | '"' :: rest => literalAt start (readQuoted rest)
  | cs =>
    match readWord 0 cs with
    | .ok (letters, rest) => .ok (.word (String.ofList letters) (cs.head? == some '\\'), rest)
    | .error before => .error (.danglingEscape (start.after (cs.take before)))

def readAll : Nat → Position → List Char → List Lexeme × Option LexError
  | 0, _, _ => ([], none)
  | fuel + 1, p, cs =>
    let start := p.after (cs.takeWhile isBlank)
    let cs := cs.dropWhile isBlank
    match read start cs with
    | .error e => ([], some e)
    | .ok (token, rest) =>
      if cs.isEmpty then ([⟨token, start⟩], none)
      else
        let more := readAll fuel (start.after (cs.take (cs.length - rest.length))) rest
        (⟨token, start⟩ :: more.1, more.2)

def tokenize (text : String) : List Lexeme × Option LexError :=
  readAll (text.toList.length + 1) {} text.toList

end TreeQuery.Token
