namespace TreeQuery.Text

/-- What the first byte of a longer character asks of the rest: how many more bytes, and the
bounds of the next one. -/
def continuation? (first : UInt8) : Option (Nat × UInt8 × UInt8) :=
  if 0xC2 ≤ first ∧ first ≤ 0xDF then some (1, 0x80, 0xBF)
  else if first = 0xE0 then some (2, 0xA0, 0xBF)
  else if first = 0xED then some (2, 0x80, 0x9F)
  else if 0xE1 ≤ first ∧ first ≤ 0xEF then some (2, 0x80, 0xBF)
  else if first = 0xF0 then some (3, 0x90, 0xBF)
  else if 0xF1 ≤ first ∧ first ≤ 0xF3 then some (3, 0x80, 0xBF)
  else if first = 0xF4 then some (3, 0x80, 0x8F)
  else none

def replacement : Char := '\ufffd'

/-- Decodes bytes; `pending` holds the code so far, how many bytes are missing and the bounds of
the next one, when the bytes before these began a character. -/
def decodeLossy (pending : Option (Nat × Nat × UInt8 × UInt8)) : List UInt8 → List Char
  | [] => if pending.isSome then [replacement] else []
  | b :: rest =>
    let start (rest' : Option (Nat × Nat × UInt8 × UInt8) → List Char) : List Char :=
      if b < 0x80 then Char.ofNat b.toNat :: rest' none
      else match continuation? b with
        | some (missing, lo, hi) =>
          rest' (some (b.toNat % (if missing = 1 then 32 else if missing = 2 then 16 else 8),
            missing, lo, hi))
        | none => replacement :: rest' none
    match pending with
    | some (code, missing, lo, hi) =>
      if lo ≤ b ∧ b ≤ hi then
        let code := 64 * code + (b.toNat - 0x80)
        if missing = 1 then Char.ofNat code :: decodeLossy none rest
        else decodeLossy (some (code, missing - 1, 0x80, 0xBF)) rest
      else replacement :: start fun next => decodeLossy next rest
    | none => start fun next => decodeLossy next rest

/-- The readable text of any bytes. Each longest beginning of a character that breaks off, and each
byte that begins none, shows as one replacement character. -/
def ofBytesLossy (bytes : List UInt8) : String := String.ofList (decodeLossy none bytes)

def ofBytes? (bytes : List UInt8) : Option String := String.fromUTF8? ⟨bytes.toArray⟩

def toBytes (text : String) : List UInt8 := text.toUTF8.data.toList

end TreeQuery.Text
