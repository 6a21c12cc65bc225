namespace TreeQuery.Text

structure ByteRange where
  first : UInt8
  last : UInt8
deriving Repr, DecidableEq

/-- The code points with encodings of one length, those kept for other encodings left out. -/
def encodingZones : List (Nat × Nat) :=
  [(0, 0x7F), (0x80, 0x7FF), (0x800, 0xD7FF), (0xE000, 0xFFFF), (0x10000, 0x10FFFF)]

def encodingSpans : List Nat := [0x40, 0x1000, 0x40000]

/-- Cuts a range into parts whose encodings are sequences of byte ranges: where the first and the
last of a part differ in a byte, the bytes after it run through all their values. -/
def cutAtSpans : List Nat → Nat → Nat → List (Nat × Nat)
  | [], lo, hi => [(lo, hi)]
  | span :: spans, lo, hi =>
    if lo / span = hi / span then [(lo, hi)]
    else
      let start := (lo + span - 1) / span * span
      let stop := (hi + 1) / span * span
      (if lo < start then [(lo, start - 1)] else []) ++
        (if start < stop then cutAtSpans spans start (stop - 1) else []) ++
        (if stop ≤ hi then [(stop, hi)] else [])

def encodeCode (code : Nat) : List UInt8 := String.utf8EncodeChar (Char.ofNat code)

def encodings (lo hi : Nat) : List (List ByteRange) :=
  let parts := encodingZones.flatMap fun (zoneLo, zoneHi) =>
    let lo := max lo zoneLo
    let hi := min hi zoneHi
    if hi < lo then [] else if hi < 0x80 then [(lo, hi)] else cutAtSpans encodingSpans lo hi
  parts.map fun (lo, hi) => (encodeCode lo).zipWith ByteRange.mk (encodeCode hi)

end TreeQuery.Text
