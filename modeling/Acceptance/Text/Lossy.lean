/-!
# Lossy reading of UTF-8

Bytes are read as UTF-8 one at a time. The reader either stands between characters or holds the beginning of one; a
byte that cannot continue that beginning ends it, and each such maximal invalid part becomes one U+FFFD. Reading
never fails, and a byte below 0x80 always stands for itself, so newlines and carriage returns can be found in the
bytes as well as in the text.
-/

namespace Acceptance

/-- What an invalid part is read as. -/
def replacement : Char := '\uFFFD'

/-- The beginning of a character: how many bytes are missing, the range of the next one, and the bits so far. -/
structure Begun where
  missing : Nat
  low : UInt8
  high : UInt8
  bits : Nat

/-- The characters finished by a byte, and the beginning it leaves. -/
abbrev Reading := List Char × Option Begun

/-- Reads a byte that stands between characters. -/
def readFirst (b : UInt8) : Reading :=
  if b < 0x80 then ([Char.ofNat b.toNat], none)
  else if b < 0xC2 then ([replacement], none)
  else if b < 0xE0 then ([], some ⟨1, 0x80, 0xBF, b.toNat - 0xC0⟩)
  else if b < 0xF0 then
    ([], some ⟨2, if b = 0xE0 then 0xA0 else 0x80, if b = 0xED then 0x9F else 0xBF, b.toNat - 0xE0⟩)
  else if b < 0xF5 then
    ([], some ⟨3, if b = 0xF0 then 0x90 else 0x80, if b = 0xF4 then 0x8F else 0xBF, b.toNat - 0xF0⟩)
  else ([replacement], none)

def readByte : Option Begun → UInt8 → Reading
  | none, b => readFirst b
  | some g, b =>
    if g.low ≤ b ∧ b ≤ g.high then
      let bits := g.bits * 64 + (b.toNat - 0x80)
      if g.missing ≤ 1 then ([Char.ofNat bits], none) else ([], some ⟨g.missing - 1, 0x80, 0xBF, bits⟩)
    else (replacement :: (readFirst b).1, (readFirst b).2)

/-- Reads bytes from a given state of the reader; a character cut off by the end is invalid. -/
def readBytes : Option Begun → List UInt8 → List Char
  | none, [] => []
  | some _, [] => [replacement]
  | state, b :: bs => (readByte state b).1 ++ readBytes (readByte state b).2 bs

/-- The text of a list of bytes, one U+FFFD for each maximal invalid part. -/
def decode (bytes : List UInt8) : String := String.ofList (readBytes none bytes)

/-- The UTF-8 bytes of a text. -/
def encode (s : String) : List UInt8 := s.toList.flatMap String.utf8EncodeChar

end Acceptance
