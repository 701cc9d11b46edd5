/-!
# Encodings

Text as bytes of UTF-8 and back. Bytes that are no text become the replacement character, one for
each longest start of a character that is cut short and one for each byte that starts none. Beside
it the one-byte encoding of Windows, which has further characters where Latin-1 has control
characters.
-/

namespace EntityQuery.Text

/-- The bytes of a text. -/
def utf8 (cs : List Char) : List UInt8 := cs.flatMap String.utf8EncodeChar

/-- The character that stands for bytes that are no text. -/
def replacement : Char := Char.ofNat 0xFFFD

/-- How many bytes follow a first byte, the bits that it gives, and the range of the second byte. -/
def leadByte? (b : Nat) : Option (Nat × Nat × Nat × Nat) :=
  if 0xC2 ≤ b ∧ b ≤ 0xDF then some (1, b - 0xC0, 0x80, 0xBF)
  else if b = 0xE0 then some (2, 0, 0xA0, 0xBF)
  else if b = 0xED then some (2, 0xD, 0x80, 0x9F)
  else if 0xE1 ≤ b ∧ b ≤ 0xEF then some (2, b - 0xE0, 0x80, 0xBF)
  else if b = 0xF0 then some (3, 0, 0x90, 0xBF)
  else if 0xF1 ≤ b ∧ b ≤ 0xF3 then some (3, b - 0xF0, 0x80, 0xBF)
  else if b = 0xF4 then some (3, 4, 0x80, 0x8F)
  else none

/-- Reads the bytes that follow a first one: the number of bytes read, and the character unless
it is cut short. -/
def trailBytes : (count bits low high : Nat) → List UInt8 → Nat × Option Char
  | 0, bits, _, _, _ => (0, some (Char.ofNat bits))
  | _ + 1, _, _, _, [] => (0, none)
  | count + 1, bits, low, high, b :: r =>
    if low ≤ b.toNat ∧ b.toNat ≤ high then
      let (n, c) := trailBytes count (bits * 64 + (b.toNat - 0x80)) 0x80 0xBF r
      (n + 1, c)
    else (0, none)

/-- The text of bytes; each step consumes at least one byte. -/
def ofUtf8 : List UInt8 → List Char
  | [] => []
  | b :: r =>
    if b < 0x80 then Char.ofNat b.toNat :: ofUtf8 r
    else
      match leadByte? b.toNat with
      | none => replacement :: ofUtf8 r
      | some (count, bits, low, high) =>
        let (n, c) := trailBytes count bits low high r
        c.getD replacement :: ofUtf8 (r.drop n)
termination_by bs => bs.length
decreasing_by all_goals (simp only [List.length_cons, List.length_drop]; omega)

/-- The number of bytes of a text. -/
def byteLength (s : String) : Nat := (utf8 s.toList).length

/-- The characters that Windows puts between the ASCII and the Latin ones. -/
def windowsCharacters : List (Nat × Char) := [
  (0x80, '€'), (0x82, '‚'), (0x83, 'ƒ'), (0x84, '„'), (0x85, '…'), (0x86, '†'), (0x87, '‡'),
  (0x88, 'ˆ'), (0x89, '‰'), (0x8A, 'Š'), (0x8B, '‹'), (0x8C, 'Œ'), (0x8E, 'Ž'), (0x91, '‘'),
  (0x92, '’'), (0x93, '“'), (0x94, '”'), (0x95, '•'), (0x96, '–'), (0x97, '—'), (0x98, '˜'),
  (0x99, '™'), (0x9A, 'š'), (0x9B, '›'), (0x9C, 'œ'), (0x9E, 'ž'), (0x9F, 'Ÿ')]

/-- The character of a byte, where there is one. -/
def windowsCharacter? (byte : Nat) : Option Char :=
  match windowsCharacters.lookup byte with
  | some c => some c
  | none => if byte < 0x80 ∨ (0xA0 ≤ byte ∧ byte < 0x100) then some (Char.ofNat byte) else none

end EntityQuery.Text
