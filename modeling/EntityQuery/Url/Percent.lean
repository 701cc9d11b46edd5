import EntityQuery.Text.Quoted
import EntityQuery.Text.Encoding

/-!
# Percent encoding

Characters that a part of a URL does not hold are written as the bytes of their UTF-8 form, each
after a percent sign. Decoding leaves everything else as it is.
-/

namespace EntityQuery.Url

open Text

/-- The characters that are never encoded. -/
def isUnreserved (c : Char) : Bool := c.isAlphanum || c == '_' || c == '.' || c == '-' || c == '~'

/-- A digit of a byte. -/
def hexDigit (n : Nat) : Char := if n < 10 then Char.ofNat (48 + n) else Char.ofNat (55 + n)

/-- A byte after a percent sign. -/
def encodeByte (b : UInt8) : List Char := ['%', hexDigit (b.toNat / 16), hexDigit (b.toNat % 16)]

/-- One character, where the characters of `keep` stay as they are. -/
def encodeChar (keep : Char → Bool) (c : Char) : List Char :=
  if isUnreserved c || keep c then [c] else (String.utf8EncodeChar c).flatMap encodeByte

/-- A text with everything encoded but unreserved characters and those of `keep`. -/
def encode (keep : Char → Bool) (s : String) : String :=
  String.ofList (s.toList.flatMap (encodeChar keep))

/-- Text, and the bytes of a run of characters below 128 that stand before it. -/
def flush (bytes : List UInt8) (rest : List Char) : List Char := ofUtf8 bytes.reverse ++ rest

/-- Decodes a text; `bytes` holds the bytes of the run of characters below 128 read so far, last
first. -/
def decodeChars (bytes : List UInt8) : List Char → List Char
  | [] => flush bytes []
  | '%' :: a :: b :: r =>
    match hexDigit? a, hexDigit? b with
    | some x, some y => decodeChars (UInt8.ofNat (16 * x + y) :: bytes) r
    | _, _ => decodeChars (37 :: bytes) (a :: b :: r)
  | c :: r =>
    if c.toNat < 0x80 then decodeChars (UInt8.ofNat c.toNat :: bytes) r
    else flush bytes (c :: decodeChars [] r)

/-- The text that an encoded text stands for. -/
def decode (s : String) : String := String.ofList (decodeChars [] s.toList)

end EntityQuery.Url
