import EntityQuery.Url.Percent
import Mathlib.Tactic.SplitIfs

/-!
# Percent encoding can be undone

The bytes of a text read back as the text (`ofUtf8_utf8`), whatever characters it holds: the first
byte of a character tells how many follow, and none of the bounds on the second byte excludes a
character. Escapes read back as the bytes that they stand for, so decoding undoes encoding as long
as the characters left readable stand for themselves (`decode_encode`).
-/

namespace EntityQuery

namespace Text

theorem trailBytes_cons {count bits low high : Nat} {b : UInt8} {r : List UInt8}
    (h : low ≤ b.toNat ∧ b.toNat ≤ high) :
    trailBytes (count + 1) bits low high (b :: r) =
      ((trailBytes count (bits * 64 + (b.toNat - 0x80)) 0x80 0xBF r).1 + 1,
        (trailBytes count (bits * 64 + (b.toNat - 0x80)) 0x80 0xBF r).2) := by
  rw [trailBytes, if_pos h]

theorem ofUtf8_of_lead {b : UInt8} {r : List UInt8} {count bits low high : Nat}
    (hb : 0x80 ≤ b.toNat) (h : leadByte? b.toNat = some (count, bits, low, high)) :
    ofUtf8 (b :: r) = (trailBytes count bits low high r).2.getD replacement
      :: ofUtf8 (r.drop (trailBytes count bits low high r).1) := by
  have hlt : ¬b < 0x80 := by
    rw [UInt8.lt_iff_toNat_lt]
    exact Nat.not_lt.2 hb
  rw [ofUtf8, if_neg hlt, h]

theorem leadByte?_two {n : Nat} (h : 0x80 ≤ n) (h' : n < 0x800) :
    leadByte? (n / 64 + 0xC0) = some (1, n / 64, 0x80, 0xBF) := by
  rw [leadByte?, if_pos (by omega), Nat.add_sub_cancel]

/-- The bounds on the second byte of three keep out surrogates and longer forms of characters that
two bytes hold, and nothing else. -/
theorem exists_leadByte?_three {n : Nat} (h : 0x800 ≤ n) (h' : n < 0x10000)
    (hs : n < 0xD800 ∨ 0xDFFF < n) : ∃ low high, leadByte? (n / 4096 + 0xE0) =
      some (2, n / 4096, low, high) ∧ low ≤ n / 64 % 64 + 0x80 ∧ n / 64 % 64 + 0x80 ≤ high := by
  unfold leadByte?
  rw [if_neg (by omega)]
  split_ifs with h1 h2 h3
  · exact ⟨_, _, by rw [show n / 4096 = 0 by omega], by omega, by omega⟩
  · exact ⟨_, _, by rw [show n / 4096 = 0xD by omega], by omega, by omega⟩
  · exact ⟨_, _, by rw [Nat.add_sub_cancel], by omega, by omega⟩
  all_goals omega

theorem exists_leadByte?_four {n : Nat} (h : 0x10000 ≤ n) (h' : n < 0x110000) :
    ∃ low high, leadByte? (n / 262144 + 0xF0) = some (3, n / 262144, low, high) ∧
      low ≤ n / 4096 % 64 + 0x80 ∧ n / 4096 % 64 + 0x80 ≤ high := by
  unfold leadByte?
  rw [if_neg (by omega), if_neg (by omega), if_neg (by omega), if_neg (by omega)]
  split_ifs with h1 h2 h3
  · exact ⟨_, _, by rw [show n / 262144 = 0 by omega], by omega, by omega⟩
  · exact ⟨_, _, by rw [Nat.add_sub_cancel], by omega, by omega⟩
  · exact ⟨_, _, by rw [show n / 262144 = 4 by omega], by omega, by omega⟩
  omega

theorem utf8EncodeChar_of_lt {c : Char} (h : c.toNat < 0x80) :
    String.utf8EncodeChar c = [UInt8.ofNat c.toNat] := by
  rw [String.utf8EncodeChar]
  exact if_pos (Nat.le_of_lt_succ h)

/-- The bytes of a character read back as the character. -/
theorem ofUtf8_utf8EncodeChar_append (c : Char) (r : List UInt8) :
    ofUtf8 (String.utf8EncodeChar c ++ r) = c :: ofUtf8 r := by
  obtain ⟨n, hn⟩ : ∃ n, n = c.toNat := ⟨_, rfl⟩
  have hvalid : n < 0xD800 ∨ 0xDFFF < n ∧ n < 0x110000 := hn ▸ c.valid
  have hc : Char.ofNat n = c := hn ▸ Char.ofNat_toNat c
  have hbyte (x : Nat) (hx : x < 256) : (UInt8.ofNat x).toNat = x := by
    rw [UInt8.toNat_ofNat', Nat.mod_eq_of_lt hx]
  have htail (x : Nat) : (UInt8.ofNat (x % 64 + 128)).toNat = x % 64 + 128 := hbyte _ (by omega)
  unfold String.utf8EncodeChar
  simp only [show c.val.toNat = n from hn.symm]
  split_ifs with h1 h2 h3
  · have hlt : UInt8.ofNat n < 0x80 := by
      rw [UInt8.lt_iff_toNat_lt, hbyte n (by omega)]
      exact Nat.lt_succ_of_le h1
    rw [List.singleton_append, ofUtf8, if_pos hlt, hbyte n (by omega), hc]
  · have hlead : (UInt8.ofNat (n / 64 % 32 + 192)).toNat = n / 64 + 0xC0 := by
      rw [hbyte _ (by omega)]
      omega
    rw [List.cons_append, ofUtf8_of_lead (by omega) (hlead ▸ leadByte?_two (by omega) (by omega)),
      List.singleton_append, trailBytes_cons (by rw [htail]; omega), htail, trailBytes,
      show n / 64 * 64 + (n % 64 + 128 - 0x80) = n by omega, hc]
    rfl
  · have hlead : (UInt8.ofNat (n / 4096 % 16 + 224)).toNat = n / 4096 + 0xE0 := by
      rw [hbyte _ (by omega)]
      omega
    obtain ⟨low, high, hfirst, hlow, hhigh⟩ :=
      exists_leadByte?_three (n := n) (by omega) (by omega) (by omega)
    rw [List.cons_append, ofUtf8_of_lead (by omega) (hlead ▸ hfirst), List.cons_append,
      List.singleton_append, trailBytes_cons (by rw [htail]; omega),
      trailBytes_cons (by rw [htail]; omega), htail, htail, trailBytes,
      show (n / 4096 * 64 + (n / 64 % 64 + 128 - 0x80)) * 64 + (n % 64 + 128 - 0x80) = n by omega,
      hc]
    rfl
  · have hlead : (UInt8.ofNat (n / 262144 % 8 + 240)).toNat = n / 262144 + 0xF0 := by
      rw [hbyte _ (by omega)]
      omega
    obtain ⟨low, high, hfirst, hlow, hhigh⟩ :=
      exists_leadByte?_four (n := n) (by omega) (by omega)
    rw [List.cons_append, ofUtf8_of_lead (by omega) (hlead ▸ hfirst), List.cons_append,
      List.cons_append, List.singleton_append, trailBytes_cons (by rw [htail]; omega),
      trailBytes_cons (by rw [htail]; omega), trailBytes_cons (by rw [htail]; omega), htail, htail,
      htail, trailBytes,
      show ((n / 262144 * 64 + (n / 4096 % 64 + 128 - 0x80)) * 64 + (n / 64 % 64 + 128 - 0x80)) * 64
        + (n % 64 + 128 - 0x80) = n by omega, hc]
    rfl

theorem ofUtf8_utf8 (cs : List Char) : ofUtf8 (utf8 cs) = cs := by
  induction cs with
  | nil => rw [utf8, List.flatMap_nil, ofUtf8]
  | cons c cs ih => rw [utf8, List.flatMap_cons, ofUtf8_utf8EncodeChar_append, ← utf8, ih]

end Text

namespace Url

open Text

theorem hexDigit?_hexDigit {n : Nat} (h : n < 16) : hexDigit? (hexDigit n) = some n := by
  revert h n
  decide

theorem isUnreserved_hexDigit {n : Nat} (h : n < 16) : isUnreserved (hexDigit n) = true := by
  revert h n
  decide

theorem decodeChars_encodeByte (bytes : List UInt8) (b : UInt8) (r : List Char) :
    decodeChars bytes (encodeByte b ++ r) = decodeChars (b :: bytes) r := by
  have hb : b.toNat < 256 := b.toNat_lt
  have hsum : UInt8.ofNat (16 * (b.toNat / 16) + b.toNat % 16) = b := by
    rw [Nat.div_add_mod, UInt8.ofNat_toNat]
  rw [encodeByte, List.cons_append, List.cons_append, List.singleton_append, decodeChars,
    hexDigit?_hexDigit (by omega), hexDigit?_hexDigit (by omega)]
  simp only [hsum]

theorem decodeChars_encodeBytes (bytes bs : List UInt8) (r : List Char) :
    decodeChars bytes (bs.flatMap encodeByte ++ r) = decodeChars (bs.reverse ++ bytes) r := by
  induction bs generalizing bytes with
  | nil => rfl
  | cons b bs ih =>
    rw [List.flatMap_cons, List.append_assoc, decodeChars_encodeByte, ih, List.reverse_cons,
      List.append_assoc, List.singleton_append]

theorem decodeChars_cons {bytes : List UInt8} {c : Char} {r : List Char} (hc : c ≠ '%')
    (h : c.toNat < 0x80) :
    decodeChars bytes (c :: r) = decodeChars (UInt8.ofNat c.toNat :: bytes) r := by
  rw [decodeChars.eq_def]
  split
  · contradiction
  · rename_i heq
    cases heq
    exact absurd rfl hc
  · rename_i heq
    cases heq
    rw [if_pos h]

/-- Characters that stand for themselves: one byte each, and none that starts an escape. -/
def Readable (keep : Char → Bool) : Prop := ∀ c, keep c = true → c.toNat < 0x80 ∧ c ≠ '%'

theorem toNat_lt_of_isUnreserved {c : Char} (h : isUnreserved c = true) : c.toNat < 0x80 := by
  delta isUnreserved Char.isAlphanum Char.isAlpha Char.isUpper Char.isLower Char.isDigit at h
  simp only [Bool.or_eq_true, beq_iff_eq, Bool.and_eq_true, decide_eq_true_eq, ge_iff_le,
    UInt32.le_iff_toNat_le] at h
  rcases h with ((((((⟨-, h⟩ | ⟨-, h⟩) | ⟨-, h⟩) | rfl) | rfl) | rfl) | rfl)
  all_goals first | decide | exact Nat.lt_of_le_of_lt h (by decide)

theorem readable_isUnreserved : Readable isUnreserved := by
  intro c h
  refine ⟨toNat_lt_of_isUnreserved h, ?_⟩
  rintro rfl
  revert h
  decide

variable {keep : Char → Bool}

/-- An encoded character is read as the bytes of the character. -/
theorem decodeChars_encodeChar (hkeep : Readable keep) (bytes : List UInt8) (c : Char)
    (r : List Char) :
    decodeChars bytes (encodeChar keep c ++ r) =
      decodeChars ((String.utf8EncodeChar c).reverse ++ bytes) r := by
  rw [encodeChar]
  split
  · rename_i h
    obtain ⟨hlt, hne⟩ : c.toNat < 0x80 ∧ c ≠ '%' := by
      rcases Bool.or_eq_true_iff.1 h with h | h
      · exact readable_isUnreserved c h
      · exact hkeep c h
    rw [List.singleton_append, decodeChars_cons hne hlt, utf8EncodeChar_of_lt hlt]
    rfl
  · exact decodeChars_encodeBytes bytes _ r

theorem decodeChars_encodeChars (hkeep : Readable keep) (bytes : List UInt8) (cs : List Char) :
    decodeChars bytes (cs.flatMap (encodeChar keep)) = flush ((utf8 cs).reverse ++ bytes) [] := by
  induction cs generalizing bytes with
  | nil => rfl
  | cons c cs ih =>
    rw [List.flatMap_cons, decodeChars_encodeChar hkeep, ih, utf8, utf8, List.flatMap_cons,
      List.reverse_append, List.append_assoc]

/-- Decoding gives back what was encoded, whatever readable characters were kept. -/
theorem decode_encode (hkeep : Readable keep) (s : String) : decode (encode keep s) = s := by
  rw [decode, encode, String.toList_ofList, decodeChars_encodeChars hkeep, flush, List.append_nil,
    List.append_nil, List.reverse_reverse, ofUtf8_utf8, String.ofList_toList]

theorem encode_ne_empty (hkeep : Readable keep) {s : String} (h : s ≠ "") :
    encode keep s ≠ "" := by
  intro he
  have hs := decode_encode hkeep s
  rw [he] at hs
  exact h (hs.symm.trans (decode_encode hkeep ""))

/-- An encoded text holds kept characters and those of escapes. -/
theorem mem_encode {c : Char} {s : String} (h : c ∈ (encode keep s).toList) :
    isUnreserved c = true ∨ keep c = true ∨ c = '%' := by
  rw [encode, String.toList_ofList, List.mem_flatMap] at h
  obtain ⟨x, -, hx⟩ := h
  rw [encodeChar] at hx
  split at hx
  · rename_i hkept
    rw [List.mem_singleton.1 hx]
    exact (Bool.or_eq_true_iff.1 hkept).imp_right .inl
  · obtain ⟨b, -, hb⟩ := List.mem_flatMap.1 hx
    have hlt : b.toNat < 256 := b.toNat_lt
    rw [encodeByte] at hb
    rcases List.mem_cons.1 hb with rfl | hb
    · exact .inr (.inr rfl)
    rcases List.mem_cons.1 hb with rfl | hb
    · exact .inl (isUnreserved_hexDigit (by omega))
    · rw [List.mem_singleton.1 hb]
      exact .inl (isUnreserved_hexDigit (by omega))

theorem not_mem_encode {c : Char} {s : String} (h : isUnreserved c = false) (hk : keep c = false)
    (hc : c ≠ '%') : c ∉ (encode keep s).toList := by
  intro hm
  rcases mem_encode hm with hm | hm | hm
  · exact Bool.false_ne_true (h.symm.trans hm)
  · exact Bool.false_ne_true (hk.symm.trans hm)
  · exact hc hm

end Url

end EntityQuery
