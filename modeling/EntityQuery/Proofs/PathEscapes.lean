import EntityQuery.Proofs.LineEnds
import EntityQuery.Proofs.QueryRoundTrip

/-!
# Escapes in a path

The path of a request is encoded with the percent sign left as it is, so that the escapes in a path
stay escapes. What is sent is read as the path would be read itself (`decode_encode_path`): the
bytes of a character stand for the character whatever bytes come before it
(`ofUtf8_append_utf8EncodeChar`). A path that holds no escape is read as it is, and one that holds
an escape is read as a shorter text (`decode_eq_self_iff`).
-/

namespace EntityQuery

namespace Text

theorem leadByte?_bounds {b count bits low high : Nat}
    (h : leadByte? b = some (count, bits, low, high)) : 0x80 ≤ low ∧ high ≤ 0xBF := by
  unfold leadByte? at h
  split_ifs at h <;> simp only [Option.some.injEq, Prod.mk.injEq] at h <;> omega

theorem length_trailBytes_le (bs : List UInt8) (count bits low high : Nat) :
    (trailBytes count bits low high bs).1 ≤ bs.length := by
  fun_induction trailBytes count bits low high bs <;> simp_all

/-- A byte that goes on with no character ends the one before it. -/
theorem trailBytes_append {b : UInt8} (hb : ¬(0x80 ≤ b.toNat ∧ b.toNat ≤ 0xBF))
    (r bs : List UInt8) (count bits : Nat) {low high : Nat} (hlow : 0x80 ≤ low)
    (hhigh : high ≤ 0xBF) :
    trailBytes count bits low high (bs ++ b :: r) = trailBytes count bits low high bs := by
  induction bs generalizing count bits low high with
  | nil =>
    cases count with
    | zero => rw [trailBytes, trailBytes]
    | succ count => rw [List.nil_append, trailBytes, trailBytes, if_neg (by omega)]
  | cons x bs ih =>
    cases count with
    | zero => rw [trailBytes, trailBytes]
    | succ count =>
      rw [List.cons_append, trailBytes, trailBytes, ih count _ (by omega) (by omega)]

theorem exists_utf8EncodeChar (c : Char) : ∃ b r, String.utf8EncodeChar c = b :: r ∧
    ¬(0x80 ≤ b.toNat ∧ b.toNat ≤ 0xBF) := by
  have hvalid : c.val.toNat < 0x110000 := by
    rcases c.valid with h | ⟨-, h⟩
    · exact Nat.lt_trans h (by decide)
    · exact h
  unfold String.utf8EncodeChar
  dsimp only
  split_ifs with h1 h2 h3
  all_goals
    refine ⟨_, _, rfl, ?_⟩
    rw [UInt8.toNat_ofNat']
    omega

/-- The bytes of a character stand for it, whatever bytes come before. -/
theorem ofUtf8_append_utf8EncodeChar (bs r : List UInt8) (c : Char) :
    ofUtf8 (bs ++ (String.utf8EncodeChar c ++ r)) = ofUtf8 bs ++ c :: ofUtf8 r := by
  obtain ⟨lead, rest, hc, hlead⟩ := exists_utf8EncodeChar c
  fun_induction ofUtf8 bs with
  | case1 => rw [List.nil_append, List.nil_append, ofUtf8_utf8EncodeChar_append]
  | case2 b bs hb ih => rw [List.cons_append, ofUtf8, if_pos hb, ih, List.cons_append]
  | case3 b bs hb hnone ih =>
    rw [List.cons_append, ofUtf8, if_neg hb, hnone]
    simp only [ih, List.cons_append]
  | case4 b bs hb count bits low high hsome n x htrail ih =>
    obtain ⟨hlow, hhigh⟩ := leadByte?_bounds hsome
    have hn : n ≤ bs.length := by
      simpa [htrail] using length_trailBytes_le bs count bits low high
    have hsame := trailBytes_append hlead (rest ++ r) bs count bits hlow hhigh
    rw [← List.cons_append, ← hc, htrail] at hsame
    rw [List.cons_append, ofUtf8, if_neg hb, hsome]
    simp only [hsame]
    rw [List.drop_append_of_le_length hn, ih, List.cons_append]

theorem length_ofUtf8_le (bs : List UInt8) : (ofUtf8 bs).length ≤ bs.length := by
  fun_induction ofUtf8 bs with
  | case1 => exact Nat.le_refl _
  | case2 b bs hb ih => simpa using ih
  | case3 b bs hb hnone ih => simpa using ih
  | case4 b bs hb count bits low high hsome n x htrail ih =>
    rw [List.length_drop] at ih
    simp only [List.length_cons]
    omega

end Text

namespace Url

open Text

/-- Whether a text begins with two digits of a byte. -/
def startsWithByte : List Char → Bool
  | a :: b :: _ => (hexDigit? a).isSome && (hexDigit? b).isSome
  | _ => false

/-- Whether an escape stands in a text: a percent sign and two digits. -/
def hasEscape : List Char → Bool
  | [] => false
  | c :: r => c == '%' && startsWithByte r || hasEscape r

theorem startsWithByte_of_none {x : Char} (hx : hexDigit? x = none) (r : List Char) :
    startsWithByte (x :: r) = false := by
  rcases r with _ | ⟨b, r⟩ <;> simp [startsWithByte, hx]

theorem hasEscape_cons {c : Char} (h : c ≠ '%') (r : List Char) :
    hasEscape (c :: r) = hasEscape r := by
  rw [hasEscape, beq_eq_false_iff_ne.2 h, Bool.false_and, Bool.false_or]

theorem hasEscape_append {a : List Char} (h : '%' ∉ a) (b : List Char) :
    hasEscape (a ++ b) = hasEscape b := by
  induction a with
  | nil => rfl
  | cons c a ih =>
    rw [List.mem_cons, not_or] at h
    rw [List.cons_append, hasEscape_cons (Ne.symm h.1), ih h.2]

theorem startsWithByte_append_of_none (cs : List Char) {x : Char} (hx : hexDigit? x = none)
    (r : List Char) : startsWithByte (cs ++ x :: r) = startsWithByte cs := by
  rcases cs with _ | ⟨a, _ | ⟨b, cs⟩⟩
  · exact startsWithByte_of_none hx r
  · simp [startsWithByte, hx]
  · rfl

/-- A character that is no digit makes no escape of what comes before it. -/
theorem hasEscape_append_of_none (cs : List Char) {x : Char} (hx : hexDigit? x = none)
    (hne : x ≠ '%') (r : List Char) :
    hasEscape (cs ++ x :: r) = (hasEscape cs || hasEscape r) := by
  induction cs with
  | nil => rw [List.nil_append, hasEscape_cons hne, hasEscape, Bool.false_or]
  | cons c cs ih =>
    rw [List.cons_append, hasEscape, hasEscape, startsWithByte_append_of_none _ hx, ih,
      Bool.or_assoc]

/-- A text is read from the left: an escape at once, and else one character. -/
theorem escape_induction {motive : List Char → Prop} (nil : motive [])
    (escape : ∀ a b x y r, hexDigit? a = some x → hexDigit? b = some y → motive r →
      motive ('%' :: a :: b :: r))
    (char : ∀ c r, (c == '%' && startsWithByte r) = false → motive r → motive (c :: r)) :
    ∀ cs, motive cs
  | [] => nil
  | c :: r => by
    cases h : c == '%' && startsWithByte r with
    | false => exact char c r h (escape_induction nil escape char r)
    | true =>
      obtain ⟨hc, hr⟩ := Bool.and_eq_true_iff.1 h
      rcases r with _ | ⟨a, _ | ⟨b, r⟩⟩
      · cases hr
      · cases hr
      · obtain ⟨ha, hb⟩ := Bool.and_eq_true_iff.1 hr
        obtain ⟨x, hx⟩ := Option.isSome_iff_exists.1 ha
        obtain ⟨y, hy⟩ := Option.isSome_iff_exists.1 hb
        rw [beq_iff_eq.1 hc]
        exact escape a b x y r hx hy (escape_induction nil escape char r)
  termination_by cs => cs.length

theorem decodeChars_escape (bytes : List UInt8) {a b : Char} {x y : Nat} (ha : hexDigit? a = some x)
    (hb : hexDigit? b = some y) (r : List Char) :
    decodeChars bytes ('%' :: a :: b :: r) = decodeChars (UInt8.ofNat (16 * x + y) :: bytes) r := by
  rw [decodeChars, ha, hb]

/-- A percent sign without two digits behind it stands for itself. -/
theorem decodeChars_percent (bytes : List UInt8) {r : List Char} (h : startsWithByte r = false) :
    decodeChars bytes ('%' :: r) = decodeChars (37 :: bytes) r := by
  rcases r with _ | ⟨a, _ | ⟨b, r⟩⟩
  · rfl
  · rfl
  · rw [startsWithByte] at h
    rw [decodeChars]
    split
    · rename_i x y ha hb
      simp [ha, hb] at h
    · rfl

theorem decodeChars_of_lt (bytes : List UInt8) {c : Char} {r : List Char} (hc : c.toNat < 0x80)
    (h : (c == '%' && startsWithByte r) = false) :
    decodeChars bytes (c :: r) = decodeChars (UInt8.ofNat c.toNat :: bytes) r := by
  by_cases hne : c = '%'
  · subst hne
    exact decodeChars_percent bytes (by simpa using h)
  · exact decodeChars_cons hne hc

theorem decodeChars_of_le (bytes : List UInt8) {c : Char} (hc : 0x80 ≤ c.toNat) (r : List Char) :
    decodeChars bytes (c :: r) = ofUtf8 bytes.reverse ++ c :: decodeChars [] r := by
  have hne : c ≠ '%' := by
    rintro rfl
    revert hc
    decide
  rw [decodeChars.eq_def]
  split
  · contradiction
  · rename_i heq
    exact absurd (List.cons.inj heq).1 hne
  · rename_i heq
    cases heq
    rw [if_neg (by omega), flush]

/-- The bytes of a character are read apart from those before them. -/
theorem decodeChars_utf8EncodeChar (c : Char) (earlier later : List UInt8) (cs : List Char) :
    decodeChars (later ++ ((String.utf8EncodeChar c).reverse ++ earlier)) cs =
      ofUtf8 earlier.reverse ++ c :: decodeChars later cs := by
  have hbytes (later : List UInt8) :
      ofUtf8 (later ++ ((String.utf8EncodeChar c).reverse ++ earlier)).reverse =
        ofUtf8 earlier.reverse ++ c :: ofUtf8 later.reverse := by
    rw [List.reverse_append, List.reverse_append, List.reverse_reverse, List.append_assoc,
      ofUtf8_append_utf8EncodeChar]
  induction cs using escape_induction generalizing later with
  | nil => simp only [decodeChars, flush, hbytes, List.append_nil]
  | escape a b x y r ha hb ih =>
    rw [decodeChars_escape _ ha hb, decodeChars_escape _ ha hb, ← List.cons_append, ih]
  | char x r hx ih =>
    by_cases hlt : x.toNat < 0x80
    · rw [decodeChars_of_lt _ hlt hx, decodeChars_of_lt _ hlt hx, ← List.cons_append, ih]
    · rw [decodeChars_of_le _ (by omega), decodeChars_of_le _ (by omega), hbytes,
        List.append_assoc, List.cons_append]

/-- A character that starts no escape is read as its bytes. -/
theorem decodeChars_char (bytes : List UInt8) {c : Char} {r : List Char}
    (h : (c == '%' && startsWithByte r) = false) :
    decodeChars bytes (c :: r) = decodeChars ((String.utf8EncodeChar c).reverse ++ bytes) r := by
  by_cases hlt : c.toNat < 0x80
  · rw [decodeChars_of_lt _ hlt h, utf8EncodeChar_of_lt hlt]
    rfl
  · rw [decodeChars_of_le _ (by omega), ← List.nil_append ((String.utf8EncodeChar c).reverse ++ _),
      decodeChars_utf8EncodeChar]

theorem isUnreserved_of_isSome {c : Char} (h : (hexDigit? c).isSome = true) :
    isUnreserved c = true := by
  have halnum : c.isAlphanum = true := by
    unfold hexDigit? at h
    unfold Char.isAlphanum Char.isAlpha Char.isUpper Char.isLower Char.isDigit
    simp only [Char.le_def, UInt32.le_iff_toNat_le, ge_iff_le] at h ⊢
    split_ifs at h <;> simp_all <;> omega
  rw [isUnreserved, halnum]
  rfl

theorem encodeChar_of_isSome {keep : Char → Bool} {c : Char} (h : (hexDigit? c).isSome = true) :
    encodeChar keep c = [c] := by
  rw [encodeChar, isUnreserved_of_isSome h, Bool.true_or, if_pos rfl]

/-- Encoding makes no digit of another character. -/
theorem exists_encodeChar_of_none (keep : Char → Bool) {c : Char} (h : hexDigit? c = none) :
    ∃ x xs, encodeChar keep c = x :: xs ∧ hexDigit? x = none := by
  obtain ⟨b, bs, hc, -⟩ := exists_utf8EncodeChar c
  unfold encodeChar
  split
  · exact ⟨c, [], rfl, h⟩
  · exact ⟨'%', _, by rw [hc, List.flatMap_cons, encodeByte, List.cons_append], by decide⟩

/-- What a text is encoded as begins with two digits exactly where the text does. -/
theorem startsWithByte_encodeChars (keep : Char → Bool) (cs : List Char) :
    startsWithByte (cs.flatMap (encodeChar keep)) = startsWithByte cs := by
  rcases cs with _ | ⟨a, cs⟩
  · rfl
  cases ha : hexDigit? a with
  | none =>
    obtain ⟨x, xs, henc, hx⟩ := exists_encodeChar_of_none keep ha
    rw [List.flatMap_cons, henc, List.cons_append, startsWithByte_of_none hx,
      startsWithByte_of_none ha]
  | some n =>
    have henc : encodeChar keep a = [a] := encodeChar_of_isSome (by rw [ha]; rfl)
    rw [List.flatMap_cons, henc, List.singleton_append]
    rcases cs with _ | ⟨b, cs⟩
    · rfl
    cases hb : hexDigit? b with
    | none =>
      obtain ⟨x, xs, henc, hx⟩ := exists_encodeChar_of_none keep hb
      rw [List.flatMap_cons, henc, List.cons_append]
      simp [startsWithByte, hx, hb]
    | some m =>
      have henc : encodeChar keep b = [b] := encodeChar_of_isSome (by rw [hb]; rfl)
      rw [List.flatMap_cons, henc, List.singleton_append, startsWithByte, startsWithByte]

/-- A path is sent as a text that is read as the path is. -/
theorem decode_encode_path (s : String) : decode (encode keptInPath s) = decode s := by
  have hchars (bytes : List UInt8) (cs : List Char) :
      decodeChars bytes (cs.flatMap (encodeChar keptInPath)) = decodeChars bytes cs := by
    induction cs using escape_induction generalizing bytes with
    | nil => rfl
    | escape a b x y r ha hb ih =>
      have ha' : encodeChar keptInPath a = [a] := encodeChar_of_isSome (by rw [ha]; rfl)
      have hb' : encodeChar keptInPath b = [b] := encodeChar_of_isSome (by rw [hb]; rfl)
      have hsign : encodeChar keptInPath '%' = ['%'] := by decide
      simp only [List.flatMap_cons, hsign, ha', hb', List.singleton_append]
      rw [decodeChars_escape _ ha hb, decodeChars_escape _ ha hb, ih]
    | char c r hc ih =>
      rw [List.flatMap_cons, encodeChar]
      split
      · rw [List.singleton_append, decodeChars_char _ (by rwa [startsWithByte_encodeChars]),
          decodeChars_char _ hc, ih]
      · rw [decodeChars_encodeBytes, ih, decodeChars_char _ hc]
  rw [decode, decode, encode, String.toList_ofList, hchars]

/-- A text without escapes is read as it is. -/
theorem decodeChars_of_plain (bytes : List UInt8) {cs : List Char} (h : hasEscape cs = false) :
    decodeChars bytes cs = ofUtf8 bytes.reverse ++ cs := by
  induction cs generalizing bytes with
  | nil => rfl
  | cons c cs ih =>
    rw [hasEscape, Bool.or_eq_false_iff] at h
    rw [decodeChars_char _ h.1, ih _ h.2, List.reverse_append, List.reverse_reverse,
      ← List.append_nil (String.utf8EncodeChar c), ofUtf8_append_utf8EncodeChar, ofUtf8,
      List.append_assoc, List.singleton_append]

/-- Each escape takes three characters and gives at most one. -/
theorem length_decodeChars (bytes : List UInt8) (cs : List Char) :
    (decodeChars bytes cs).length ≤ bytes.length + cs.length ∧
      (hasEscape cs = true → (decodeChars bytes cs).length < bytes.length + cs.length) := by
  induction cs using escape_induction generalizing bytes with
  | nil => simpa [decodeChars, flush, hasEscape] using length_ofUtf8_le bytes.reverse
  | escape a b x y r ha hb ih =>
    have hr := (ih (UInt8.ofNat (16 * x + y) :: bytes)).1
    rw [decodeChars_escape _ ha hb]
    simp only [List.length_cons] at hr ⊢
    omega
  | char c r hc ih =>
    rw [hasEscape, hc, Bool.false_or]
    by_cases hlt : c.toNat < 0x80
    · rw [decodeChars_of_lt _ hlt hc]
      obtain ⟨hle, hescape⟩ := ih (UInt8.ofNat c.toNat :: bytes)
      simp only [List.length_cons] at hle hescape ⊢
      exact ⟨by omega, fun h => by have := hescape h; omega⟩
    · rw [decodeChars_of_le _ (by omega)]
      obtain ⟨hle, hescape⟩ := ih []
      have hbytes := length_ofUtf8_le bytes.reverse
      simp only [List.length_append, List.length_cons, List.length_reverse, List.length_nil]
        at hle hescape hbytes ⊢
      exact ⟨by omega, fun h => by have := hescape h; omega⟩

theorem decode_eq_self_iff {s : String} : decode s = s ↔ hasEscape s.toList = false := by
  constructor
  · intro h
    by_contra hescape
    have hlt := (length_decodeChars [] s.toList).2 (by simpa using hescape)
    rw [← String.toList_inj, decode, String.toList_ofList] at h
    rw [h] at hlt
    simp at hlt
  · intro h
    rw [decode, decodeChars_of_plain [] h]
    simp [ofUtf8]

end Url

end EntityQuery
