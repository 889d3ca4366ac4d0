import Mathlib.Data.List.Basic
import Mathlib.Tactic.SplitIfs
import LineShell.Text.Utf8

/-!
# Reading back what has been encoded

The UTF-8 form of a text decodes to the characters of the text, without a defect, whatever follows
it (`decode?_encodeChars`), and no other bytes do (`decode?_eq_some_iff`): nothing that is read is
lost, since each character that is completed has the bytes as its form that it was read from. A byte
below 0x80 stands for itself only: it never occurs inside of a longer form
(`eq_of_mem_utf8EncodeChar`).
-/

namespace LineShell.Text

open String (utf8EncodeChar)

theorem encodeChars_append (front rest : List Char) :
    encodeChars (front ++ rest) = encodeChars front ++ encodeChars rest :=
  List.flatMap_append

theorem encode_append (front rest : String) :
    encode (front ++ rest) = encode front ++ encode rest := by
  rw [encode, String.toList_append, encodeChars_append]
  rfl

/-- The code point of a character is no surrogate and not beyond the last one. -/
private theorem toNat_valid (c : Char) :
    c.toNat < 0xD800 ∨ 0xDFFF < c.toNat ∧ c.toNat < 0x110000 :=
  c.valid

/-- The form of a character in numbers: one byte up to 0x7F, and above that a first byte and one,
two or three more bytes of six bits each. -/
theorem utf8EncodeChar_cases (c : Char) :
    (c.toNat < 0x80 ∧ utf8EncodeChar c = [UInt8.ofNat c.toNat]) ∨
    (0x80 ≤ c.toNat ∧ c.toNat < 0x800 ∧
      utf8EncodeChar c = [UInt8.ofNat (0xC0 + c.toNat / 64), UInt8.ofNat (0x80 + c.toNat % 64)]) ∨
    (0x800 ≤ c.toNat ∧ c.toNat < 0x10000 ∧
      utf8EncodeChar c = [UInt8.ofNat (0xE0 + c.toNat / 4096),
        UInt8.ofNat (0x80 + c.toNat / 64 % 64), UInt8.ofNat (0x80 + c.toNat % 64)]) ∨
    (0x10000 ≤ c.toNat ∧
      utf8EncodeChar c = [UInt8.ofNat (0xF0 + c.toNat / 262144),
        UInt8.ofNat (0x80 + c.toNat / 4096 % 64), UInt8.ofNat (0x80 + c.toNat / 64 % 64),
        UInt8.ofNat (0x80 + c.toNat % 64)]) := by
  have bound := toNat_valid c
  have value : c.val.toNat = c.toNat := rfl
  unfold utf8EncodeChar
  simp only [value]
  split_ifs with one two three
  · exact .inl ⟨by omega, rfl⟩
  · refine .inr (.inl ⟨by omega, by omega, ?_⟩)
    rw [show c.toNat / 64 % 32 + 192 = 0xC0 + c.toNat / 64 by omega, Nat.add_comm (c.toNat % 64)]
  · refine .inr (.inr (.inl ⟨by omega, by omega, ?_⟩))
    rw [show c.toNat / 4096 % 16 + 224 = 0xE0 + c.toNat / 4096 by omega,
      Nat.add_comm (c.toNat / 64 % 64), Nat.add_comm (c.toNat % 64)]
  · refine .inr (.inr (.inr ⟨by omega, ?_⟩))
    rw [show c.toNat / 262144 % 8 + 240 = 0xF0 + c.toNat / 262144 by omega,
      Nat.add_comm (c.toNat / 4096 % 64), Nat.add_comm (c.toNat / 64 % 64),
      Nat.add_comm (c.toNat % 64)]

private theorem toNat_ofNat {n : Nat} (h : n < 256) : (UInt8.ofNat n).toNat = n := by
  rw [UInt8.toNat_ofNat']
  exact Nat.mod_eq_of_lt h

/-- A byte below 0x80 in the form of a character is the whole of it. -/
theorem eq_of_mem_utf8EncodeChar {c : Char} {b : UInt8} (h : b ∈ utf8EncodeChar c)
    (ascii : b.toNat < 0x80) : utf8EncodeChar c = [b] ∧ c.toNat = b.toNat := by
  -- All bytes of a longer form are at least 0x80.
  have high : ∀ {n : Nat}, 0x80 ≤ n → n < 256 → b ≠ UInt8.ofNat n := by
    rintro n low short rfl
    rw [toNat_ofNat short] at ascii
    omega
  have bound := toNat_valid c
  rcases utf8EncodeChar_cases c with ⟨low, form⟩ | ⟨low, short, form⟩ | ⟨low, short, form⟩ |
    ⟨low, form⟩
  all_goals
    rw [form] at h ⊢
    simp only [List.mem_cons, List.not_mem_nil, or_false] at h
  · subst h
    exact ⟨rfl, (toNat_ofNat (by omega)).symm⟩
  · rcases h with h | h
    all_goals exact absurd h (high (by omega) (by omega))
  · rcases h with h | h | h
    all_goals exact absurd h (high (by omega) (by omega))
  · rcases h with h | h | h | h
    all_goals exact absurd h (high (by omega) (by omega))

/-! ## Decoding -/

variable {begun : Unfinished} {n : Nat} {rest : Bytes}

/-- The last byte of a character that has been begun. -/
private theorem decodeFrom_last (h : n < 256) (last : begun.later = 0)
    (low : begun.low.toNat ≤ n) (high : n ≤ begun.high.toNat) :
    decodeFrom (some begun) (UInt8.ofNat n :: rest) =
      .char (Char.ofNat (begun.bits * 64 + (n - 0x80))) :: decodeFrom none rest := by
  rw [decodeFrom, if_pos, last, toNat_ofNat h]
  rw [UInt8.le_iff_toNat_le, UInt8.le_iff_toNat_le, toNat_ofNat h]
  exact ⟨low, high⟩

/-- A byte in the middle of a character that has been begun. -/
private theorem decodeFrom_middle {later : Nat} (h : n < 256) (more : begun.later = later + 1)
    (low : begun.low.toNat ≤ n) (high : n ≤ begun.high.toNat) :
    decodeFrom (some begun) (UInt8.ofNat n :: rest) =
      decodeFrom (some ⟨begun.read ++ [UInt8.ofNat n], begun.bits * 64 + (n - 0x80), later, 0x80,
        0xBF⟩) rest := by
  rw [decodeFrom, if_pos, more, toNat_ofNat h]
  rw [UInt8.le_iff_toNat_le, UInt8.le_iff_toNat_le, toNat_ofNat h]
  exact ⟨low, high⟩

/-- The first byte of a form of two bytes. -/
private theorem ofByte_two (low : 0xC2 ≤ n) (high : n < 0xE0) :
    Lead.ofByte (UInt8.ofNat n) = .opens ⟨[UInt8.ofNat n], n - 0xC0, 0, 0x80, 0xBF⟩ := by
  have value := toNat_ofNat (show n < 256 by omega)
  rw [Lead.ofByte, value, if_neg (by omega), if_neg (by omega), if_pos high]

/-- The first byte of a form of three bytes. -/
private theorem ofByte_three (low : 0xE0 ≤ n) (high : n < 0xF0) :
    Lead.ofByte (UInt8.ofNat n) =
      .opens ⟨[UInt8.ofNat n], n - 0xE0, 1, if n = 0xE0 then 0xA0 else 0x80,
        if n = 0xED then 0x9F else 0xBF⟩ := by
  have value := toNat_ofNat (show n < 256 by omega)
  rw [Lead.ofByte, value, if_neg (by omega), if_neg (by omega), if_neg (by omega), if_pos high]

/-- The first byte of a form of four bytes. -/
private theorem ofByte_four (low : 0xF0 ≤ n) (high : n < 0xF5) :
    Lead.ofByte (UInt8.ofNat n) =
      .opens ⟨[UInt8.ofNat n], n - 0xF0, 2, if n = 0xF0 then 0x90 else 0x80,
        if n = 0xF4 then 0x8F else 0xBF⟩ := by
  have value := toNat_ofNat (show n < 256 by omega)
  rw [Lead.ofByte, value, if_neg (by omega), if_neg (by omega), if_neg (by omega),
    if_neg (by omega), if_pos high]

/-- The form of a character decodes to the character, whatever follows. -/
private theorem decodeFrom_utf8EncodeChar (c : Char) (rest : Bytes) :
    decodeFrom none (utf8EncodeChar c ++ rest) = .char c :: decodeFrom none rest := by
  have value : ∀ n, n = c.toNat → Char.ofNat n = c := by
    rintro _ rfl
    exact c.ofNat_toNat
  have bound := toNat_valid c
  rcases utf8EncodeChar_cases c with ⟨low, form⟩ | ⟨low, short, form⟩ | ⟨low, short, form⟩ |
    ⟨low, form⟩
  · have lead : Lead.ofByte (UInt8.ofNat c.toNat) = .whole c := by
      rw [Lead.ofByte, toNat_ofNat (by omega), if_pos low, value _ rfl]
    rw [form, List.singleton_append, decodeFrom, lead]
  · have lead := ofByte_two (n := 0xC0 + c.toNat / 64) (by omega) (by omega)
    rw [form, List.cons_append, List.singleton_append, decodeFrom, lead]
    simp only
    rw [decodeFrom_last (by omega) rfl (by simp) (by simp; omega), value _ (by simp only; omega)]
  · have lead := ofByte_three (n := 0xE0 + c.toNat / 4096) (by omega) (by omega)
    -- Shorter forms exist below 0x800, and from 0xD800 to 0xDFFF there are no characters.
    have least : (if 0xE0 + c.toNat / 4096 = 0xE0 then 0xA0 else 0x80 : UInt8).toNat ≤
        0x80 + c.toNat / 64 % 64 := by
      split
      · change 0xA0 ≤ _
        omega
      · exact Nat.le_add_right _ _
    have greatest : 0x80 + c.toNat / 64 % 64 ≤
        (if 0xE0 + c.toNat / 4096 = 0xED then 0x9F else 0xBF : UInt8).toNat := by
      split
      · change _ ≤ 0x9F
        omega
      · change _ ≤ 0xBF
        omega
    rw [form, List.cons_append, List.cons_append, List.singleton_append, decodeFrom, lead]
    simp only
    rw [decodeFrom_middle (by omega) rfl least greatest,
      decodeFrom_last (by omega) rfl (by simp) (by simp; omega), value _ (by simp only; omega)]
  · have lead := ofByte_four (n := 0xF0 + c.toNat / 262144) (by omega) (by omega)
    -- Shorter forms exist below 0x10000, and beyond 0x10FFFF there are no characters.
    have least : (if 0xF0 + c.toNat / 262144 = 0xF0 then 0x90 else 0x80 : UInt8).toNat ≤
        0x80 + c.toNat / 4096 % 64 := by
      split
      · change 0x90 ≤ _
        omega
      · exact Nat.le_add_right _ _
    have greatest : 0x80 + c.toNat / 4096 % 64 ≤
        (if 0xF0 + c.toNat / 262144 = 0xF4 then 0x8F else 0xBF : UInt8).toNat := by
      split
      · change _ ≤ 0x8F
        omega
      · change _ ≤ 0xBF
        omega
    rw [form, List.cons_append, List.cons_append, List.cons_append, List.singleton_append,
      decodeFrom, lead]
    simp only
    rw [decodeFrom_middle (by omega) rfl least greatest,
      decodeFrom_middle (by omega) rfl (by simp) (by simp; omega),
      decodeFrom_last (by omega) rfl (by simp) (by simp; omega), value _ (by simp only; omega)]

theorem decode_encodeChars (text : List Char) : decode (encodeChars text) = text.map .char := by
  induction text with
  | nil => rfl
  | cons c rest ih =>
    rw [decode] at ih ⊢
    rw [encodeChars, List.flatMap_cons, decodeFrom_utf8EncodeChar, List.map_cons, ← ih, encodeChars]

/-- The form of a text is text. -/
theorem decode?_encodeChars (text : List Char) :
    decode? (encodeChars text) = some (String.ofList text) := by
  have whole : (text.map Decoded.char).mapM Decoded.char? = some text := by
    induction text with
    | nil => rfl
    | cons c rest ih =>
      rw [List.map_cons, List.mapM_cons, ih]
      rfl
  rw [decode?, decode_encodeChars, whole]
  rfl

/-! ## Encoding what has been decoded -/

/-- The bytes that a unit has been decoded from. -/
private def Decoded.bytes : Decoded → Bytes
  | .char c => utf8EncodeChar c
  | .defect bytes => bytes

/-- Whatever bytes within the bounds follow those read so far, the character that they make is the
one that has them as its form. -/
private def Completes : Nat → Bytes → Nat → UInt8 → UInt8 → Prop
  | 0, read, bits, low, high => ∀ b, low ≤ b → b ≤ high →
      utf8EncodeChar (Char.ofNat (bits * 64 + (b.toNat - 0x80))) = read ++ [b]
  | later + 1, read, bits, low, high => ∀ b, low ≤ b → b ≤ high →
      Completes later (read ++ [b]) (bits * 64 + (b.toNat - 0x80)) 0x80 0xBF

/-- A code point is that of its character. -/
private theorem toNat_ofNat_of_valid (h : n < 0xD800 ∨ 0xDFFF < n ∧ n < 0x110000) :
    (Char.ofNat n).toNat = n := by
  have valid : n.isValidChar := h
  rw [Char.ofNat, dif_pos valid]
  rfl

private theorem eq_ofNat {b : UInt8} (h : b.toNat = n) : UInt8.ofNat n = b := by
  rw [← h, UInt8.ofNat_toNat]

/-- Two bytes within their bounds are the form of the character whose bits they hold. The same is
said of three and of four bytes below. -/
private theorem form_two {a b : UInt8} (low : 0xC2 ≤ a.toNat) (high : a.toNat < 0xE0)
    (lowB : 0x80 ≤ b.toNat) (highB : b.toNat ≤ 0xBF)
    (value : n = (a.toNat - 0xC0) * 64 + (b.toNat - 0x80)) :
    utf8EncodeChar (Char.ofNat n) = [a, b] := by
  have point := toNat_ofNat_of_valid (n := n) (by omega)
  rcases utf8EncodeChar_cases (Char.ofNat n) with ⟨small, -⟩ | ⟨-, -, form⟩ | ⟨large, -⟩ | ⟨large, -⟩
  · omega
  · rw [form, point, eq_ofNat (b := a) (by omega), eq_ofNat (b := b) (by omega)]
  · omega
  · omega

private theorem form_three {a b c : UInt8} (low : 0xE0 ≤ a.toNat) (high : a.toNat < 0xF0)
    (lowB : (if a.toNat = 0xE0 then 0xA0 else 0x80) ≤ b.toNat)
    (highB : b.toNat ≤ if a.toNat = 0xED then 0x9F else 0xBF)
    (lowC : 0x80 ≤ c.toNat) (highC : c.toNat ≤ 0xBF)
    (value : n = ((a.toNat - 0xE0) * 64 + (b.toNat - 0x80)) * 64 + (c.toNat - 0x80)) :
    utf8EncodeChar (Char.ofNat n) = [a, b, c] := by
  -- The bounds on the second byte leave out what has a shorter form, and surrogates.
  have bounds : 0x800 ≤ n ∧ (n < 0xD800 ∨ 0xDFFF < n) ∧ 0x80 ≤ b.toNat ∧ b.toNat ≤ 0xBF := by
    split_ifs at lowB highB <;> omega
  clear lowB highB
  have point := toNat_ofNat_of_valid (n := n) (by omega)
  rcases utf8EncodeChar_cases (Char.ofNat n) with ⟨small, -⟩ | ⟨-, small, -⟩ | ⟨-, -, form⟩ |
    ⟨large, -⟩
  · omega
  · omega
  · rw [form, point, eq_ofNat (b := a) (by omega), eq_ofNat (b := b) (by omega),
      eq_ofNat (b := c) (by omega)]
  · omega

private theorem form_four {a b c d : UInt8} (low : 0xF0 ≤ a.toNat) (high : a.toNat < 0xF5)
    (lowB : (if a.toNat = 0xF0 then 0x90 else 0x80) ≤ b.toNat)
    (highB : b.toNat ≤ if a.toNat = 0xF4 then 0x8F else 0xBF)
    (lowC : 0x80 ≤ c.toNat) (highC : c.toNat ≤ 0xBF) (lowD : 0x80 ≤ d.toNat)
    (highD : d.toNat ≤ 0xBF)
    (value : n = (((a.toNat - 0xF0) * 64 + (b.toNat - 0x80)) * 64 + (c.toNat - 0x80)) * 64 +
      (d.toNat - 0x80)) :
    utf8EncodeChar (Char.ofNat n) = [a, b, c, d] := by
  -- The bounds on the second byte leave out what has a shorter form, and what is no code point.
  have bounds : 0x10000 ≤ n ∧ n < 0x110000 ∧ 0x80 ≤ b.toNat ∧ b.toNat ≤ 0xBF := by
    split_ifs at lowB highB <;> omega
  clear lowB highB
  have point := toNat_ofNat_of_valid (n := n) (by omega)
  rcases utf8EncodeChar_cases (Char.ofNat n) with ⟨small, -⟩ | ⟨-, small, -⟩ | ⟨-, small, -⟩ |
    ⟨-, form⟩
  · omega
  · omega
  · omega
  · rw [form, point, eq_ofNat (b := a) (by omega), eq_ofNat (b := b) (by omega),
      eq_ofNat (b := c) (by omega), eq_ofNat (b := d) (by omega)]

/-- What a first byte opens completes to a character that begins with it. -/
private theorem completes_of_opens {b : UInt8} (h : Lead.ofByte b = .opens begun) :
    begun.read = [b] ∧ Completes begun.later begun.read begun.bits begun.low begun.high := by
  rw [Lead.ofByte] at h
  split at h
  · cases h
  split at h
  · cases h
  split at h
  · rename_i two
    cases h
    refine ⟨rfl, fun c low high => ?_⟩
    rw [UInt8.le_iff_toNat_le] at low high
    exact form_two (by omega) two low high rfl
  split at h
  · rename_i three
    cases h
    refine ⟨rfl, fun c low high d lowD highD => ?_⟩
    rw [UInt8.le_iff_toNat_le] at low high lowD highD
    simp only [apply_ite UInt8.toNat] at low high
    exact form_three (by omega) three low high lowD highD rfl
  split at h
  · rename_i four
    cases h
    refine ⟨rfl, fun c low high d lowD highD e lowE highE => ?_⟩
    rw [UInt8.le_iff_toNat_le] at low high lowD highD lowE highE
    simp only [apply_ite UInt8.toNat] at low high
    exact form_four (by omega) four low high lowD highD lowE highE rfl
  · cases h

private theorem eq_of_whole {b : UInt8} {c : Char} (h : Lead.ofByte b = .whole c) :
    utf8EncodeChar c = [b] := by
  unfold Lead.ofByte at h
  simp only at h
  split_ifs at h with one
  cases h
  have point := toNat_ofNat_of_valid (n := b.toNat) (by omega)
  rcases utf8EncodeChar_cases (Char.ofNat b.toNat) with ⟨-, form⟩ | ⟨large, -⟩ | ⟨large, -⟩ |
    ⟨large, -⟩
  · rw [form, point, UInt8.ofNat_toNat]
  · omega
  · omega
  · omega

/-- The units of some bytes have been decoded from all of them. -/
private theorem flatMap_bytes_decodeFrom (bytes : Bytes) :
    (decodeFrom none bytes).flatMap Decoded.bytes = bytes ∧
      ∀ begun, Completes begun.later begun.read begun.bits begun.low begun.high →
        (decodeFrom (some begun) bytes).flatMap Decoded.bytes = begun.read ++ bytes := by
  induction bytes with
  | nil =>
    refine ⟨rfl, fun begun _ => ?_⟩
    simp [decodeFrom, Decoded.bytes]
  | cons b rest ih =>
    obtain ⟨fresh, continued⟩ := ih
    -- A byte that is read afresh is a character, opens one or is a defect.
    have afresh : (decodeFrom none (b :: rest)).flatMap Decoded.bytes = b :: rest := by
      rw [decodeFrom]
      split
      · rename_i c lead
        rw [List.flatMap_cons, Decoded.bytes, eq_of_whole lead, fresh]
        rfl
      · rename_i begun lead
        obtain ⟨read, completes⟩ := completes_of_opens lead
        rw [continued begun completes, read]
        rfl
      · rw [List.flatMap_cons, fresh]
        rfl
    refine ⟨afresh, fun begun completes => ?_⟩
    rw [decodeFrom]
    split_ifs with within
    · obtain ⟨read, bits, later, low, high⟩ := begun
      cases later with
      | zero =>
        rw [List.flatMap_cons, Decoded.bytes, completes b within.1 within.2, fresh]
        simp
      | succ later =>
        rw [continued _ (completes b within.1 within.2)]
        simp
    · rw [List.flatMap_cons, Decoded.bytes]
      exact congrArg (begun.read ++ ·) afresh

/-- Units without a defect are characters. -/
private theorem eq_map_char {units : List Decoded} {chars : List Char}
    (h : units.mapM Decoded.char? = some chars) : units = chars.map .char := by
  induction units generalizing chars with
  | nil =>
    cases h
    rfl
  | cons unit rest ih =>
    rw [List.mapM_cons, Option.bind_eq_bind, Option.bind_eq_some_iff] at h
    obtain ⟨c, isChar, h⟩ := h
    rw [Option.bind_eq_bind, Option.bind_eq_some_iff] at h
    obtain ⟨later, restChars, h⟩ := h
    cases h
    cases unit with
    | char c =>
      cases isChar
      rw [List.map_cons, ih restChars]
    | defect bytes => cases isChar

/-- Bytes are text exactly if they are the form of that text. -/
theorem decode?_eq_some_iff {bytes : Bytes} {text : String} :
    decode? bytes = some text ↔ bytes = encode text := by
  constructor
  · intro h
    obtain ⟨chars, whole, rfl⟩ := Option.map_eq_some_iff.1 h
    have units : decode bytes = chars.map .char := eq_map_char whole
    rw [← (flatMap_bytes_decodeFrom bytes).1]
    change (decode bytes).flatMap _ = _
    rw [units, List.flatMap_map, encode, String.toList_ofList]
    rfl
  · rintro rfl
    rw [encode, decode?_encodeChars, String.ofList_toList]

end LineShell.Text
