/-
Text in UTF-8 is read back as it was written.

A character is written as one to four bytes: the first tells how many there are, and
each of the others carries six bits of the code point.

* `begin?_two`, `begin?_three`, `begin?_four`: the first byte of a character begins one, and
  allows for the second byte that follows it. Detours, surrogates and what lies beyond the
  last code point are the only seconds it rules out, and no character has them;
* `decodeFrom_inner`, `decodeFrom_last`: each further byte adds its bits;
* `decode_encode`: so whatever is written is read back;
* `splitAt_encode`: the bytes in front of the last character are a text, and so are its own.
-/
import BookSync.Text.Utf8
import Mathlib.Data.Nat.Notation

namespace BookSync.Text

/-! ### The first byte -/

theorem begin?_one {n : ℕ} (h : n < 0x80) : begin? n = .error (Char.ofNat n) := by
  rw [begin?, if_pos h]

/-- Two bytes: `x` is not below two, or one byte would do. -/
theorem begin?_two {x : ℕ} (hlo : 2 ≤ x) (hhi : x < 32) :
    begin? (x + 0xc0) = .ok ⟨x, 1, 0x80, 0xbf⟩ := by
  rw [begin?, if_neg (by omega), if_neg (by omega), if_pos (by omega), Nat.add_sub_cancel]

/-- Three bytes: with `y` in the second one, two bytes would not do, and there is no
surrogate. -/
theorem begin?_three {x y : ℕ} (hx : x < 16) (hy : y < 64) (hlo : x = 0 → 32 ≤ y)
    (hhi : x = 13 → y < 32) :
    ∃ lo hi, begin? (x + 0xe0) = .ok ⟨x, 2, lo, hi⟩ ∧ lo ≤ y + 0x80 ∧ y + 0x80 ≤ hi := by
  rw [begin?, if_neg (by omega), if_neg (by omega), if_neg (by omega)]
  by_cases h0 : x = 0
  · subst h0
    exact ⟨_, _, rfl, by omega, by omega⟩
  by_cases h13 : x = 13
  · subst h13
    exact ⟨_, _, rfl, by omega, by omega⟩
  rw [if_neg (by omega), if_neg (by omega), if_pos (by omega), Nat.add_sub_cancel]
  exact ⟨_, _, rfl, by omega, by omega⟩

/-- Four bytes: with `y` in the second one, three bytes would not do, and the code point
is not beyond the last one. -/
theorem begin?_four {x y : ℕ} (hx : x ≤ 4) (hy : y < 64) (hlo : x = 0 → 16 ≤ y)
    (hhi : x = 4 → y < 16) :
    ∃ lo hi, begin? (x + 0xf0) = .ok ⟨x, 3, lo, hi⟩ ∧ lo ≤ y + 0x80 ∧ y + 0x80 ≤ hi := by
  by_cases h0 : x = 0
  · subst h0
    exact ⟨_, _, rfl, by omega, by omega⟩
  by_cases h4 : x = 4
  · subst h4
    exact ⟨_, _, rfl, by omega, by omega⟩
  refine ⟨0x80, 0xbf, ?_, by omega, by omega⟩
  rw [begin?, if_neg (by omega), if_neg (by omega), if_neg (by omega), if_neg (by omega),
    if_neg (by omega), if_neg (by omega), if_neg (by omega), if_pos (by omega),
    Nat.add_sub_cancel]

/-! ### Further bytes -/

section

variable {bs : List UInt8} {n lo hi bits y : ℕ}

theorem toNat_byte {n : ℕ} (h : n < 256) : (UInt8.ofNat n).toNat = n :=
  UInt8.toNat_ofNat_of_lt' h

theorem decodeFrom_first {begun : Begun} (hn : n < 256) (h : begin? n = .ok begun) :
    utf8DecodeFrom none (UInt8.ofNat n :: bs) = utf8DecodeFrom (some begun) bs := by
  rw [utf8DecodeFrom, toNat_byte hn, h]

/-- The last byte of a character completes it. -/
theorem decodeFrom_last (hy : y < 64) (hlo : lo ≤ y + 0x80) (hhi : y + 0x80 ≤ hi) :
    utf8DecodeFrom (some ⟨bits, 1, lo, hi⟩) (UInt8.ofNat (y + 0x80) :: bs) =
      Char.ofNat (bits * 0x40 + y) :: utf8DecodeFrom none bs := by
  rw [utf8DecodeFrom, toNat_byte (by omega), if_pos ⟨hlo, hhi⟩, Nat.add_sub_cancel]
  rfl

/-- Any other byte adds its bits. -/
theorem decodeFrom_inner {missing : ℕ} (hy : y < 64) (hlo : lo ≤ y + 0x80)
    (hhi : y + 0x80 ≤ hi) (hmissing : missing ≠ 0) :
    utf8DecodeFrom (some ⟨bits, missing + 1, lo, hi⟩) (UInt8.ofNat (y + 0x80) :: bs) =
      utf8DecodeFrom (some ⟨bits * 0x40 + y, missing, 0x80, 0xbf⟩) bs := by
  rw [utf8DecodeFrom, toNat_byte (by omega), if_pos ⟨hlo, hhi⟩, Nat.add_sub_cancel]
  exact if_neg (by simpa using hmissing)

end

/-! ### Whole characters -/

/-- A character is read from its bytes, whatever follows them. -/
theorem decodeFrom_encodeChar (c : Char) (bs : List UInt8) :
    utf8DecodeFrom none (String.utf8EncodeChar c ++ bs) = c :: utf8DecodeFrom none bs := by
  have hvalid : c.toNat < 0xd800 ∨ 0xdfff < c.toNat ∧ c.toNat < 0x110000 := c.valid
  have hback : Char.ofNat c.toNat = c := Char.ofNat_toNat c
  rw [String.utf8EncodeChar.eq_1, show c.val.toNat = c.toNat from rfl]
  generalize c.toNat = n at hvalid hback
  subst hback
  -- by the number of bytes; in each case the bits make up the code point again
  by_cases h1 : n ≤ 127
  · rw [if_pos h1]
    show utf8DecodeFrom none (UInt8.ofNat n :: bs) = _
    rw [utf8DecodeFrom, toNat_byte (by omega), begin?_one (by omega)]
  rw [if_neg h1]
  by_cases h2 : n ≤ 2047
  · have hn : n / 64 % 32 * 0x40 + n % 64 = n := by omega
    rw [if_pos h2]
    show utf8DecodeFrom none (UInt8.ofNat _ :: UInt8.ofNat _ :: bs) = _
    rw [decodeFrom_first (by omega) (begin?_two (by omega) (by omega)),
      decodeFrom_last (by omega) (by omega) (by omega), hn]
  rw [if_neg h2]
  by_cases h3 : n ≤ 65535
  · have hn : (n / 4096 % 16 * 0x40 + n / 64 % 64) * 0x40 + n % 64 = n := by omega
    obtain ⟨lo, hi, hbegin, hlo, hhi⟩ := @begin?_three (n / 4096 % 16) (n / 64 % 64)
      (by omega) (by omega) (by omega) (by omega)
    rw [if_pos h3]
    show utf8DecodeFrom none (UInt8.ofNat _ :: UInt8.ofNat _ :: UInt8.ofNat _ :: bs) = _
    rw [decodeFrom_first (by omega) hbegin, decodeFrom_inner (by omega) hlo hhi (by omega),
      decodeFrom_last (by omega) (by omega) (by omega), hn]
  · have hn : ((n / 262144 % 8 * 0x40 + n / 4096 % 64) * 0x40 + n / 64 % 64) * 0x40 + n % 64 =
        n := by omega
    obtain ⟨lo, hi, hbegin, hlo, hhi⟩ := @begin?_four (n / 262144 % 8) (n / 4096 % 64)
      (by omega) (by omega) (by omega) (by omega)
    rw [if_neg h3]
    show utf8DecodeFrom none
      (UInt8.ofNat _ :: UInt8.ofNat _ :: UInt8.ofNat _ :: UInt8.ofNat _ :: bs) = _
    rw [decodeFrom_first (by omega) hbegin, decodeFrom_inner (by omega) hlo hhi (by omega),
      decodeFrom_inner (by omega) (by omega) (by omega) (by omega),
      decodeFrom_last (by omega) (by omega) (by omega), hn]

/-- **What is written in UTF-8 is read back.** -/
theorem decode_encode (cs : List Char) : utf8Decode (utf8Encode cs) = cs := by
  induction cs with
  | nil => rfl
  | cons c cs ih =>
    rw [utf8Encode, List.flatMap_cons, utf8Decode, decodeFrom_encodeChar]
    exact congrArg (c :: ·) ih

/-- In bytes, too, a text falls in two in front of its last character. -/
theorem splitAt_encode {cs : List Char} {c : Char} (h : cs.getLast? = some c) :
    (utf8Encode cs).splitAt ((utf8Encode cs).length - c.utf8Size) =
      (utf8Encode cs.dropLast, utf8Encode [c]) := by
  obtain ⟨before, rfl⟩ := List.getLast?_eq_some_iff.mp h
  have hlast : (utf8Encode [c]).length = c.utf8Size := by
    rw [utf8Encode, List.flatMap_singleton, String.length_utf8EncodeChar]
  have hbytes : utf8Encode (before ++ [c]) = utf8Encode before ++ utf8Encode [c] :=
    List.flatMap_append
  rw [hbytes, List.length_append, hlast, Nat.add_sub_cancel, List.splitAt_eq, List.take_left,
    List.drop_left, List.dropLast_concat]

end BookSync.Text
