/-
Pairs in a query are read back as they were written.

A name or value is written in letters, digits, a few marks, plus signs and percent
signs. The signs that divide pairs, names and values are not among them, whatever the
text is.

* `decode_encodeByte`, `decode_cons_of_ne`: percent encoding is undone byte by byte;
* `Form.decodeText_encodeText`: a name or value is read back, through UTF-8;
* `Form.mem_encodeText`: and written in the characters above;
* `Form.decode_encode`: so any list of pairs is read back, in its order.
-/
import BookSync.Proofs.Text.Parts
import BookSync.Proofs.Text.Utf8
import BookSync.Url.Form

namespace BookSync.Url

namespace Percent

/-- An upper case hexadecimal digit is read back. -/
theorem hexDigit?_hexDigit : ∀ n < 16, Text.hexDigit? (hexDigit n) = some n := by
  decide

theorem isAlphanum_hexDigit : ∀ n < 16, (hexDigit n).isAlphanum = true := by
  decide

/-- An encoded byte is read back, whatever follows it. -/
theorem decode_encodeByte (b : UInt8) (cs : List Char) :
    decode (encodeByte b ++ cs) = b :: decode cs := by
  have hb := b.toNat_lt
  have hbyte : b.toNat / 16 * 16 + b.toNat % 16 = b.toNat := by omega
  show decode ('%' :: hexDigit (b.toNat / 16) :: hexDigit (b.toNat % 16) :: cs) = _
  rw [decode, hexDigit?_hexDigit _ (by omega), hexDigit?_hexDigit _ (by omega)]
  dsimp only
  rw [hbyte, UInt8.ofNat_toNat]

theorem decode_encodeBytes (bs : List UInt8) (cs : List Char) :
    decode (bs.flatMap encodeByte ++ cs) = bs ++ decode cs := by
  induction bs with
  | nil => rfl
  | cons b bs ih =>
    rw [List.flatMap_cons, List.append_assoc, decode_encodeByte, ih, List.cons_append]

/-- Only a percent sign stands for anything but itself. -/
theorem decode_cons_of_ne {c : Char} (h : c ≠ '%') (cs : List Char) :
    decode (c :: cs) = String.utf8EncodeChar c ++ decode cs := by
  rw [decode]
  rintro a b rest rfl
  exact absurd rfl h

theorem decode_of_not_mem {cs : List Char} (h : '%' ∉ cs) : decode cs = Text.utf8Encode cs := by
  induction cs with
  | nil => rfl
  | cons c cs ih =>
    rw [List.mem_cons, not_or] at h
    rw [decode_cons_of_ne (Ne.symm h.1), ih h.2]
    rfl

/-- A text without percent signs stands for itself. -/
theorem utf8Decode_decode {cs : List Char} (h : '%' ∉ cs) : Text.utf8Decode (decode cs) = cs := by
  rw [decode_of_not_mem h, Text.decode_encode]

theorem mem_encodeByte {b : UInt8} {c : Char} (h : c ∈ encodeByte b) :
    c = '%' ∨ c.isAlphanum = true := by
  have hb := b.toNat_lt
  simp only [encodeByte, List.mem_cons, List.not_mem_nil, or_false] at h
  rcases h with rfl | rfl | rfl
  · exact Or.inl rfl
  · exact Or.inr (isAlphanum_hexDigit _ (by omega))
  · exact Or.inr (isAlphanum_hexDigit _ (by omega))

end Percent

namespace Form

/-! ### The characters of a name or value -/

/-- The characters that names and values are written in. -/
def IsWritten (c : Char) : Prop := isSafe c = true ∨ c = '+' ∨ c = '%'

theorem isSafe_of_isAlphanum {c : Char} (h : c.isAlphanum = true) : isSafe c = true := by
  simp [isSafe, h]

theorem mem_encodeBytes {bs : List UInt8} {c : Char}
    (h : c ∈ bs.flatMap Percent.encodeByte) : c = '%' ∨ isSafe c = true := by
  obtain ⟨b, -, hc⟩ := List.mem_flatMap.mp h
  exact (Percent.mem_encodeByte hc).imp_right isSafe_of_isAlphanum

theorem mem_encodeText {s : String} {c : Char} (h : c ∈ encodeText s) : IsWritten c := by
  obtain ⟨d, -, hc⟩ := List.mem_flatMap.mp h
  rw [encodeChar] at hc
  split at hc
  · rename_i hsafe
    obtain rfl := List.mem_singleton.mp hc
    exact Or.inl hsafe
  · split at hc
    · exact Or.inr (Or.inl (List.mem_singleton.mp hc))
    · rcases mem_encodeBytes hc with hpercent | hsafe
      · exact Or.inr (Or.inr hpercent)
      · exact Or.inl hsafe

/-- The signs that divide pairs, names and values, and the one that ends a query, are
not among them. -/
theorem not_isWritten : ¬ IsWritten '&' ∧ ¬ IsWritten '=' ∧ ¬ IsWritten '#' := by
  simp only [IsWritten]
  decide

/-! ### Reading back -/

/-- A plus sign stands for a space. -/
def unplus (c : Char) : Char := if c = '+' then ' ' else c

theorem unplus_of_ne {c : Char} (h : c ≠ '+') : unplus c = c := if_neg h

theorem map_unplus_encodeBytes (bs : List UInt8) :
    (bs.flatMap Percent.encodeByte).map unplus = bs.flatMap Percent.encodeByte := by
  refine (List.map_congr_left fun c hc => ?_).trans (List.map_id _)
  refine unplus_of_ne ?_
  rintro rfl
  rcases mem_encodeBytes hc with h | h <;> exact absurd h (by decide)

/-- A character is read back as its bytes, whatever follows it. -/
theorem decode_encodeChar (c : Char) (cs : List Char) :
    Percent.decode ((encodeChar c).map unplus ++ cs) =
      String.utf8EncodeChar c ++ Percent.decode cs := by
  rw [encodeChar]
  split
  · -- a safe character is neither of the two that are read as something else
    rename_i hsafe
    have hplus : c ≠ '+' := by
      rintro rfl
      exact absurd hsafe (by decide)
    have hpercent : c ≠ '%' := by
      rintro rfl
      exact absurd hsafe (by decide)
    rw [List.map_singleton, unplus_of_ne hplus]
    exact Percent.decode_cons_of_ne hpercent cs
  · split
    · rename_i hspace
      subst hspace
      exact Percent.decode_cons_of_ne (by decide) cs
    · rw [map_unplus_encodeBytes, Percent.decode_encodeBytes]

/-- **A name or value is read back**, whatever characters it has. -/
theorem decodeText_encodeText (s : String) : decodeText (encodeText s) = s := by
  have hbytes (cs : List Char) :
      Percent.decode ((cs.flatMap encodeChar).map unplus) = Text.utf8Encode cs := by
    induction cs with
    | nil => rfl
    | cons c cs ih =>
      rw [List.flatMap_cons, List.map_append, decode_encodeChar, ih]
      rfl
  show String.ofList (Text.utf8Decode
    (Percent.decode ((s.toList.flatMap encodeChar).map unplus))) = s
  rw [hbytes, Text.decode_encode, String.ofList_toList]

theorem decodePair_encodePair (p : String × String) : decodePair (encodePair p) = p := by
  have hequals : '=' ∉ encodeText p.1 := fun h => not_isWritten.2.1 (mem_encodeText h)
  rw [decodePair, encodePair, Text.splitAtFirst?_append hequals]
  dsimp only
  rw [decodeText_encodeText, decodeText_encodeText]

theorem mem_encodePair {p : String × String} {c : Char} (h : c ∈ encodePair p) :
    IsWritten c ∨ c = '=' := by
  rw [encodePair, List.mem_append, List.mem_cons] at h
  rcases h with h | h | h
  · exact Or.inl (mem_encodeText h)
  · exact Or.inr h
  · exact Or.inl (mem_encodeText h)

theorem not_mem_encodePair (p : String × String) : '&' ∉ encodePair p := by
  intro h
  rcases mem_encodePair h with h | h
  · exact not_isWritten.1 h
  · exact absurd h (by decide)

/-- **Pairs are read back**, all of them and in their order. -/
theorem decode_encode (ps : List (String × String)) : decode (encode ps) = ps := by
  cases ps with
  | nil => rfl
  | cons p ps =>
    have hparts : ∀ part ∈ (p :: ps).map encodePair, '&' ∉ part :=
      List.forall_mem_map.mpr fun p _ => not_mem_encodePair p
    have hkept : ((p :: ps).map encodePair).filter (fun part => !part.isEmpty) =
        (p :: ps).map encodePair := by
      -- every pair has an equals sign
      rw [List.filter_eq_self]
      refine List.forall_mem_map.mpr fun p _ => ?_
      simp [encodePair]
    rw [decode, encode, Text.splitOn_join hparts (by simp), hkept, List.map_map]
    exact List.map_id'' decodePair_encodePair (p :: ps)

/-- What pairs are written in: names and values with equals signs, and signs between
them. -/
theorem mem_encode {ps : List (String × String)} {c : Char} (h : c ∈ encode ps) :
    IsWritten c ∨ c = '=' ∨ c = '&' := by
  rcases Text.mem_join h with hsep | ⟨part, hpart, hc⟩
  · exact Or.inr (Or.inr hsep)
  · obtain ⟨p, -, rfl⟩ := List.mem_map.mp hpart
    exact (mem_encodePair hc).imp_right Or.inl

/-- Nothing that is written in pairs ends the query. -/
theorem not_mem_encode (ps : List (String × String)) : '#' ∉ encode ps := by
  intro h
  rcases mem_encode h with h | h | h
  · exact not_isWritten.2.2 h
  · exact absurd h (by decide)
  · exact absurd h (by decide)

/-- Different pairs are written differently. -/
theorem encode_injective : Function.Injective encode :=
  Function.LeftInverse.injective decode_encode

end Form

end BookSync.Url
