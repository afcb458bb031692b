/-
Text in UTF-8.

Reading never fails: each stretch of bytes that begins a character but breaks
off, and each byte that begins none, becomes one replacement character.

* **`utf8Encode`** writes characters;
* **`utf8Decode`** reads bytes, one at a time, remembering the character that
  has been begun.
-/

namespace BookSync.Text

/-- The bytes of a text. -/
def utf8Encode (cs : List Char) : List UInt8 := cs.flatMap String.utf8EncodeChar

/-- What is read where the bytes make no sense. -/
def replacement : Char := '\ufffd'

/-- A character that has been begun. -/
structure Begun where
  /-- The bits read so far. -/
  bits : Nat
  /-- How many bytes are still to come. -/
  missing : Nat
  /-- The least value of the next byte. -/
  lo : Nat
  /-- The greatest value of the next byte. -/
  hi : Nat

/-- Begin a character with its first byte, unless the byte is all of it or
begins none. The bounds of the second byte rule out detours, surrogates and
what lies beyond the last code point. -/
def begin? (b : Nat) : Except Char Begun :=
  if b < 0x80 then .error (Char.ofNat b)
  else if b < 0xc2 then .error replacement
  else if b < 0xe0 then .ok ⟨b - 0xc0, 1, 0x80, 0xbf⟩
  else if b = 0xe0 then .ok ⟨0, 2, 0xa0, 0xbf⟩
  else if b = 0xed then .ok ⟨0xd, 2, 0x80, 0x9f⟩
  else if b < 0xf0 then .ok ⟨b - 0xe0, 2, 0x80, 0xbf⟩
  else if b = 0xf0 then .ok ⟨0, 3, 0x90, 0xbf⟩
  else if b < 0xf4 then .ok ⟨b - 0xf0, 3, 0x80, 0xbf⟩
  else if b = 0xf4 then .ok ⟨4, 3, 0x80, 0x8f⟩
  else .error replacement

/-- Read bytes; `begun` is the character that they go on with. -/
def utf8DecodeFrom : Option Begun → List UInt8 → List Char
  | none, [] => []
  | some _, [] => [replacement]
  | none, b :: bs =>
    match begin? b.toNat with
    | .error c => c :: utf8DecodeFrom none bs
    | .ok begun => utf8DecodeFrom (some begun) bs
  | some begun, b :: bs =>
    if begun.lo ≤ b.toNat ∧ b.toNat ≤ begun.hi then
      let bits := begun.bits * 0x40 + (b.toNat - 0x80)
      if begun.missing = 1 then Char.ofNat bits :: utf8DecodeFrom none bs
      else utf8DecodeFrom (some ⟨bits, begun.missing - 1, 0x80, 0xbf⟩) bs
    else
      replacement :: match begin? b.toNat with
        | .error c => c :: utf8DecodeFrom none bs
        | .ok begun => utf8DecodeFrom (some begun) bs

/-- The text in bytes. -/
def utf8Decode (bs : List UInt8) : List Char := utf8DecodeFrom none bs

end BookSync.Text
