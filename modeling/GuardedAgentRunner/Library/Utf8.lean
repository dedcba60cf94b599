/-
This file develops the two ways a program turns bytes into characters. A lossy
decoder replaces every byte that starts no character; a strict one refuses bytes
that are not the encoding of the characters the lossy one finds. Both give back
the characters of an encoded text.
-/

import Mathlib.Data.List.Basic

namespace Utf8

/-- The bytes of a text. -/
def encode (characters : List Char) : List UInt8 := characters.flatMap String.utf8EncodeChar

/-- The character at the front of the bytes. -/
def first? (bytes : List UInt8) : Option Char := (bytes.take 4).toByteArray.utf8DecodeChar? 0

/-- Decode after skipping the rest of a character. -/
def decodeFrom : Nat → List UInt8 → List Char
  | _, [] => []
  | skipped + 1, _ :: rest => decodeFrom skipped rest
  | 0, byte :: rest =>
    match first? (byte :: rest) with
    | some character => character :: decodeFrom (character.utf8Size - 1) rest
    | none => '�' :: decodeFrom 0 rest

/-- The characters of the bytes, with one replacement for every byte that starts none. -/
def decodeLossy (bytes : List UInt8) : List Char := decodeFrom 0 bytes

/-- The characters of the bytes, if the bytes are their encoding. -/
def decode? (bytes : List UInt8) : Option (List Char) :=
  if encode (decodeLossy bytes) = bytes then some (decodeLossy bytes) else none

theorem encode_append (first second : List Char) :
    encode (first ++ second) = encode first ++ encode second := List.flatMap_append

theorem utf8ByteSize_eq (text : String) : text.utf8ByteSize = (encode text.toList).length := by
  have bytes : ∀ characters : List Char,
      (String.ofList characters).utf8ByteSize = (encode characters).length := fun characters =>
    List.size_toByteArray
  rw [← bytes, String.ofList_toList]

theorem first?_encode (character : Char) (rest : List UInt8) :
    first? (String.utf8EncodeChar character ++ rest) = some character := by
  have short : (String.utf8EncodeChar character).length ≤ 4 := by
    rw [String.length_utf8EncodeChar]
    exact character.utf8Size_le_four
  rw [first?, List.take_append, List.take_of_length_le short, List.toByteArray_append]
  exact ByteArray.utf8DecodeChar?_utf8EncodeChar_append

theorem decodeFrom_length (skipped rest : List UInt8) :
    decodeFrom skipped.length (skipped ++ rest) = decodeFrom 0 rest := by
  induction skipped with
  | nil => rfl
  | cons byte skipped hypothesis => exact hypothesis

@[simp] theorem decodeLossy_encode (characters : List Char) :
    decodeLossy (encode characters) = characters := by
  induction characters with
  | nil => rfl
  | cons character characters hypothesis =>
    have first := first?_encode character (encode characters)
    have size := String.length_utf8EncodeChar character
    rw [encode, List.flatMap_cons, decodeLossy]
    cases word : String.utf8EncodeChar character with
    | nil => exact absurd word String.utf8EncodeChar_ne_nil
    | cons byte others =>
      rw [word, List.length_cons] at size
      rw [word, List.cons_append] at first
      have skipped : character.utf8Size - 1 = others.length := by omega
      rw [List.cons_append, decodeFrom, show characters.flatMap String.utf8EncodeChar =
        encode characters from rfl, first]
      show character :: decodeFrom (character.utf8Size - 1) (others ++ encode characters) = _
      rw [skipped, decodeFrom_length]
      exact congrArg (character :: ·) hypothesis

@[simp] theorem decode?_encode (characters : List Char) :
    decode? (encode characters) = some characters := by
  rw [decode?, decodeLossy_encode, if_pos rfl]

theorem decodeLossy_of_decode? {bytes : List UInt8} {characters : List Char}
    (decoded : decode? bytes = some characters) : decodeLossy bytes = characters := by
  rw [decode?] at decoded
  split at decoded
  · exact Option.some.inj decoded
  · exact absurd decoded (Option.some_ne_none _).symm

example : decodeLossy [0x61, 0xC3, 0xA9, 0xFF, 0xC3] = ['a', 'é', '�', '�'] := by
  decide +kernel

end Utf8
