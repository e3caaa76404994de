/-
This file shows that every text can be encoded with percent escapes and decoded again.
-/

import Mathlib.Data.List.TakeWhile
import SvgComponent.Proofs.Text.Code
import SvgComponent.Proofs.Text.Scan
import SvgComponent.Query.Token

namespace SvgComponent.Query.Percent

open Text

-- A property of all members of a list is decided by the members, not by all characters.
attribute [local instance (high)] List.decidableBAll

/-- The characters that are not encoded. -/
def isPlain (c : Char) : Bool :=
  c.isAlphanum || ['-', '_', '.', '!', '~', '*', '\'', '(', ')'].contains c

/-- The digits of an escape are written in upper case. -/
def digits (byte : UInt8) : List Char :=
  (Hexadecimal.write 2 byte.toNat).map Char.toUpper

def escape (byte : UInt8) : List Char :=
  '%' :: digits byte

def encodeCharacter (c : Char) : List Char :=
  if isPlain c then [c] else (String.utf8EncodeChar c).flatMap escape

/-- Every character that is not plain is written as the escapes of its bytes. -/
def encode (text : String) : List Char :=
  text.toList.flatMap encodeCharacter

theorem digits_code : ∀ code < 256,
    let digits := (Hexadecimal.write 2 code).map Char.toUpper
    digits.length = 2 ∧ digits.all Hexadecimal.isDigit = true ∧ Hexadecimal.value digits = code ∧
      ∀ c ∈ digits, isAscii c = true ∧ c ∉ ['%', ',', '&', '=', '[', ']', '\x7b'] := by
  decide +kernel

theorem digits_mem {byte : UInt8} {c : Char} (member : c ∈ digits byte) :
    isAscii c = true ∧ c ∉ ['%', ',', '&', '=', '[', ']', '\x7b'] :=
  (digits_code byte.toNat byte.toNat_lt).2.2.2 c member

/-- The digits of an escape are read as its byte. -/
theorem read?_digits (byte : UInt8) (rest : List Char) :
    Hexadecimal.read? 2 (digits byte ++ rest) = some (byte.toNat, rest) := by
  obtain ⟨length, all, value, -⟩ := digits_code byte.toNat byte.toNat_lt
  have found := Hexadecimal.read?_append all rest
  rwa [length, value] at found

/-- More steps than characters do not change the bytes. -/
theorem bytes_enough {text : List Char} {fuel : Nat} (enough : text.length ≤ fuel) :
    bytes fuel text = bytes text.length text := by
  apply steps_enough _ _ enough
  · intro fuel
    cases fuel <;> rfl
  · intro first second c rest shorter
    simp only [bytes]
    split
    · case _ byte after found =>
        split at found
        · rw [shorter after (Hexadecimal.read?_length found)]
        · contradiction
    · rw [shorter rest (Nat.le_refl _)]

/-- A character that begins no escape is one byte. -/
theorem bytes_plain {c : Char} (other : c ≠ '%') (rest : List Char) :
    bytes (c :: rest).length (c :: rest) =
      UInt8.ofNat c.toNat :: bytes rest.length rest := by
  simp [bytes, other]

theorem bytes_escape (byte : UInt8) (rest : List Char) :
    bytes (escape byte ++ rest).length (escape byte ++ rest) = byte :: bytes rest.length rest := by
  rw [escape, List.cons_append, List.length_cons, bytes, if_pos rfl, read?_digits]
  simp only [UInt8.ofNat_toNat]
  rw [bytes_enough (by simp)]

theorem bytes_escapes (encoded : List UInt8) (rest : List Char) :
    bytes (encoded.flatMap escape ++ rest).length (encoded.flatMap escape ++ rest) =
      encoded ++ bytes rest.length rest := by
  induction encoded with
  | nil => rfl
  | cons byte encoded inductionHypothesis =>
      rw [List.flatMap_cons, List.append_assoc, bytes_escape, inductionHypothesis,
        List.cons_append]

/-- A plain character is ASCII. -/
theorem isPlain_code {c : Char} (plain : isPlain c = true) : c.toNat < 0x80 := by
  rcases Bool.or_eq_true_iff.mp plain with alphanumeric | mark
  · exact isAlphanum_code alphanumeric
  · have codes : ∀ c ∈ ['-', '_', '.', '!', '~', '*', '\'', '(', ')'], c.toNat < 0x80 := by decide
    exact codes c (List.contains_iff_mem.mp mark)

theorem isPlain_other {c : Char} (plain : isPlain c = true) :
    c ∉ ['%', ',', '&', '=', '[', ']', '\x7b'] := by
  intro member
  have marks : ∀ c ∈ ['%', ',', '&', '=', '[', ']', '\x7b'], isPlain c = false := by decide
  rw [marks c member] at plain
  contradiction

/-- An encoded text is plain ASCII without the marks of a query. -/
theorem encode_mem {text : String} {c : Char} (member : c ∈ encode text) :
    isAscii c = true ∧ c ∉ [',', '&', '=', '[', ']', '\x7b'] := by
  obtain ⟨source, -, member⟩ := List.mem_flatMap.mp member
  rw [encodeCharacter] at member
  split at member
  · case _ plain =>
      obtain rfl := List.mem_singleton.mp member
      have other := isPlain_other plain
      have code := isPlain_code plain
      refine ⟨by simpa [isAscii] using code, ?_⟩
      exact fun mark => other (List.mem_cons_of_mem _ mark)
  · obtain ⟨byte, -, member⟩ := List.mem_flatMap.mp member
    rcases List.mem_cons.mp member with rfl | digit
    · decide
    · obtain ⟨ascii, other⟩ := digits_mem digit
      exact ⟨ascii, fun mark => other (List.mem_cons_of_mem _ mark)⟩

theorem utf8EncodeChar_ascii {c : Char} (ascii : isAscii c = true) :
    String.utf8EncodeChar c = [UInt8.ofNat c.toNat] := by
  have size : c.val.toNat ≤ 127 := Nat.le_of_lt_succ (of_decide_eq_true ascii)
  rw [String.utf8EncodeChar, if_pos size]
  rfl

theorem bytes_encodeCharacter (c : Char) (rest : List Char) :
    bytes (encodeCharacter c ++ rest).length (encodeCharacter c ++ rest) =
      String.utf8EncodeChar c ++ bytes rest.length rest := by
  rw [encodeCharacter]
  split
  · case _ plain =>
      have other : c ≠ '%' := by
        rintro rfl
        contradiction
      have ascii : isAscii c = true := decide_eq_true (isPlain_code plain)
      rw [utf8EncodeChar_ascii ascii, List.singleton_append, List.singleton_append, bytes_plain other]
  · exact bytes_escapes _ rest

/-- The escapes of a text stand for its bytes. -/
theorem bytes_encode (text : List Char) :
    bytes (text.flatMap encodeCharacter).length (text.flatMap encodeCharacter) =
      text.flatMap String.utf8EncodeChar := by
  induction text with
  | nil => rfl
  | cons c text inductionHypothesis =>
      rw [List.flatMap_cons, bytes_encodeCharacter, inductionHypothesis, List.flatMap_cons]

theorem text?_utf8 (text : List Char) : text? (text.flatMap String.utf8EncodeChar) = some text := by
  have same : (⟨(text.flatMap String.utf8EncodeChar).toArray⟩ : ByteArray) =
      (String.ofList text).toByteArray := by
    rw [String.toByteArray_ofList, ByteArray.ext_iff, List.utf8Encode, List.data_toByteArray]
  rw [text?, same, String.fromUTF8?, dif_pos (String.isValidUTF8 _)]
  exact congrArg some String.toList_ofList

theorem isWellFormed_plain {text rest : List Char} (unescaped : '%' ∉ text) :
    isWellFormed (text ++ rest) = isWellFormed rest := by
  induction text with
  | nil => rfl
  | cons c text inductionHypothesis =>
      have other : c ≠ '%' := fun same => unescaped (same ▸ List.mem_cons_self)
      rw [List.cons_append, isWellFormed, inductionHypothesis fun member =>
        unescaped (List.mem_cons_of_mem c member)]
      simp [other]

theorem isWellFormed_escapes (encoded : List UInt8) (rest : List Char) :
    isWellFormed (encoded.flatMap escape ++ rest) = isWellFormed rest := by
  induction encoded with
  | nil => rfl
  | cons byte encoded inductionHypothesis =>
      have unescaped : '%' ∉ digits byte := fun member =>
        (digits_mem member).2 List.mem_cons_self
      rw [List.flatMap_cons, List.append_assoc, escape, List.cons_append, isWellFormed,
        read?_digits, isWellFormed_plain unescaped, inductionHypothesis]
      rfl

theorem isWellFormed_encode (text : List Char) :
    isWellFormed (text.flatMap encodeCharacter) = true := by
  induction text with
  | nil => rfl
  | cons c text inductionHypothesis =>
      rw [List.flatMap_cons, encodeCharacter]
      split
      · case _ plain =>
          have unescaped : '%' ∉ [c] := by
            rw [List.mem_singleton]
            rintro rfl
            contradiction
          rw [isWellFormed_plain unescaped, inductionHypothesis]
      · rw [isWellFormed_escapes, inductionHypothesis]

/-- ASCII text is decoded in one run. -/
theorem decodeRuns?_ascii {text : List Char} (ascii : ∀ c ∈ text, isAscii c = true) :
    decodeRuns? text.length text = text? (bytes text.length text) := by
  cases text with
  | nil => rfl
  | cons c rest =>
      have run : (c :: rest).takeWhile isAscii = c :: rest := List.takeWhile_eq_self_iff.mpr ascii
      have nothing : (c :: rest).dropWhile isAscii = [] := List.dropWhile_eq_nil_iff.mpr ascii
      have ended : decodeRuns? rest.length [] = some [] := by cases rest.length <;> rfl
      simp only [List.length_cons, decodeRuns?, if_pos (ascii c List.mem_cons_self), run, nothing,
        ended]
      cases text? (bytes (rest.length + 1) (c :: rest)) <;> simp

/-- Decoding gives back every text that has been encoded. -/
theorem decode_encode (text : String) : decode (encode text) = .ok text.toList := by
  have decoded : decodeRuns? (encode text).length (encode text) = some text.toList := by
    rw [decodeRuns?_ascii fun c member => (encode_mem member).1, encode, bytes_encode, text?_utf8]
  rw [decode, decoded, encode, if_pos (isWellFormed_encode _)]

end Percent

/-- A component that has been encoded is decoded to its text. -/
theorem decode_encode (text : String) : decode (Percent.encode text) = .ok text := by
  rw [decode, Percent.decode_encode]
  exact congrArg Except.ok String.ofList_toList

end SvgComponent.Query
