/-
# FacetedSearch.Text.Percent -- percent-encoded texts

A component of a link keeps ASCII letters, ASCII digits and `-_.!~*'()`; every other character is
written as its bytes, each as `%` and two upper-case hexadecimal digits.  Reading accepts digits of
either case and any character that is not escaped; a `%` without two digits stands for itself.  What
is written reads back (`unescape_escape`).
-/
import FacetedSearch.Text.Utf8

namespace FacetedSearch.Text

set_option autoImplicit false

/-- Characters that a component keeps as they are. -/
def isPlain (c : Char) : Bool := c.isAlphanum || "-_.!~*'()".toList.contains c

/-- The upper-case hexadecimal digit of a number below sixteen. -/
def hexDigit (n : Nat) : Char := if n < 10 then Char.ofNat (48 + n) else Char.ofNat (55 + n)

/-- The value of a hexadecimal digit of either case. -/
def hexValue? (c : Char) : Option Nat :=
  if c.isDigit then some (c.toNat - 48)
  else if 65 ≤ c.toNat ∧ c.toNat ≤ 70 then some (c.toNat - 55)
  else if 97 ≤ c.toNat ∧ c.toNat ≤ 102 then some (c.toNat - 87)
  else none

/-- A byte as `%` and two digits. -/
def escapeByte (byte : UInt8) : List Char :=
  ['%', hexDigit (byte.toNat / 16), hexDigit (byte.toNat % 16)]

/-- A character of a component. -/
def escapeChar (c : Char) : List Char :=
  if isPlain c then [c] else (String.utf8EncodeChar c).flatMap escapeByte

/-- A text as a component. -/
def escape (text : List Char) : List Char := text.flatMap escapeChar

/-- The byte of two hexadecimal digits. -/
def escapedByte? (high low : Char) : Option UInt8 :=
  (hexValue? high).bind fun h => (hexValue? low).map fun l => UInt8.ofNat (h * 16 + l)

/-- The bytes that a component stands for. -/
def escapedBytes : List Char → List UInt8
  | [] => []
  | '%' :: high :: low :: rest =>
    match escapedByte? high low with
    | some byte => byte :: escapedBytes rest
    | none => String.utf8EncodeChar '%' ++ escapedBytes (high :: low :: rest)
  | c :: rest => String.utf8EncodeChar c ++ escapedBytes rest

/-- The text that a component stands for. -/
def unescape (component : List Char) : List Char := ofBytes (escapedBytes component)

/-! ## Reading what is written -/

theorem hexValue?_hexDigit {n : Nat} (h : n < 16) : hexValue? (hexDigit n) = some n := by
  have hall : ∀ i : Fin 16, hexValue? (hexDigit i) = some i.val := by decide
  exact hall ⟨n, h⟩

theorem escapedBytes_escapeByte (byte : UInt8) (rest : List Char) :
    escapedBytes (escapeByte byte ++ rest) = byte :: escapedBytes rest := by
  have hlt : byte.toNat < 256 := byte.toNat_lt
  have hbyte : UInt8.ofNat (byte.toNat / 16 * 16 + byte.toNat % 16) = byte := by
    rw [Nat.div_add_mod' byte.toNat 16]
    exact UInt8.ofNat_toNat
  have hread :
      escapedByte? (hexDigit (byte.toNat / 16)) (hexDigit (byte.toNat % 16)) = some byte := by
    simp only [escapedByte?, hexValue?_hexDigit (show byte.toNat / 16 < 16 by omega),
      hexValue?_hexDigit (show byte.toNat % 16 < 16 by omega), Option.bind_some, Option.map_some,
      hbyte]
  simp only [escapeByte, List.cons_append, List.nil_append, escapedBytes, hread]

theorem escapedBytes_escapeBytes (bytes : List UInt8) (rest : List Char) :
    escapedBytes (bytes.flatMap escapeByte ++ rest) = bytes ++ escapedBytes rest := by
  induction bytes with
  | nil => rfl
  | cons byte bytes ih =>
    rw [List.flatMap_cons, List.append_assoc, escapedBytes_escapeByte, ih, List.cons_append]

/-- Only a percent sign begins an escape. -/
theorem escapedBytes_cons {c : Char} (h : c ≠ '%') (rest : List Char) :
    escapedBytes (c :: rest) = String.utf8EncodeChar c ++ escapedBytes rest := by
  match rest with
  | [] => simp [escapedBytes]
  | [d] => simp [escapedBytes]
  | d :: e :: rest =>
    rw [escapedBytes]
    simp [h]

theorem escapedBytes_escapeChar (c : Char) (rest : List Char) :
    escapedBytes (escapeChar c ++ rest) = String.utf8EncodeChar c ++ escapedBytes rest := by
  by_cases h : isPlain c
  · have hne : c ≠ '%' := by
      rintro rfl
      exact absurd h (by decide)
    rw [escapeChar, if_pos h, List.singleton_append, escapedBytes_cons hne]
  · rw [escapeChar, if_neg h, escapedBytes_escapeBytes]

theorem escapedBytes_escape (text : List Char) : escapedBytes (escape text) = toBytes text := by
  induction text with
  | nil => rfl
  | cons c rest ih =>
    simp only [escape, toBytes, List.flatMap_cons] at ih ⊢
    rw [escapedBytes_escapeChar, ih]

/-- A component reads as the text that it was written for. -/
theorem unescape_escape (text : List Char) : unescape (escape text) = text := by
  rw [unescape, escapedBytes_escape, ofBytes_toBytes]

end FacetedSearch.Text
