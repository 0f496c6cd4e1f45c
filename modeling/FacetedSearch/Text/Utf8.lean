/-
# FacetedSearch.Text.Utf8 -- texts as bytes

Characters are written as bytes by `String.utf8EncodeChar`.  Reading bytes back never fails: each
maximal run of bytes that begins a character and breaks off, and each byte that begins none, reads
as one replacement character.  The reader takes one byte at a time (`Unfinished.step`) and knows of
the character it is in only the bits so far, the number of bytes owed and the range of the next
byte.  Overlong forms, surrogates and values above U+10FFFF are excluded by those ranges.  What is
written reads back (`ofBytes_toBytes`).
-/
namespace FacetedSearch.Text

set_option autoImplicit false

def toBytes (text : List Char) : List UInt8 := text.flatMap String.utf8EncodeChar

/-- Stands for bytes that are no character. -/
def replacement : Char := '\uFFFD'

/-- A character some of whose bytes are still owed. -/
structure Unfinished where
  /-- The value of the bits read so far. -/
  bits : Nat
  /-- How many bytes are owed after the next one. -/
  owed : Nat
  /-- The least next byte. -/
  low : Nat
  /-- The greatest next byte. -/
  high : Nat
  deriving DecidableEq

namespace Unfinished

/-- What a byte that does not continue a character gives: characters, or a character begun.  The
byte after `E0`, `ED`, `F0` and `F4` is bounded more tightly than the others. -/
def begin (byte : UInt8) : List Char × Option Unfinished :=
  let b := byte.toNat
  if b < 0x80 then ([Char.ofNat b], none)
  else if 0xC2 ≤ b ∧ b ≤ 0xDF then ([], some ⟨b - 0xC0, 0, 0x80, 0xBF⟩)
  else if 0xE0 ≤ b ∧ b ≤ 0xEF then
    ([], some ⟨b - 0xE0, 1, if b = 0xE0 then 0xA0 else 0x80, if b = 0xED then 0x9F else 0xBF⟩)
  else if 0xF0 ≤ b ∧ b ≤ 0xF4 then
    ([], some ⟨b - 0xF0, 2, if b = 0xF0 then 0x90 else 0x80, if b = 0xF4 then 0x8F else 0xBF⟩)
  else ([replacement], none)

/-- What a byte in the range gives: the character, or one byte less owed. -/
def extend (u : Unfinished) (byte : UInt8) : List Char × Option Unfinished :=
  let bits := u.bits * 64 + (byte.toNat - 0x80)
  match u.owed with
  | 0 => ([Char.ofNat bits], none)
  | owed + 1 => ([], some ⟨bits, owed, 0x80, 0xBF⟩)

/-- What the next byte gives.  A byte out of range ends the character and begins anew. -/
def step : Option Unfinished → UInt8 → List Char × Option Unfinished
  | none, byte => begin byte
  | some u, byte =>
    if u.low ≤ byte.toNat ∧ byte.toNat ≤ u.high then u.extend byte
    else (replacement :: (begin byte).1, (begin byte).2)

end Unfinished

/-- The text of the bytes that follow an unfinished character. -/
def ofBytesFrom : Option Unfinished → List UInt8 → List Char
  | none, [] => []
  | some _, [] => [replacement]
  | state, byte :: bytes =>
    (Unfinished.step state byte).1 ++ ofBytesFrom (Unfinished.step state byte).2 bytes

/-- The text of any bytes. -/
def ofBytes (bytes : List UInt8) : List Char := ofBytesFrom none bytes

/-! ## Reading what is written -/

namespace Unfinished

theorem toNat_ofNat {n : Nat} (h : n < 256) : (UInt8.ofNat n).toNat = n :=
  UInt8.toNat_ofNat_of_lt h

theorem begin_one {n : Nat} (hn : n < 0x80) :
    begin (UInt8.ofNat n) = ([Char.ofNat n], none) := by
  simp only [begin, toNat_ofNat (show n < 256 by omega)]
  rw [if_pos hn]

theorem begin_two {n : Nat} (hlow : 2 ≤ n) (hn : n < 32) :
    begin (UInt8.ofNat (n + 0xC0)) = ([], some ⟨n, 0, 0x80, 0xBF⟩) := by
  simp only [begin, toNat_ofNat (show n + 0xC0 < 256 by omega)]
  rw [if_neg (by omega), if_pos (by omega), Nat.add_sub_cancel]

theorem begin_three {n : Nat} (hn : n < 16) :
    begin (UInt8.ofNat (n + 0xE0)) =
      ([], some ⟨n, 1, if n = 0 then 0xA0 else 0x80, if n = 13 then 0x9F else 0xBF⟩) := by
  simp only [begin, toNat_ofNat (show n + 0xE0 < 256 by omega)]
  rw [if_neg (by omega), if_neg (by omega), if_pos (by omega), Nat.add_sub_cancel]
  simp

theorem begin_four {n : Nat} (hn : n < 5) :
    begin (UInt8.ofNat (n + 0xF0)) =
      ([], some ⟨n, 2, if n = 0 then 0x90 else 0x80, if n = 4 then 0x8F else 0xBF⟩) := by
  simp only [begin, toNat_ofNat (show n + 0xF0 < 256 by omega)]
  rw [if_neg (by omega), if_neg (by omega), if_neg (by omega), if_pos (by omega),
    Nat.add_sub_cancel]
  simp

/-- A byte in the range completes a character to which no other is owed. -/
theorem step_last {bits low high n : Nat} (hlow : low ≤ n + 0x80) (hhigh : n + 0x80 ≤ high)
    (hn : n < 64) :
    step (some ⟨bits, 0, low, high⟩) (UInt8.ofNat (n + 0x80)) =
      ([Char.ofNat (bits * 64 + n)], none) := by
  simp only [step, extend, toNat_ofNat (show n + 0x80 < 256 by omega)]
  rw [if_pos ⟨hlow, hhigh⟩, Nat.add_sub_cancel]

/-- A byte in the range goes on with a character to which others are owed. -/
theorem step_more {bits owed low high n : Nat} (hlow : low ≤ n + 0x80) (hhigh : n + 0x80 ≤ high)
    (hn : n < 64) :
    step (some ⟨bits, owed + 1, low, high⟩) (UInt8.ofNat (n + 0x80)) =
      ([], some ⟨bits * 64 + n, owed, 0x80, 0xBF⟩) := by
  simp only [step, extend, toNat_ofNat (show n + 0x80 < 256 by omega)]
  rw [if_pos ⟨hlow, hhigh⟩, Nat.add_sub_cancel]

end Unfinished

theorem ofBytesFrom_cons (state : Option Unfinished) (byte : UInt8) (bytes : List UInt8) :
    ofBytesFrom state (byte :: bytes) =
      (Unfinished.step state byte).1 ++ ofBytesFrom (Unfinished.step state byte).2 bytes := by
  cases state <;> rfl

/-- The bytes of a character read as that character, whatever follows. -/
theorem ofBytesFrom_utf8EncodeChar (c : Char) (rest : List UInt8) :
    ofBytesFrom none (String.utf8EncodeChar c ++ rest) = c :: ofBytesFrom none rest := by
  have hvalid : c.toNat < 0xD800 ∨ 0xDFFF < c.toNat ∧ c.toNat < 0x110000 := c.valid
  have hchar : Char.ofNat c.toNat = c := Char.ofNat_toNat c
  have hval : c.val.toNat = c.toNat := rfl
  have hbegin : Unfinished.step none = Unfinished.begin := rfl
  generalize c.toNat = n at hvalid hchar hval
  simp only [String.utf8EncodeChar, hval]
  split
  · simp only [List.cons_append, List.nil_append, ofBytesFrom_cons, hbegin]
    rw [Unfinished.begin_one (by omega), hchar]
    rfl
  · split
    · have hbits : n / 64 % 32 * 64 + n % 64 = n := by omega
      simp only [List.cons_append, List.nil_append, ofBytesFrom_cons, hbegin]
      rw [Unfinished.begin_two (by omega) (by omega)]
      simp only [List.nil_append]
      rw [Unfinished.step_last (by omega) (by omega) (by omega), hbits, hchar]
      rfl
    · split
      · have hbits : (n / 4096 % 16 * 64 + n / 64 % 64) * 64 + n % 64 = n := by omega
        simp only [List.cons_append, List.nil_append, ofBytesFrom_cons, hbegin]
        rw [Unfinished.begin_three (by omega)]
        simp only [List.nil_append]
        rw [Unfinished.step_more (by split <;> omega) (by split <;> omega) (by omega)]
        simp only [List.nil_append]
        rw [Unfinished.step_last (by omega) (by omega) (by omega), hbits, hchar]
        rfl
      · have hbits :
            ((n / 262144 % 8 * 64 + n / 4096 % 64) * 64 + n / 64 % 64) * 64 + n % 64 = n := by
          omega
        simp only [List.cons_append, List.nil_append, ofBytesFrom_cons, hbegin]
        rw [Unfinished.begin_four (by omega)]
        simp only [List.nil_append]
        rw [Unfinished.step_more (by split <;> omega) (by split <;> omega) (by omega)]
        simp only [List.nil_append]
        rw [Unfinished.step_more (by omega) (by omega) (by omega)]
        simp only [List.nil_append]
        rw [Unfinished.step_last (by omega) (by omega) (by omega), hbits, hchar]
        rfl

/-- Bytes that a text was written to read as that text. -/
theorem ofBytes_toBytes (text : List Char) : ofBytes (toBytes text) = text := by
  induction text with
  | nil => rfl
  | cons c rest ih =>
    simp only [ofBytes, toBytes, List.flatMap_cons] at ih ⊢
    rw [ofBytesFrom_utf8EncodeChar, ih]

end FacetedSearch.Text
