/-
# FacetedSearch.Proofs.Json.Spelling -- the texts of a JSON document

One document has many texts: white space stands anywhere between tokens, a character of a string
stands for itself or is escaped in one of several ways, and a number may have a fraction and an
exponent.  A `Spelling` is a JSON value together with all these choices.  It follows the grammar of
JSON and nothing else, without the lexer: `Spelling.chars` is the text and `Spelling.document` what
the text says.  Every part carries what the grammar asks of it, so there are no spellings of broken
texts.

Strings and numbers say less than they hold.  A string has a text only if its escapes write no half
of a surrogate pair alone (`Piece.text?`), and a number has an integer only if it is written as one,
which `-0` is not (`Numeric.integer?`).
-/
import FacetedSearch.Json.Document
import FacetedSearch.Json.Value

namespace FacetedSearch.Json

set_option autoImplicit false

/-- White space between two tokens. -/
structure Gap where
  chars : List Char := []
  spaces : chars.all isSpace = true := by decide

def Gap.none : Gap := {}

/-! ## Numbers -/

/-- One or more digits, which may begin with zeros. -/
structure Digits where
  chars : List Char
  numeral : Text.isNumeral chars = true := by decide

/-- The exponent of a number. -/
structure Exponent where
  /-- `e` or `E`. -/
  mark : Char
  /-- `+`, `-` or nothing. -/
  sign? : Option Char
  digits : Digits
  marks : mark = 'e' ∨ mark = 'E' := by decide
  signs : ∀ sign ∈ sign?, sign = '+' ∨ sign = '-' := by decide

/-- A number as it is written.  Its whole part has no superfluous zero. -/
structure Numeric where
  negative : Bool := false
  whole : Nat
  fraction? : Option Digits := none
  exponent? : Option Exponent := none

def Exponent.chars (e : Exponent) : List Char := e.mark :: (e.sign?.toList ++ e.digits.chars)

namespace Numeric

/-- The number without its exponent and its minus sign. -/
def mantissa (n : Numeric) : List Char :=
  match n.fraction? with
  | none => Text.numeral n.whole
  | some digits => Text.numeral n.whole ++ '.' :: digits.chars

def chars (n : Numeric) : List Char :=
  (if n.negative then ['-'] else []) ++ (n.mantissa ++ (n.exponent?.map Exponent.chars).getD [])

/-- The value of a number that is written as an integer. -/
def integer? (n : Numeric) : Option Int :=
  if n.fraction?.isSome || n.exponent?.isSome || (n.negative && n.whole == 0) then none
  else some (if n.negative then -n.whole else n.whole)

end Numeric

/-! ## Strings -/

/-- A hexadecimal digit of either case. -/
structure HexDigit where
  char : Char
  value : Nat
  reads : Text.hexValue? char = some value := by decide

/-- The four digits of an escape. -/
structure CodeUnit where
  first : HexDigit
  second : HexDigit
  third : HexDigit
  fourth : HexDigit

namespace CodeUnit

def chars (u : CodeUnit) : List Char := [u.first.char, u.second.char, u.third.char, u.fourth.char]

def value (u : CodeUnit) : Nat :=
  ((u.first.value * 16 + u.second.value) * 16 + u.third.value) * 16 + u.fourth.value

/-- The first half of a surrogate pair. -/
def isHigh (u : CodeUnit) : Bool := 0xD800 ≤ u.value && u.value ≤ 0xDBFF

/-- The second half of a surrogate pair. -/
def isLow (u : CodeUnit) : Bool := 0xDC00 ≤ u.value && u.value ≤ 0xDFFF

/-- The character that the unit is by itself, which no half of a pair is. -/
def char? (u : CodeUnit) : Option Char :=
  if u.isHigh || u.isLow then none else some (Char.ofNat u.value)

/-- The character of a surrogate pair. -/
def paired (high low : CodeUnit) : Char :=
  Char.ofNat (0x10000 + (high.value - 0xD800) * 0x400 + (low.value - 0xDC00))

end CodeUnit

/-- Characters that may stand for themselves in a string. -/
def isLiteral (c : Char) : Bool := c != '"' && c != '\\' && !(c.toNat < 0x20)

/-- A character of a string as it is written, or half of one. -/
inductive Piece
  /-- The character itself. -/
  | literal (c : Char) (allowed : isLiteral c = true := by decide)
  /-- A backslash and a letter that stands for the character. -/
  | short (letter c : Char) (stands : escapedChar? letter = some c := by decide)
  /-- A backslash, the letter `u` and four digits. -/
  | unit (u : CodeUnit)

namespace Piece

def chars : Piece → List Char
  | literal c _ => [c]
  | short letter _ _ => ['\\', letter]
  | unit u => '\\' :: 'u' :: u.chars

/-- The character that the piece is by itself. -/
def char? : Piece → Option Char
  | literal c _ => some c
  | short _ c _ => some c
  | unit u => u.char?

/-- The characters that the pieces of a string stand for. -/
def text? : List Piece → Option (List Char)
  | [] => some []
  | .unit u :: .unit v :: rest =>
    if u.isHigh && v.isLow then (text? rest).map (CodeUnit.paired u v :: ·)
    else u.char?.bind fun c => (text? (.unit v :: rest)).map (c :: ·)
  | piece :: rest => piece.char?.bind fun c => (text? rest).map (c :: ·)

/-- A string with its quotes. -/
def quoted (pieces : List Piece) : List Char := '"' :: (pieces.flatMap chars ++ ['"'])

/-- What a string says. -/
def string? (pieces : List Piece) : Option String := (text? pieces).map String.ofList

end Piece

/-! ## Values -/

/-- The name of a member, with the white space around it. -/
structure Name where
  before : Gap := .none
  pieces : List Piece
  after : Gap := .none

def Name.chars (n : Name) : List Char := n.before.chars ++ (Piece.quoted n.pieces ++ n.after.chars)

/-- A JSON value as it is written. -/
inductive Spelling
  | null
  | boolean (value : Bool)
  | number (n : Numeric)
  | string (pieces : List Piece)
  | array (gap : Gap) (items : List Spelling)
  | object (gap : Gap) (members : List (Name × Spelling))
  /-- The value with white space around it. -/
  | spaced (before : Gap) (value : Spelling) (after : Gap)

namespace Spelling

mutual

/-- The text of a value. -/
def chars : Spelling → List Char
  | null => "null".toList
  | boolean value => Value.booleanText value
  | number n => n.chars
  | string pieces => Piece.quoted pieces
  | array gap items => '[' :: (gap.chars ++ ([','].intercalate (itemsChars items) ++ [']']))
  | object gap members =>
    '{' :: (gap.chars ++ ([','].intercalate (membersChars members) ++ ['}']))
  | spaced before value after => before.chars ++ (value.chars ++ after.chars)

/-- The texts of the items of an array. -/
def itemsChars : List Spelling → List (List Char)
  | [] => []
  | item :: rest => item.chars :: itemsChars rest

/-- The texts of the members of an object. -/
def membersChars : List (Name × Spelling) → List (List Char)
  | [] => []
  | (name, value) :: rest => (name.chars ++ ':' :: value.chars) :: membersChars rest

end

mutual

/-- What the text of a value says. -/
def document : Spelling → Document
  | null => .null
  | boolean value => .boolean value
  | number n => .number n.integer?
  | string pieces => .string (Piece.string? pieces)
  | array _ items => .array (itemsDocuments items)
  | object _ members => .object (membersDocuments members)
  | spaced _ value _ => value.document

/-- What the items of an array say. -/
def itemsDocuments : List Spelling → List Document
  | [] => []
  | item :: rest => item.document :: itemsDocuments rest

/-- What the members of an object say. -/
def membersDocuments : List (Name × Spelling) → List (Option String × Document)
  | [] => []
  | (name, value) :: rest =>
    (Piece.string? name.pieces, value.document) :: membersDocuments rest

end

end Spelling

/-! ## Plain texts -/

/-- The last digit of a number. -/
def HexDigit.ofNat (n : Nat) : HexDigit where
  char := Text.hexDigit (n % 16)
  value := n % 16
  reads := Text.hexValue?_hexDigit (Nat.mod_lt n (by decide))

/-- Below the surrogates a unit is the character of its value. -/
theorem CodeUnit.char?_of_value {u : CodeUnit} {c : Char} (value : u.value = c.toNat)
    (small : c.toNat < 0xD800) : u.char? = some c := by
  have hhigh : ¬ 0xD800 ≤ c.toNat := by omega
  have hlow : ¬ 0xDC00 ≤ c.toNat := by omega
  simp [char?, isHigh, isLow, value, hhigh, hlow]

namespace Piece

/-- The character itself where it may stand, and four digits where not. -/
def ofChar (c : Char) : Piece :=
  if allowed : isLiteral c = true then .literal c allowed
  else
    .unit ⟨.ofNat (c.toNat / 0x1000), .ofNat (c.toNat / 0x100), .ofNat (c.toNat / 0x10),
      .ofNat c.toNat⟩

def ofText (text : String) : List Piece := text.toList.map ofChar

/-- A piece that is a character by itself stands before any others. -/
theorem text?_cons_of_char? {piece : Piece} {c : Char} (h : piece.char? = some c)
    (rest : List Piece) : text? (piece :: rest) = (text? rest).map (c :: ·) := by
  generalize hlist : piece :: rest = pieces
  fun_cases text? pieces with
  | case1 => cases hlist
  | case2 u v others pair =>
      obtain ⟨rfl, rfl⟩ := List.cons.inj hlist
      have hhigh : u.isHigh = true := (Bool.and_eq_true_iff.1 pair).1
      simp [char?, CodeUnit.char?, hhigh] at h
  | case3 u v others alone =>
      obtain ⟨rfl, rfl⟩ := List.cons.inj hlist
      have hu : u.char? = some c := h
      rw [hu, Option.bind_some]
  | case4 first others other =>
      obtain ⟨rfl, rfl⟩ := List.cons.inj hlist
      rw [h, Option.bind_some]

theorem char?_ofChar (c : Char) : (ofChar c).char? = some c := by
  unfold ofChar
  split
  · rfl
  · rename_i escaped
    have hlow : c.toNat < 0x80 := by
      by_cases hquote : c = '"'
      · rw [hquote]
        decide
      · by_cases hslash : c = '\\'
        · rw [hslash]
          decide
        · have hcontrol : c.toNat < 0x20 := by simpa [isLiteral, hquote, hslash] using escaped
          omega
    have hvalue : (CodeUnit.value ⟨.ofNat (c.toNat / 0x1000), .ofNat (c.toNat / 0x100),
        .ofNat (c.toNat / 0x10), .ofNat c.toNat⟩) = c.toNat := by
      simp only [CodeUnit.value, HexDigit.ofNat]
      omega
    exact CodeUnit.char?_of_value hvalue (by omega)

theorem string?_ofText (text : String) : string? (ofText text) = some text := by
  have htext : ∀ chars : List Char, text? (chars.map ofChar) = some chars := by
    intro chars
    induction chars with
    | nil => rfl
    | cons c rest ih =>
        rw [List.map_cons, text?_cons_of_char? (char?_ofChar c), ih, Option.map_some]
  rw [string?, ofText, htext, Option.map_some, String.ofList_toList]

end Piece

namespace Spelling

/-- A text in quotes. -/
def ofText (text : String) : Spelling := .string (Piece.ofText text)

/-- An integer, with its sign if it is negative. -/
def ofInt (n : Int) : Spelling := .number { negative := decide (n < 0), whole := n.natAbs }

/-- An array without white space. -/
def ofItems (items : List Spelling) : Spelling := .array .none items

/-- An object without white space. -/
def ofMembers (members : List (String × Spelling)) : Spelling :=
  .object .none (members.map fun m => ({ pieces := Piece.ofText m.1 }, m.2))

@[simp] theorem document_ofText (text : String) : (ofText text).document = .string (some text) := by
  rw [ofText, document, Piece.string?_ofText]

@[simp] theorem document_ofInt (n : Int) : (ofInt n).document = .number (some n) := by
  have hzero : (decide (n < 0) && n.natAbs == 0) = false := by
    rw [Bool.and_eq_false_iff, decide_eq_false_iff_not, beq_eq_false_iff_ne]
    omega
  have hvalue : (if n < 0 then -(n.natAbs : Int) else n.natAbs) = n := by
    split <;> omega
  simp only [ofInt, document, Numeric.integer?, Option.isSome_none, hzero, Bool.or_false,
    Bool.false_eq_true, if_false, decide_eq_true_eq, hvalue]

theorem itemsDocuments_eq_map (items : List Spelling) :
    itemsDocuments items = items.map document := by
  induction items with
  | nil => rfl
  | cons item rest ih => rw [itemsDocuments, ih, List.map_cons]

@[simp] theorem document_ofItems (items : List Spelling) :
    (ofItems items).document = .array (items.map document) := by
  rw [ofItems, document, itemsDocuments_eq_map]

@[simp] theorem document_ofMembers (members : List (String × Spelling)) :
    (ofMembers members).document = .object (members.map fun m => (some m.1, m.2.document)) := by
  rw [ofMembers, document]
  congr 1
  induction members with
  | nil => rfl
  | cons m rest ih =>
      rw [List.map_cons, membersDocuments, Piece.string?_ofText, ih, List.map_cons]

end Spelling

end FacetedSearch.Json
