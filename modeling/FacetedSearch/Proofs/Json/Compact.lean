/-
# FacetedSearch.Proofs.Json.Compact -- compact texts are read back

The compact text of a value is a text of JSON like any other: each of its strings is a sequence of
pieces, its numbers are written as integers, and nothing stands between the tokens
(`exists_spelling`).  So the reader takes it to its end and keeps every string and every number of
it (`read_compact`), and no two values have one compact text (`Value.compact_injective`).
-/
import FacetedSearch.Proofs.Json.Reading

namespace FacetedSearch.Json

set_option autoImplicit false

namespace Document

mutual

/-- The value that a document holds, if all its strings have a text and all its numbers are
integers. -/
def value? : Document → Option Value
  | null => some .null
  | boolean value => some (.boolean value)
  | number integer => integer.map .number
  | string text => text.map .string
  | array items => (values? items).map .array
  | object members => (members? members).map .object

/-- The values that documents hold, if all of them do. -/
def values? : List Document → Option (List Value)
  | [] => some []
  | item :: rest => do return (← item.value?) :: (← values? rest)

/-- The members that documents hold under their names, if all of them do. -/
def members? : List (Option String × Document) → Option (List (String × Value))
  | [] => some []
  | (name, value) :: rest => do return (← name, ← value.value?) :: (← members? rest)

end

end Document

/-! ## Strings -/

theorem hexValue?_digitChar {n : Nat} (small : n < 16) :
    Text.hexValue? (Nat.digitChar n) = some n := by
  have all : ∀ i : Fin 16, Text.hexValue? (Nat.digitChar i) = some i.val := by decide
  exact all ⟨n, small⟩

namespace Piece

/-- An escaped character is one piece. -/
theorem exists_piece (c : Char) :
    ∃ piece : Piece, piece.chars = escapeChar c ∧ piece.char? = some c := by
  fun_cases escapeChar c with
  | case1 => exact ⟨.short '"' '"', rfl, rfl⟩
  | case2 => exact ⟨.short '\\' '\\', rfl, rfl⟩
  | case3 => exact ⟨.short 'b' '\x08', rfl, rfl⟩
  | case4 => exact ⟨.short 't' '\t', rfl, rfl⟩
  | case5 => exact ⟨.short 'n' '\n', rfl, rfl⟩
  | case6 => exact ⟨.short 'f' '\x0c', rfl, rfl⟩
  | case7 => exact ⟨.short 'r' '\r', rfl, rfl⟩
  | case8 c _ _ _ _ _ _ _ control =>
      let zero : HexDigit := ⟨'0', 0, rfl⟩
      let high : HexDigit := ⟨_, c.toNat / 16, hexValue?_digitChar (by omega)⟩
      let low : HexDigit := ⟨_, c.toNat % 16, hexValue?_digitChar (by omega)⟩
      have value : CodeUnit.value ⟨zero, zero, high, low⟩ = c.toNat := by
        simp only [CodeUnit.value, zero, high, low]
        omega
      exact ⟨.unit ⟨zero, zero, high, low⟩, rfl, CodeUnit.char?_of_value value (by omega)⟩
  | case9 c quote slash _ _ _ _ _ visible =>
      have allowed : isLiteral c = true := by
        simp [isLiteral, show c ≠ '"' from quote, show c ≠ '\\' from slash, visible]
      exact ⟨.literal c allowed, rfl, rfl⟩

theorem exists_pieces_of_chars (chars : List Char) :
    ∃ pieces,
      pieces.flatMap Piece.chars = chars.flatMap escapeChar ∧ text? pieces = some chars := by
  induction chars with
  | nil => exact ⟨[], rfl, rfl⟩
  | cons c rest ih =>
      obtain ⟨piece, hchars, hchar⟩ := exists_piece c
      obtain ⟨pieces, hrest, htext⟩ := ih
      refine ⟨piece :: pieces, ?_, ?_⟩
      · rw [List.flatMap_cons, List.flatMap_cons, hchars, hrest]
      · rw [text?_cons_of_char? hchar, htext, Option.map_some]

/-- A text in quotes is a string that says the text. -/
theorem exists_pieces (text : String) :
    ∃ pieces, quoted pieces = quote text ∧ string? pieces = some text := by
  obtain ⟨pieces, hchars, htext⟩ := exists_pieces_of_chars text.toList
  refine ⟨pieces, ?_, ?_⟩
  · rw [quoted, quote, hchars]
    rfl
  · rw [string?, htext, Option.map_some, String.ofList_toList]

end Piece

/-! ## Values -/

namespace Value

/-- The text of a member. -/
def memberChars (m : String × Value) : List Char := quote m.1 ++ ':' :: m.2.compact

theorem compactItems_false (items : List Value) :
    compactItems false items = (items.map compact).flatMap ([','] ++ ·) := by
  induction items with
  | nil => rfl
  | cons item rest ih => simp [compactItems, ih]

theorem compactMembers_false (members : List (String × Value)) :
    compactMembers false members = (members.map memberChars).flatMap ([','] ++ ·) := by
  induction members with
  | nil => rfl
  | cons m rest ih => simp [compactMembers, memberChars, ih]

/-- The items of an array are joined with commas. -/
theorem compactItems_true (items : List Value) :
    compactItems true items = [','].intercalate (items.map compact) := by
  cases items with
  | nil => rfl
  | cons item rest =>
      rw [compactItems, compactItems_false, List.map_cons, Text.intercalate_cons_flatMap]
      rfl

/-- The members of an object are joined with commas. -/
theorem compactMembers_true (members : List (String × Value)) :
    compactMembers true members = [','].intercalate (members.map memberChars) := by
  cases members with
  | nil => rfl
  | cons m rest =>
      rw [compactMembers, compactMembers_false, List.map_cons, Text.intercalate_cons_flatMap,
        memberChars]
      rfl

open Spelling (itemsChars membersChars itemsDocuments membersDocuments)
open Document (value? values? members?)

theorem chars_ofInt (n : Int) : (Spelling.ofInt n).chars = Text.signedNumeral n := by
  rw [Spelling.ofInt, Spelling.chars, Numeric.chars, Numeric.mantissa]
  cases n with
  | ofNat n => simp [Text.signedNumeral]
  | negSucc n => simp [Int.negSucc_lt_zero, Text.signedNumeral]

mutual

/-- **The compact text of a value** is a text that says the value. -/
theorem exists_spelling : ∀ v : Value,
    ∃ s : Spelling, s.chars = v.compact ∧ s.document.value? = some v
  | null => ⟨.null, rfl, rfl⟩
  | boolean value => ⟨.boolean value, rfl, rfl⟩
  | number n => ⟨.ofInt n, chars_ofInt n, by rw [Spelling.document_ofInt]; rfl⟩
  | string text => by
      obtain ⟨pieces, hchars, htext⟩ := Piece.exists_pieces text
      exact ⟨.string pieces, hchars, by rw [Spelling.document, htext]; rfl⟩
  | array items => by
      obtain ⟨spelled, hchars, hvalues⟩ := exists_items items
      refine ⟨.array .none spelled, ?_, ?_⟩
      · rw [Spelling.chars, hchars, compact, compactItems_true]
        rfl
      · rw [Spelling.document, value?, hvalues]
        rfl
  | object members => by
      obtain ⟨spelled, hchars, hvalues⟩ := exists_members members
      refine ⟨.object .none spelled, ?_, ?_⟩
      · rw [Spelling.chars, hchars, compact, compactMembers_true]
        rfl
      · rw [Spelling.document, value?, hvalues]
        rfl

theorem exists_items : ∀ items : List Value, ∃ spelled : List Spelling,
    itemsChars spelled = items.map compact ∧ values? (itemsDocuments spelled) = some items
  | [] => ⟨[], rfl, rfl⟩
  | item :: rest => by
      obtain ⟨s, hchars, hvalue⟩ := exists_spelling item
      obtain ⟨spelled, hrest, hvalues⟩ := exists_items rest
      refine ⟨s :: spelled, ?_, ?_⟩
      · rw [itemsChars, hchars, hrest, List.map_cons]
      · rw [itemsDocuments, values?, hvalue, hvalues]
        rfl

theorem exists_members : ∀ members : List (String × Value), ∃ spelled : List (Name × Spelling),
    membersChars spelled = members.map memberChars ∧
      members? (membersDocuments spelled) = some members
  | [] => ⟨[], rfl, rfl⟩
  | (name, value) :: rest => by
      obtain ⟨pieces, hname, htext⟩ := Piece.exists_pieces name
      obtain ⟨s, hchars, hvalue⟩ := exists_spelling value
      obtain ⟨spelled, hrest, hvalues⟩ := exists_members rest
      refine ⟨({ pieces }, s) :: spelled, ?_, ?_⟩
      · rw [membersChars, hchars, hrest, List.map_cons, Name.chars, hname]
        simp [memberChars, Gap.none]
      · rw [membersDocuments, members?, htext, hvalue, hvalues]
        rfl

end

/-- **A compact text is read to its end**, and what it says is the value. -/
theorem read_compact (v : Value) :
    ∃ document, read v.compact = ⟨some document, true⟩ ∧ document.value? = some v := by
  obtain ⟨s, hchars, hvalue⟩ := exists_spelling v
  exact ⟨s.document, hchars ▸ s.read_chars, hvalue⟩

theorem compact_injective : Function.Injective compact := by
  intro v w same
  obtain ⟨d, hread, hv⟩ := read_compact v
  obtain ⟨e, hread', hw⟩ := read_compact w
  rw [same, hread'] at hread
  obtain rfl := Option.some.inj (Reading.mk.inj hread).1
  exact Option.some.inj (hv.symm.trans hw)

end Value

end FacetedSearch.Json
