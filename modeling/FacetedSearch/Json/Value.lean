/-
# FacetedSearch.Json.Value -- JSON values and their texts

Values are written in two ways: compact, without white space, and indented, with two spaces per
level and one member per line.  Strings escape the quote, the backslash and the control characters
below U+0020, and nothing else.
-/
import FacetedSearch.Text.Numeral

namespace FacetedSearch.Json

set_option autoImplicit false

/-- A JSON value; members of objects keep their order. -/
inductive Value
  | null
  | boolean (value : Bool)
  | number (value : Int)
  | string (text : String)
  | array (items : List Value)
  | object (members : List (String × Value))

/-! ## Strings -/

/-- The lower-case hexadecimal digits of a number below 256. -/
def hexPair (n : Nat) : List Char := [Nat.digitChar (n / 16), Nat.digitChar (n % 16)]

/-- A character of a string. -/
def escapeChar (c : Char) : List Char :=
  match c with
  | '"' => ['\\', '"']
  | '\\' => ['\\', '\\']
  | '\x08' => ['\\', 'b']
  | '\t' => ['\\', 't']
  | '\n' => ['\\', 'n']
  | '\x0c' => ['\\', 'f']
  | '\r' => ['\\', 'r']
  | c => if c.toNat < 0x20 then "\\u00".toList ++ hexPair c.toNat else [c]

/-- A string in quotes. -/
def quote (text : String) : List Char := '"' :: text.toList.flatMap escapeChar ++ ['"']

namespace Value

/-- The text of a value that is no container. -/
def booleanText (value : Bool) : List Char := if value then "true".toList else "false".toList

/-! ## Compact texts -/

mutual

/-- The compact text of a value. -/
def compact : Value → List Char
  | null => "null".toList
  | boolean value => booleanText value
  | number value => Text.signedNumeral value
  | string text => quote text
  | array items => '[' :: compactItems true items ++ [']']
  | object members => '{' :: compactMembers true members ++ ['}']

/-- The items of an array, each but the first after a comma. -/
def compactItems (first : Bool) : List Value → List Char
  | [] => []
  | item :: rest => (if first then [] else [',']) ++ item.compact ++ compactItems false rest

/-- The members of an object, each but the first after a comma. -/
def compactMembers (first : Bool) : List (String × Value) → List Char
  | [] => []
  | (name, value) :: rest =>
    (if first then [] else [',']) ++ quote name ++ ':' :: value.compact ++ compactMembers false rest

end

/-! ## Indented texts -/

/-- A new line with the indentation of a level. -/
def newLine (level : Nat) : List Char := '\n' :: List.replicate (2 * level) ' '

mutual

/-- The indented text of a value at a level. -/
def indentedAt (level : Nat) : Value → List Char
  | null => "null".toList
  | boolean value => booleanText value
  | number value => Text.signedNumeral value
  | string text => quote text
  | array [] => "[]".toList
  | array (item :: rest) =>
    '[' :: indentedItems level true (item :: rest) ++ newLine level ++ [']']
  | object [] => "\x7b\x7d".toList
  | object (member :: rest) =>
    '{' :: indentedMembers level true (member :: rest) ++ newLine level ++ ['}']

/-- The items of an array at a level, each on a line of its own. -/
def indentedItems (level : Nat) (first : Bool) : List Value → List Char
  | [] => []
  | item :: rest =>
    (if first then [] else [',']) ++ newLine (level + 1) ++ item.indentedAt (level + 1) ++
      indentedItems level false rest

/-- The members of an object at a level, each on a line of its own. -/
def indentedMembers (level : Nat) (first : Bool) : List (String × Value) → List Char
  | [] => []
  | (name, value) :: rest =>
    (if first then [] else [',']) ++ newLine (level + 1) ++ quote name ++ ':' :: ' ' ::
      value.indentedAt (level + 1) ++ indentedMembers level false rest

end

/-- The indented text of a value. -/
def indented (value : Value) : List Char := value.indentedAt 0

end Value

end FacetedSearch.Json
