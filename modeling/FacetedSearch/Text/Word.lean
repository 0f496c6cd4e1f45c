/-
# FacetedSearch.Text.Word -- words and boolean keywords of a search text

A word is a maximal run of ASCII letters, ASCII digits and underscores.  Search text is opaque but
for one question: does it use one of the keywords `AND`, `OR` and `NOT` as a whole word
(`hasOperators`).  The keywords are case sensitive, so `ORAL` and `and` are ordinary words.
-/
namespace FacetedSearch.Text

set_option autoImplicit false

/-- ASCII letters, ASCII digits and the underscore. -/
def isWordChar (c : Char) : Bool := c.isAlphanum || c == '_'

/-- The maximal runs of word characters, in order. -/
def words (text : List Char) : List (List Char) :=
  (text.splitOnP fun c => !isWordChar c).filter fun run => !run.isEmpty

/-- The keywords of boolean query text. -/
def operators : List (List Char) := ["AND".toList, "OR".toList, "NOT".toList]

/-- Some word of the text is a keyword. -/
def hasOperators (text : List Char) : Bool := (words text).any fun word => operators.contains word

/-! ## Whole texts of one class -/

/-- One or more characters, all of them in the class. -/
def isRun (class? : Char → Bool) (text : List Char) : Bool := !text.isEmpty && text.all class?

theorem isRun_iff {class? : Char → Bool} {text : List Char} :
    isRun class? text = true ↔ text ≠ [] ∧ ∀ c ∈ text, class? c = true := by
  simp [isRun]

/-- The whole text is one word. -/
def isWord (text : List Char) : Bool := isRun isWordChar text

/-- The whole text is one or more ASCII letters and digits. -/
def isIdentifier (text : List Char) : Bool := isRun Char.isAlphanum text

/-- The whole text is one or more ASCII digits. -/
def isNumeral (text : List Char) : Bool := isRun Char.isDigit text

end FacetedSearch.Text
