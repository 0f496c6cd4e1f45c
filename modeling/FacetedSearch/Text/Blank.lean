/-
# FacetedSearch.Text.Blank -- white space

The Unicode property `White_Space`: tab to carriage return, space, next line, and the spaces and
separators of the general punctuation and ideographic blocks.  Zero width spaces, the byte order
mark and the information separators are not in it.
-/
import FacetedSearch.Text.Ranges

namespace FacetedSearch.Text

set_option autoImplicit false

/-- The property `White_Space`. -/
def blankRanges : Ranges :=
  [(0x9, 0xD), (0x20, 0x20), (0x85, 0x85), (0xA0, 0xA0), (0x1680, 0x1680), (0x2000, 0x200A),
    (0x2028, 0x2029), (0x202F, 0x202F), (0x205F, 0x205F), (0x3000, 0x3000)]

/-- The character has the property `White_Space`. -/
def isBlankChar (c : Char) : Bool := blankRanges.has c

/-- The text has nothing but white space, possibly nothing at all. -/
def isBlank (text : List Char) : Bool := text.all isBlankChar

theorem isBlankChar_of_isWhitespace {c : Char} (h : c.isWhitespace) : isBlankChar c := by
  simp only [Char.isWhitespace, Bool.or_eq_true, decide_eq_true_eq] at h
  rcases h with ((rfl | rfl) | rfl) | rfl <;> decide

end FacetedSearch.Text
