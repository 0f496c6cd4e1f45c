/-
# FacetedSearch.Link.Basic -- links as parameters and an anchor

The query part of a link is a list of named values and an optional anchor.  Written, names, values
and the anchor are escaped, so that `&`, `=` and `#` delimit and nothing else (`Link.chars`).  Read,
one leading `?` is dropped, empty pieces between `&` count for nothing, a piece without `=` has an
empty value, and an empty anchor is none (`Link.ofChars`).
-/
import FacetedSearch.Text.Percent
import FacetedSearch.Text.Pieces

namespace FacetedSearch

set_option autoImplicit false

/-- A named value of a link. -/
structure Parameter where
  name : String
  value : String
  deriving DecidableEq

/-- The query part of a link. -/
structure Link where
  /-- The named values, in order. -/
  parameters : List Parameter := []
  /-- The place on the page to return to. -/
  anchor : Option String := none
  deriving DecidableEq

/-! ## Writing -/

/-- The characters of a named value. -/
def Parameter.chars (p : Parameter) : List Char :=
  Text.escape p.name.toList ++ '=' :: Text.escape p.value.toList

/-- The characters of an anchor, which takes no room if it is empty. -/
def Link.anchorChars : Option String → List Char
  | none => []
  | some anchor => if anchor = "" then [] else '#' :: Text.escape anchor.toList

/-- The characters of a link. -/
def Link.chars (link : Link) : List Char :=
  ['&'].intercalate (link.parameters.map Parameter.chars) ++ Link.anchorChars link.anchor

/-! ## Reading -/

/-- The text that an escaped component stands for. -/
def Link.component (chars : List Char) : String := String.ofList (Text.unescape chars)

/-- The named value that a piece writes. -/
def Parameter.ofPiece (piece : List Char) : Parameter :=
  match Text.cutFirst? '=' piece with
  | some (name, value) => ⟨Link.component name, Link.component value⟩
  | none => ⟨Link.component piece, ""⟩

/-- The named values that a text without anchor writes. -/
def Parameter.ofChars (text : List Char) : List Parameter :=
  ((text.splitOn '&').filter fun piece => !piece.isEmpty).map Parameter.ofPiece

/-- A text without one leading `?`. -/
def Link.dropMark : List Char → List Char
  | '?' :: rest => rest
  | text => text

/-- The link that a text writes. -/
def Link.ofChars (text : List Char) : Link :=
  let text := Link.dropMark text
  match Text.cutFirst? '#' text with
  | some (query, anchor) =>
    ⟨Parameter.ofChars query, if anchor.isEmpty then none else some (Link.component anchor)⟩
  | none => ⟨Parameter.ofChars text, none⟩

end FacetedSearch
