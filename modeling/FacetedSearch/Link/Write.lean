/-
# FacetedSearch.Link.Write -- the link of a selection

An entry is its token, `#` and the code of its scope.  The token of a facet is the text of its key;
that of a tag is its name in double braces, in a subject with a space and a digit behind the name
that tells whether it is translated.  Groups and categories without entries are left out, and so are
empty article ids; the settings are always there.
-/
import FacetedSearch.Link.Basic
import FacetedSearch.Link.Format
import FacetedSearch.Selection.Basic

namespace FacetedSearch.Link

set_option autoImplicit false

def tagToken (position : Position) (tag : CustomTag) : List Char :=
  match position with
  | .subject =>
    "\x7b\x7b".toList ++ tag.name.toList ++ [' ', if tag.translated then '1' else '0'] ++
      "\x7d\x7d".toList
  | .filter _ => "\x7b\x7b".toList ++ tag.name.toList ++ "\x7d\x7d".toList

def entryToken (position : Position) : Entry → List Char
  | .facet f _ => f.key.chars
  | .custom tag => tagToken position tag

namespace Format

/-- The characters of an entry. -/
def entryChars (format : Format) (position : Position) (entry : Entry) : List Char :=
  entryToken position entry ++ '#' :: (format.scopeCodes.code entry.scope).toList

/-- The value that holds some entries. -/
def entriesValue (format : Format) (position : Position) (entries : List Entry) : String :=
  String.ofList (format.separator.toList.intercalate (entries.map (format.entryChars position)))

def settingValue (format : Format) (s : Selection) : Setting → String
  | .advanced => toString s.advanced
  | .sort => Coded.code s.sort
  | .collapsed => toString s.collapsed
  | .pageSize => String.ofList (Text.numeral s.pageSize)
  | .pmids => format.separator.intercalate (s.pmids.filter fun pmid => pmid != "")

def link (format : Format) (s : Selection) : Link where
  parameters :=
    (s.populatedGroups.map fun group => ⟨format.subjectName, format.entriesValue .subject group⟩) ++
      (s.filters.populated.map fun row => ⟨row.1, format.entriesValue (.filter row.1) row.2⟩) ++
      ((Coded.all : List Setting).map fun setting =>
        ⟨setting.name, format.settingValue s setting⟩)
  anchor := s.anchor

/-- The text of the link of a selection. -/
def encode (format : Format) (s : Selection) : String := String.ofList (format.link s).chars

end Format

end FacetedSearch.Link
