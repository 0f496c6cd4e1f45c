/-
# FacetedSearch.Link.Format -- how selections are laid out in links

Each subject group is one parameter, all of one name; each filter category is a parameter of its own
name; and each setting is a parameter of a fixed name (`Setting`).  What a site may choose is the
name for the groups, the scope codes, the text between entries and the page size of a link that
gives none (`Format`).
-/
import FacetedSearch.Scope.Codes

namespace FacetedSearch.Link

set_option autoImplicit false

/-- A setting that links carry, which has the name of its parameter as code. -/
inductive Setting
  | advanced
  | sort
  | collapsed
  | pageSize
  | pmids
  deriving DecidableEq, Repr

instance : Coded Setting where
  all := [.advanced, .sort, .collapsed, .pageSize, .pmids]
  code
    | .advanced => "advanced"
    | .sort => "sort"
    | .collapsed => "collapsed"
    | .pageSize => "pageSize"
    | .pmids => "pmidai"
  mem_all := by intro s; cases s <;> decide
  code_injective := by intro s t; cases s <;> cases t <;> decide

/-- The parameter name of a setting. -/
def Setting.name (setting : Setting) : String := Coded.code setting

/-- The layout of selections in links. -/
structure Format where
  /-- The name of the parameters that hold a subject group. -/
  subjectName : String := "subject"
  /-- The codes of the scopes. -/
  scopeCodes : Scope.Codes := .standard
  /-- The text between two entries. -/
  separator : String := ";;"
  /-- The page size of a link that gives none. -/
  defaultPageSize : Nat := 10

instance : Inhabited Format := ⟨{}⟩

/-- Where an entry stands; only subjects tell whether a tag is translated. -/
inductive Position
  | subject
  | filter (category : String)
  deriving DecidableEq

end FacetedSearch.Link
