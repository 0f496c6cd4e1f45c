/-
# FacetedSearch.Query.Operand -- texts that entries and groups put into a query

An entry resolves to the non-blank search texts of its scope, joined by ` OR `.  The entries of a
group are alternatives and are joined the same way.  Parentheses keep operators inside an operand:
around an entry whose first text has an operator if the group has several entries, and around the
group if it has several entries, or if it has an operator and stands beside others.  An entry
without a text is reported.
-/
import FacetedSearch.Diagnostic
import FacetedSearch.Selection.Basic
import FacetedSearch.Text.Blank
import FacetedSearch.Text.Word

namespace FacetedSearch.Query

set_option autoImplicit false

/-- The text that an entry puts into a query. -/
structure Operand where
  text : List Char
  /-- The first search text has an operator. -/
  hasOperators : Bool
  deriving DecidableEq

/-- The search texts of an entry that are not blank. -/
def usableTexts (entry : Entry) : List (List Char) :=
  ((entry.texts?.getD []).map String.toList).filter fun text => !Text.isBlank text

/-- The operand of some search texts. -/
def Operand.ofTexts? : List (List Char) → Option Operand
  | [] => none
  | first :: rest => some ⟨" OR ".toList.intercalate (first :: rest), Text.hasOperators first⟩

/-- The operand of an entry, unless all its search texts are blank. -/
def Operand.ofEntry? (entry : Entry) : Option Operand := ofTexts? (usableTexts entry)

/-- A text in parentheses, if it needs them. -/
def wrapIf (needed : Bool) (text : List Char) : List Char :=
  if needed then '(' :: text ++ [')'] else text

/-- The text of a group of operands, which stands beside others or alone. -/
def groupText (besideOthers : Bool) (operands : List Operand) : List Char :=
  let several := decide (operands.length > 1)
  let alternatives := operands.map fun o => wrapIf (o.hasOperators && several) o.text
  wrapIf (several || (besideOthers && operands.any fun o => o.hasOperators))
    (" OR ".toList.intercalate alternatives)

/-- The text of a group of entries, unless it comes to nothing. -/
def contribution? (besideOthers : Bool) (entries : List Entry) : Option (List Char) :=
  let text := groupText besideOthers (entries.filterMap Operand.ofEntry?)
  if text = [] ∨ text = ['(', ')'] then none else some text

/-- The reports on the entries that have no text. -/
def reportsOn (entries : List Entry) : List Diagnostic :=
  (entries.filter fun e => (Operand.ofEntry? e).isNone).map fun e => .malformedEntry e.name e.scope

theorem reportsOn_append (xs ys : List Entry) :
    reportsOn (xs ++ ys) = reportsOn xs ++ reportsOn ys := by
  rw [reportsOn, List.filter_append, List.map_append]
  rfl

theorem reportsOn_flatten (groups : List (List Entry)) :
    reportsOn groups.flatten = groups.flatMap reportsOn := by
  induction groups with
  | nil => rfl
  | cons group rest ih => rw [List.flatten_cons, reportsOn_append, ih, List.flatMap_cons]

end FacetedSearch.Query
