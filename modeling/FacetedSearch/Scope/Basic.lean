/-
# FacetedSearch.Scope.Basic -- how broadly a facet is searched

Each facet has up to three lists of search texts, one per scope; a selected entry uses the list of
its own scope.
-/
import FacetedSearch.Code.Basic

namespace FacetedSearch

set_option autoImplicit false

/-- The breadth of a selected entry. -/
inductive Scope
  | narrow
  | normal
  | broad
  deriving DecidableEq, Repr

namespace Scope

instance : Inhabited Scope := ⟨normal⟩

/-- The name of a scope in messages and documents. -/
def name : Scope → String
  | narrow => "narrow"
  | normal => "normal"
  | broad => "broad"

def ofName? : String → Option Scope
  | "narrow" => some narrow
  | "normal" => some normal
  | "broad" => some broad
  | _ => none

instance : Coded Scope where
  all := [narrow, normal, broad]
  code
    | narrow => "n"
    | normal => "s"
    | broad => "b"
  mem_all := by intro s; cases s <;> decide
  code_injective := by intro s t; cases s <;> cases t <;> decide

theorem ofName?_name (s : Scope) : ofName? s.name = some s := by cases s <;> rfl

end Scope

end FacetedSearch
