/-
# FacetedSearch.Code.Basic -- closed sets of values with textual codes

A type whose finitely many values each have a code of their own, as links carry them.  Codes are
distinct, so a code determines its value (`ofCode?_eq_some_iff`).
-/
namespace FacetedSearch

set_option autoImplicit false

/-- A type with finitely many values, each with its own code. -/
class Coded (α : Type) where
  /-- Every value, in order of declaration. -/
  all : List α
  /-- The code of a value. -/
  code : α → String
  /-- No value is left out. -/
  mem_all : ∀ a, a ∈ all
  /-- Different values have different codes. -/
  code_injective : ∀ a b, code a = code b → a = b

namespace Coded

variable {α : Type} [Coded α]

/-- The value that has the code. -/
def ofCode? (text : String) : Option α := (all : List α).find? fun a => code a == text

theorem ofCode?_eq_some_iff {text : String} {a : α} :
    (ofCode? text : Option α) = some a ↔ code a = text := by
  constructor
  · intro h
    simpa using List.find?_some h
  · rintro rfl
    cases h : (ofCode? (code a) : Option α) with
    | none =>
      have hnone := List.find?_eq_none.1 h a (mem_all a)
      simp at hnone
    | some b =>
      have hb : code b = code a := by simpa using List.find?_some h
      rw [code_injective b a hb]

end Coded

end FacetedSearch
