/-
# FacetedSearch.Code.Declaration -- code tables from declared variants

A closed set is declared as a list of variants.  A variant has the code it is renamed to, else its
name in kebab case, and one variant may be marked as the default.  `Table.ofDeclarations` takes
the variants in order and refuses the first that carries fields, has an empty code, repeats a code
or is a second default, in this order of precedence at one variant.
-/
import FacetedSearch.Code.Kebab

namespace FacetedSearch.Code

set_option autoImplicit false

/-- One declared variant of a closed set. -/
structure Declaration where
  /-- The name of the variant. -/
  name : String
  /-- The code to use in place of the name in kebab case. -/
  rename : Option String := none
  /-- The variant is marked as the default. -/
  isDefault : Bool := false
  /-- The variant carries fields. -/
  hasFields : Bool := false
  deriving DecidableEq

/-- The code of a declared variant. -/
def Declaration.code (d : Declaration) : String := d.rename.getD (kebab d.name)

/-- Why declarations give no table. -/
inductive DeclarationError
  /-- A variant carries fields. -/
  | fields
  /-- The code of the named variant is empty. -/
  | emptyCode (name : String)
  /-- Two variants share the code. -/
  | duplicateCode (code : String)
  /-- Two variants are marked as the default. -/
  | secondDefault
  deriving DecidableEq

/-- The wording of each refusal. -/
def DeclarationError.message : DeclarationError → String
  | fields => "Variant must not have any fields"
  | emptyCode name => "Code of variant " ++ name ++ " must not be empty"
  | duplicateCode code => "Duplicate code: " ++ code
  | secondDefault => "Only one variant can be the default"

/-- The codes of the variants of a closed set. -/
structure Table where
  /-- Each variant with its code, in order of declaration. -/
  rows : List (String × String) := []
  /-- The default variant. -/
  default? : Option String := none
  deriving DecidableEq

namespace Table

/-- The codes in use. -/
def codes (t : Table) : List String := t.rows.map Prod.snd

/-- The variant that has the code. -/
def ofCode? (t : Table) (code : String) : Option String :=
  (t.rows.find? fun row => row.2 == code).map Prod.fst

/-- The table with one more variant. -/
def add (t : Table) (d : Declaration) : Except DeclarationError Table :=
  if d.hasFields then .error .fields
  else if d.code = "" then .error (.emptyCode d.name)
  else if d.code ∈ t.codes then .error (.duplicateCode d.code)
  else if d.isDefault && t.default?.isSome then .error .secondDefault
  else .ok
    { rows := t.rows ++ [(d.name, d.code)]
      default? := if d.isDefault then some d.name else t.default? }

/-- The table of the declared variants, or the first refusal. -/
def ofDeclarations (ds : List Declaration) : Except DeclarationError Table :=
  ds.foldlM add {}

end Table

end FacetedSearch.Code
