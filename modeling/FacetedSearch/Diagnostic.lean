/-
# FacetedSearch.Diagnostic -- what was left out

Compiling a selection and reading a link never fail.  What they cannot use they leave out, and each
thing left out is reported once.
-/
import FacetedSearch.Scope.Basic

namespace FacetedSearch

set_option autoImplicit false

/-- A thing left out, and why. -/
inductive Diagnostic
  /-- An entry has no search text in its scope. -/
  | malformedEntry (entry : String) (scope : Scope)
  /-- A token names no facet of the catalog. -/
  | unresolvableToken (parameter token : String)
  /-- A code stands for no scope. -/
  | unknownScopeCode (parameter code : String)
  /-- A fragment is no entry. -/
  | unparsableFragment (parameter fragment : String)
  /-- A parameter is none of the link's. -/
  | unknownParameter (name : String)
  /-- A value is none of the parameter's. -/
  | invalidScalar (parameter value : String)
  deriving DecidableEq

/-- The wording of each report. -/
def Diagnostic.message : Diagnostic → String
  | malformedEntry entry scope =>
    "Selection '" ++ entry ++ "' has no search strings for scope " ++ scope.name ++ ", skipping"
  | unresolvableToken parameter token =>
    "Unknown token '" ++ token ++ "' in parameter '" ++ parameter ++ "', dropping entry"
  | unknownScopeCode parameter code =>
    "Unknown scope code '" ++ code ++ "' in parameter '" ++ parameter ++ "', dropping entry"
  | unparsableFragment parameter fragment =>
    "Unparsable fragment '" ++ fragment ++ "' in parameter '" ++ parameter ++ "', dropping entry"
  | unknownParameter name => "Ignoring unknown parameter '" ++ name ++ "'"
  | invalidScalar parameter value =>
    "Invalid value '" ++ value ++ "' for parameter '" ++ parameter ++ "', using default"

end FacetedSearch
