/-
# FacetedSearch.Link.Read -- the selection of a link

Reading a link never fails: each parameter changes the selection by what can be made of it
(`Change`), and what cannot be used is reported.  A fragment of a group or a category is an entry or
one report (`Format.readEntry`), a setting takes its value or is reported, and any other parameter
is reported.  A name serves for the subject groups first, then for a setting, then for a category.

The facets of a link are those of the catalog.  Without a catalog to look in, a link says nothing.
-/
import FacetedSearch.Catalog.Basic
import FacetedSearch.Diagnostic
import FacetedSearch.Link.Basic
import FacetedSearch.Link.Format
import FacetedSearch.Selection.Basic

namespace FacetedSearch.Link

set_option autoImplicit false

/-! ## Entries -/

/-- The inside of double braces. -/
def unbrace? (token : List Char) : Option (List Char) :=
  ("\x7b\x7b".toList.isPrefixOf? token).bind fun rest => "\x7d\x7d".toList.isSuffixOf? rest

/-- The tag of the inside of double braces.  In a subject a final ` 1` or ` 0` is no part of the
name. -/
def readTag (position : Position) (scope : Scope) (inside : List Char) : CustomTag :=
  match position with
  | .filter _ => { name := String.ofList inside, scope }
  | .subject =>
    match " 1".toList.isSuffixOf? inside with
    | some name => { name := String.ofList name, scope, translated := true }
    | none =>
      match " 0".toList.isSuffixOf? inside with
      | some name => { name := String.ofList name, scope }
      | none => { name := String.ofList inside, scope }

def findFacet? (catalog : Catalog) (position : Position) (key : Facet.Key) : Option Facet :=
  match position with
  | .subject => catalog.subject? key
  | .filter category => catalog.choice? category key

/-- The entry of a token and a scope, or the report on it. -/
def readToken (catalog : Catalog) (position : Position) (parameter : String) (fragment : List Char)
    (token : List Char) (scope : Scope) : Except Diagnostic Entry :=
  match unbrace? token with
  | some inside =>
    let tag := readTag position scope inside
    if tag.name = "" then .error (.unparsableFragment parameter (String.ofList fragment))
    else .ok (.custom tag)
  | none =>
    let text := String.ofList token
    match (Facet.Key.ofText? text).bind (findFacet? catalog position) with
    | some facet => .ok (.facet facet scope)
    | none => .error (.unresolvableToken parameter text)

namespace Format

/-- The entry of a fragment of a parameter, or the report on it. -/
def readEntry (format : Format) (catalog : Catalog) (position : Position) (parameter : String)
    (fragment : List Char) : Except Diagnostic Entry :=
  match Text.cutLast? '#' fragment with
  | none => .error (.unparsableFragment parameter (String.ofList fragment))
  | some (token, code) =>
    match format.scopeCodes.scope? (String.ofList code) with
    | none => .error (.unknownScopeCode parameter (String.ofList code))
    | some scope => readToken catalog position parameter fragment token scope

/-- The fragments of a value, none of them empty. -/
def fragments (format : Format) (value : String) : List (List Char) :=
  (Text.splitOnText format.separator.toList value.toList).filter fun piece => !piece.isEmpty

end Format

/-- What can be used of some fragments. -/
def usable (results : List (Except Diagnostic Entry)) : List Entry :=
  results.filterMap fun result => result.toOption

/-- What is reported of some fragments. -/
def reports (results : List (Except Diagnostic Entry)) : List Diagnostic :=
  results.filterMap fun
    | .error report => some report
    | .ok _ => none

/-! ## Parameters -/

/-- What a parameter changes. -/
inductive Change
  /-- One more group of subjects. -/
  | addGroup (entries : List Entry)
  /-- More entries of a category. -/
  | addFilters (category : String) (entries : List Entry)
  | setAdvanced (value : Bool)
  | setCollapsed (value : Bool)
  | setSort (value : SortMethod)
  | setPageSize (value : Nat)
  | setPmids (value : List String)
  deriving DecidableEq

/-- The selection after a change.  Without entries, groups and categories are not added. -/
def Change.apply (s : Selection) : Change → Selection
  | addGroup entries => if entries.isEmpty then s else { s with groups := s.groups ++ [entries] }
  | addFilters category entries =>
    if entries.isEmpty then s else { s with filters := s.filters.extend category entries }
  | setAdvanced value => { s with advanced := value }
  | setCollapsed value => { s with collapsed := value }
  | setSort value => { s with sort := value }
  | setPageSize value => { s with pageSize := value }
  | setPmids value => { s with pmids := value }

/-- What a parameter comes to. -/
structure Outcome where
  /-- What it changes. -/
  change? : Option Change := none
  /-- What is reported of it. -/
  diagnostics : List Diagnostic := []
  deriving DecidableEq

/-- The truth value of a text. -/
def readBool? : String → Option Bool
  | "true" => some true
  | "false" => some false
  | _ => none

/-- The page size of a text: digits, after a plus sign or none, for a number from one on that fits
64 bits. -/
def readPageSize? (text : String) : Option Nat :=
  let digits :=
    match text.toList with
    | '+' :: rest => rest
    | chars => chars
  (Text.readNumeral? UInt64.size digits).filter fun n => n != 0

/-- The outcome of a setting whose value is read, or cannot be. -/
def scalarOutcome {α : Type} (p : Parameter) (change : α → Change) : Option α → Outcome
  | some value => { change? := some (change value) }
  | none => { diagnostics := [.invalidScalar p.name p.value] }

namespace Format

/-- The article ids of a value. -/
def readPmids (format : Format) (value : String) : List String :=
  (format.fragments value).map String.ofList

def readSetting (format : Format) (p : Parameter) : Setting → Outcome
  | .advanced => scalarOutcome p .setAdvanced (readBool? p.value)
  | .collapsed => scalarOutcome p .setCollapsed (readBool? p.value)
  | .sort => scalarOutcome p .setSort (Coded.ofCode? p.value)
  | .pageSize => scalarOutcome p .setPageSize (readPageSize? p.value)
  | .pmids => { change? := some (.setPmids (format.readPmids p.value)) }

/-- The fragments of a parameter, each read. -/
def readEntries (format : Format) (catalog : Catalog) (position : Position) (p : Parameter) :
    List (Except Diagnostic Entry) :=
  (format.fragments p.value).map (format.readEntry catalog position p.name)

def readParameter (format : Format) (catalog : Catalog) (p : Parameter) : Outcome :=
  if p.name = format.subjectName then
    let results := format.readEntries catalog .subject p
    ⟨some (.addGroup (usable results)), reports results⟩
  else
    match (Coded.ofCode? p.name : Option Setting) with
    | some setting => format.readSetting p setting
    | none =>
      match catalog.category? p.name with
      | some category =>
        let results := format.readEntries catalog (.filter p.name) p
        ⟨some (.addFilters category.id (usable results)), reports results⟩
      | none => { diagnostics := [.unknownParameter p.name] }

end Format

/-! ## Links -/

/-- A selection with what was left out of it. -/
structure Decoded where
  selection : Selection
  /-- What was left out. -/
  diagnostics : List Diagnostic
  deriving DecidableEq

namespace Format

/-- The selection of a link. -/
def readLink (format : Format) (catalog : Catalog) (link : Link) : Decoded :=
  let outcomes := link.parameters.map (format.readParameter catalog)
  { selection :=
      (outcomes.filterMap Outcome.change?).foldl Change.apply
        { pageSize := format.defaultPageSize, anchor := link.anchor }
    diagnostics := outcomes.flatMap Outcome.diagnostics }

/-- The selection of the text of a link. -/
def decode (format : Format) (catalog : Catalog) (text : String) : Decoded :=
  if catalog.isEmpty then ⟨{ pageSize := format.defaultPageSize }, []⟩
  else format.readLink catalog (Link.ofChars text.toList)

end Format

end FacetedSearch.Link
