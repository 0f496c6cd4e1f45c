/-
# FacetedSearch.Report -- what the command line prints

The program is given the file of a catalog and the pieces of a link.  It prints the link, what could
not be used of it, and the selection it stands for: as a document, as a query, and as a link again.
If the catalog cannot be used, the report ends after the link and the run has failed.
-/
import FacetedSearch.Catalog.Source
import FacetedSearch.Query.Compile
import FacetedSearch.Selection.Document
import FacetedSearch.Link.Read
import FacetedSearch.Link.Write

namespace FacetedSearch

set_option autoImplicit false

/-- What a run prints, and whether it succeeds. -/
structure Report where
  /-- The printed text. -/
  text : String
  /-- The run succeeds. -/
  ok : Bool
  deriving DecidableEq

namespace Report

/-- The line that repeats the link. -/
def inputLine (link : String) : String := "Input: '" ++ link ++ "'\n"

/-- The part of a report that needs the catalog. -/
def body (catalog : Catalog) (link : String) : String :=
  let format : Link.Format := {}
  let decoded := format.decode catalog link
  String.join (decoded.diagnostics.map fun d => "Warning: " ++ d.message ++ "\n") ++
    "\nModel:\n" ++ String.ofList decoded.selection.toJson.indented ++ "\n" ++
    "\nQuery:\n" ++ decoded.selection.compile .unconditional ++ "\n" ++
    "\nURL:\n?" ++ format.encode decoded.selection ++ "\n"

/-- The report on the pieces of a link and the source of a catalog, if there is one. -/
def make (source? : Option String) (pieces : List String) : Report :=
  let link := "&".intercalate pieces
  match source?.map Catalog.ofJson with
  | some (.ok catalog) => ⟨inputLine link ++ body catalog link, true⟩
  | _ => ⟨inputLine link, false⟩

/-- The report on a call: the first argument names the file of the catalog, whose contents `read?`
gives if it can be read, and the others are the pieces of the link.  A call without arguments prints
nothing. -/
def ofArguments (read? : String → Option String) : List String → Report
  | [] => ⟨"", false⟩
  | path :: pieces => make (read? path) pieces

end Report

end FacetedSearch
