/-
# FacetedSearch.Main -- the command line

Reads the catalog file named first and prints the report on the link whose pieces follow.
-/
import FacetedSearch.Report

set_option autoImplicit false

/-- The contents of a file, if it can be read. -/
def FacetedSearch.readSource? (path : String) : IO (Option String) := do
  try
    return some (← IO.FS.readFile path)
  catch _ =>
    return none

/-- Prints the report; a run that fails has the exit status 101. -/
def main (arguments : List String) : IO UInt32 := do
  let source? ←
    match arguments with
    | [] => pure none
    | path :: _ => FacetedSearch.readSource? path
  let report := FacetedSearch.Report.ofArguments (fun _ => source?) arguments
  IO.print report.text
  return if report.ok then 0 else 101
