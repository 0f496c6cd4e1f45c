/-
# FacetedSearch.Query.Compile -- the query of a selection

Groups combine: their texts are joined by ` AND `, and so are those of the filter categories, which
come last.  How the categories are attached is a choice (`FilterGlue`): each after ` AND ` even if
nothing precedes it, or only between texts.  One pass over the groups and the categories gives the
query and the reports on the entries that it leaves out (`Selection.compileWithDiagnostics`).
-/
import FacetedSearch.Diagnostic
import FacetedSearch.Query.Operand

namespace FacetedSearch

set_option autoImplicit false

/-- How the text of a filter category is attached to the query. -/
inductive FilterGlue
  /-- After ` AND `, always. -/
  | unconditional
  /-- After ` AND `, if there is a text before it. -/
  | betweenTerms
  deriving DecidableEq

namespace FilterGlue

instance : Inhabited FilterGlue := ⟨unconditional⟩

/-- The query with one more text. -/
def attach (glue : FilterGlue) (query text : List Char) : List Char :=
  match glue with
  | unconditional => query ++ " AND ".toList ++ text
  | betweenTerms => if query.isEmpty then text else query ++ " AND ".toList ++ text

end FilterGlue

namespace Selection

/-- A group of the selection stands beside another group or a filter category. -/
def isCombined (s : Selection) : Bool :=
  decide (s.populatedGroups.length > 1) || !s.filters.populated.isEmpty

def groupTexts (s : Selection) : List (List Char) :=
  s.populatedGroups.filterMap (Query.contribution? s.isCombined)

/-- The query and the reports after one more category. -/
def attachCategory (glue : FilterGlue) (progress : List Char × List Diagnostic)
    (entries : List Entry) : List Char × List Diagnostic :=
  ((Query.contribution? true entries).elim progress.1 (glue.attach progress.1),
    progress.2 ++ Query.reportsOn entries)

/-- The characters of the query, and the reports made on the way to it: the groups are joined, and
then the categories are attached one by one to what there is. -/
def pass (glue : FilterGlue) (s : Selection) : List Char × List Diagnostic :=
  (s.filters.populated.map Prod.snd).foldl (attachCategory glue)
    (" AND ".toList.intercalate s.groupTexts, s.populatedGroups.flatMap Query.reportsOn)

/-- The query of the selection, and the reports on the entries that it leaves out. -/
def compileWithDiagnostics (glue : FilterGlue) (s : Selection) : String × List Diagnostic :=
  (String.ofList (s.pass glue).1, (s.pass glue).2)

/-- The query of the selection. -/
def compile (glue : FilterGlue) (s : Selection) : String := (s.compileWithDiagnostics glue).1

/-- The entries that the query leaves out. -/
def compileDiagnostics (s : Selection) (glue : FilterGlue := default) : List Diagnostic :=
  (s.compileWithDiagnostics glue).2

/-! ## The parts of a pass -/

/-- The characters of the query. -/
def queryChars (glue : FilterGlue) (s : Selection) : List Char := (s.pass glue).1

/-- The texts of the filter categories. -/
def filterTexts (s : Selection) : List (List Char) :=
  s.filters.populated.filterMap fun row => Query.contribution? true row.2

/-- The entries in the order in which they are compiled. -/
def entries (s : Selection) : List Entry :=
  s.populatedGroups.flatten ++ s.filters.populated.flatMap fun row => row.2

theorem foldl_attachCategory (glue : FilterGlue) (categories : List (List Entry))
    (progress : List Char × List Diagnostic) :
    categories.foldl (attachCategory glue) progress =
      ((categories.filterMap (Query.contribution? true)).foldl glue.attach progress.1,
        progress.2 ++ categories.flatMap Query.reportsOn) := by
  induction categories generalizing progress with
  | nil => simp
  | cons entries rest ih =>
      rw [List.foldl_cons, ih, List.flatMap_cons, ← List.append_assoc]
      cases contributed : Query.contribution? true entries with
      | none => rw [List.filterMap_cons_none contributed, attachCategory, contributed]; rfl
      | some text =>
          rw [List.filterMap_cons_some contributed, attachCategory, contributed]
          rfl

/-- **A pass joins the texts of the groups, attaches those of the categories and reports on every
entry**, in one go. -/
theorem pass_eq (glue : FilterGlue) (s : Selection) :
    s.pass glue = (s.filterTexts.foldl glue.attach (" AND ".toList.intercalate s.groupTexts),
      Query.reportsOn s.entries) := by
  have reports : Query.reportsOn s.entries =
      s.populatedGroups.flatMap Query.reportsOn ++
        (s.filters.populated.map Prod.snd).flatMap Query.reportsOn := by
    show Query.reportsOn
      (s.populatedGroups.flatten ++ (s.filters.populated.map Prod.snd).flatten) = _
    rw [Query.reportsOn_append, Query.reportsOn_flatten, Query.reportsOn_flatten]
  rw [pass, foldl_attachCategory, reports, List.filterMap_map]
  rfl

theorem queryChars_eq (glue : FilterGlue) (s : Selection) :
    s.queryChars glue =
      s.filterTexts.foldl glue.attach (" AND ".toList.intercalate s.groupTexts) := by
  rw [queryChars, pass_eq]

theorem compile_eq_foldl (glue : FilterGlue) (s : Selection) :
    s.compile glue =
      String.ofList (s.filterTexts.foldl glue.attach (" AND ".toList.intercalate s.groupTexts)) := by
  rw [compile, compileWithDiagnostics, pass_eq]

theorem toList_compile (glue : FilterGlue) (s : Selection) :
    (s.compile glue).toList = s.queryChars glue := String.toList_ofList

theorem compileWithDiagnostics_eq (glue : FilterGlue) (s : Selection) :
    s.compileWithDiagnostics glue = (s.compile glue, Query.reportsOn s.entries) := by
  rw [compile, compileWithDiagnostics, pass_eq]

end Selection

end FacetedSearch
