/-
# FacetedSearch.Proofs.Link.Kept -- what a link keeps of a selection

A link says nothing of groups and categories without entries, of empty article ids, of an empty
anchor, of the page, of how a tag was typed, and outside the subjects of its translation.
`Selection.kept` is the selection without these.  None of them matters to a link or to a query:

* `kept_kept`: keeping once is keeping for good;
* `encode_kept`: what is kept has the same link;
* `compileWithDiagnostics_kept`: it has the same query, and leaves the same out.
-/
import FacetedSearch.Link.Write
import FacetedSearch.Proofs.Link.Parameters
import FacetedSearch.Query.Compile

namespace FacetedSearch

set_option autoImplicit false

/-- What a link keeps of a tag. -/
def CustomTag.kept (position : Link.Position) (tag : CustomTag) : CustomTag where
  name := tag.name
  scope := tag.scope
  translated :=
    match position with
    | .subject => tag.translated
    | .filter _ => false

/-- What a link keeps of an entry. -/
def Entry.kept (position : Link.Position) : Entry → Entry
  | facet f scope => facet f scope
  | custom tag => custom (tag.kept position)

/-- What a link keeps of the filters. -/
def Filters.kept (filters : Filters) : Filters where
  rows := filters.populated.map fun row => (row.1, row.2.map (Entry.kept (.filter row.1)))
  nodup := by
    rw [List.map_map]
    exact (List.filter_sublist.map Prod.fst).nodup filters.nodup

/-- What a link keeps of a selection. -/
def Selection.kept (s : Selection) : Selection where
  groups := s.populatedGroups.map fun group => group.map (Entry.kept .subject)
  filters := s.filters.kept
  advanced := s.advanced
  sort := s.sort
  pageSize := s.pageSize
  collapsed := s.collapsed
  pmids := s.pmids.filter fun pmid => pmid != ""
  anchor := Link.keptAnchor s.anchor

/-! ## Entries -/

namespace Entry

variable (position : Link.Position) (e : Entry)

theorem kept_kept : (e.kept position).kept position = e.kept position := by
  cases e with
  | facet f scope => rfl
  | custom tag => cases position <;> rfl

theorem kept_scope : (e.kept position).scope = e.scope := by
  cases e <;> rfl

theorem kept_name : (e.kept position).name = e.name := by
  cases e <;> rfl

theorem ofEntry?_kept : Query.Operand.ofEntry? (e.kept position) = Query.Operand.ofEntry? e := by
  cases e <;> rfl

theorem entryChars_kept (format : Link.Format) :
    format.entryChars position (e.kept position) = format.entryChars position e := by
  cases e with
  | facet f scope => rfl
  | custom tag => cases position <;> rfl

end Entry

theorem Link.Format.entriesValue_kept (format : Link.Format) (position : Link.Position)
    (entries : List Entry) :
    format.entriesValue position (entries.map (Entry.kept position)) =
      format.entriesValue position entries := by
  simp only [entriesValue, List.map_map, Function.comp_def, Entry.entryChars_kept]

theorem Query.contribution?_kept (besideOthers : Bool) (position : Link.Position)
    (entries : List Entry) :
    contribution? besideOthers (entries.map (Entry.kept position)) =
      contribution? besideOthers entries := by
  simp only [contribution?, List.filterMap_map, Function.comp_def, Entry.ofEntry?_kept]

theorem Query.reportsOn_kept (position : Link.Position) (entries : List Entry) :
    reportsOn (entries.map (Entry.kept position)) = reportsOn entries := by
  simp only [reportsOn, List.filter_map, List.map_map, Function.comp_def, Entry.ofEntry?_kept,
    Entry.kept_name, Entry.kept_scope]

theorem Selection.attachCategory_kept (glue : FilterGlue) (progress : List Char × List Diagnostic)
    (position : Link.Position) (entries : List Entry) :
    attachCategory glue progress (entries.map (Entry.kept position)) =
      attachCategory glue progress entries := by
  rw [attachCategory, Query.contribution?_kept, Query.reportsOn_kept, attachCategory]

/-! ## Categories -/

theorem Filters.populated_kept (filters : Filters) :
    filters.kept.populated =
      filters.populated.map fun row => (row.1, row.2.map (Entry.kept (.filter row.1))) := by
  refine List.filter_eq_self.2 fun row hrow => ?_
  obtain ⟨r, hr, rfl⟩ := List.mem_map.1 hrow
  simpa using (List.mem_filter.1 hr).2

theorem Filters.kept_kept (filters : Filters) : filters.kept.kept = filters.kept := by
  apply Filters.ext
  calc filters.kept.kept.rows
      = filters.kept.populated.map fun row =>
          (row.1, row.2.map (Entry.kept (.filter row.1))) := rfl
    _ = filters.kept.rows := by
        rw [populated_kept]
        simp only [kept, List.map_map, Function.comp_def, Entry.kept_kept]

/-! ## Selections -/

namespace Selection

variable (s : Selection)

theorem populatedGroups_kept :
    s.kept.populatedGroups = s.populatedGroups.map fun group => group.map (Entry.kept .subject) := by
  refine List.filter_eq_self.2 fun group hgroup => ?_
  obtain ⟨g, hg, rfl⟩ := List.mem_map.1 hgroup
  simpa using (List.mem_filter.1 hg).2

theorem populated_filters_kept :
    s.kept.filters.populated =
      s.filters.populated.map fun row => (row.1, row.2.map (Entry.kept (.filter row.1))) :=
  s.filters.populated_kept

/-- Keeping once is keeping for good. -/
theorem kept_kept : s.kept.kept = s.kept := by
  have hgroups : s.kept.kept.groups = s.kept.groups := by
    calc s.kept.kept.groups
        = s.kept.populatedGroups.map fun group => group.map (Entry.kept .subject) := rfl
      _ = s.kept.groups := by
          rw [populatedGroups_kept]
          simp only [kept, List.map_map, Function.comp_def, Entry.kept_kept]
  have hpmids : s.kept.kept.pmids = s.kept.pmids := by simp [kept]
  exact Selection.ext hgroups s.filters.kept_kept rfl rfl rfl rfl rfl hpmids
    (Link.keptAnchor_keptAnchor s.anchor)

theorem settingValue_kept (format : Link.Format) (setting : Link.Setting) :
    format.settingValue s.kept setting = format.settingValue s setting := by
  cases setting <;> simp [Link.Format.settingValue, kept]

/-- **What is kept has the same link.** -/
theorem encode_kept (format : Link.Format) : format.encode s.kept = format.encode s := by
  have hanchor : Link.anchorChars s.kept.anchor = Link.anchorChars s.anchor :=
    Link.anchorChars_keptAnchor s.anchor
  simp only [Link.Format.encode, Link.chars, Link.Format.link, populatedGroups_kept,
    populated_filters_kept, List.map_map, Function.comp_def, Link.Format.entriesValue_kept,
    hanchor, settingValue_kept]

theorem isCombined_kept : s.kept.isCombined = s.isCombined := by
  simp only [isCombined, populatedGroups_kept, populated_filters_kept, List.length_map,
    List.isEmpty_map]

/-- **What is kept has the same query**, and leaves the same out of it. -/
theorem compileWithDiagnostics_kept (glue : FilterGlue) :
    s.kept.compileWithDiagnostics glue = s.compileWithDiagnostics glue := by
  have texts : s.kept.groupTexts = s.groupTexts := by
    simp only [groupTexts, populatedGroups_kept, isCombined_kept, List.filterMap_map,
      Function.comp_def, Query.contribution?_kept]
  have reports : s.kept.populatedGroups.flatMap Query.reportsOn =
      s.populatedGroups.flatMap Query.reportsOn := by
    simp only [populatedGroups_kept, List.flatMap_map, Query.reportsOn_kept]
  have same : s.kept.pass glue = s.pass glue := by
    rw [pass, texts, reports, populated_filters_kept]
    simp only [pass, List.map_map, List.foldl_map, Function.comp_def, attachCategory_kept]
  rw [compileWithDiagnostics, same, compileWithDiagnostics]

end Selection

end FacetedSearch
