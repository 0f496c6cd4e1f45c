/-
# FacetedSearch.Proofs.Link.RoundTrip -- selections that a link carries

Reading the link of a selection gives what a link keeps of it, with nothing reported, if the format
can carry the selection (`Format.Carries`): its entries can be named, its categories are the
catalog's, its page size is a number from one on that fits 64 bits, and the separator keeps apart
whatever it joins.  Nothing is asked of the texts beyond that: names of tags, article ids and the
anchor may hold any delimiter.  And no parameter name may serve for two things (`NamesApart`), which
a catalog that was built ensures for the settings and the categories.
-/
import FacetedSearch.Proofs.Link.Changes
import FacetedSearch.Proofs.Link.Entries
import FacetedSearch.Proofs.Link.Parts

namespace FacetedSearch.Link

set_option autoImplicit false

/-- No parameter name is one of the subjects, a setting and a category at a time. -/
structure NamesApart (format : Format) (catalog : Catalog) : Prop where
  /-- The subjects have no setting's name. -/
  setting_ne_subject : ∀ setting : Setting, setting.name ≠ format.subjectName
  /-- The subjects have no category's name. -/
  category?_subject : catalog.category? format.subjectName = none
  /-- No category has a setting's name. -/
  category?_setting : ∀ setting : Setting, catalog.category? setting.name = none

/-- Links of the format can carry the selection. -/
structure Format.Carries (format : Format) (catalog : Catalog) (s : Selection) : Prop where
  /-- Facets of a group are subjects, and tags have names. -/
  subjects : ∀ group ∈ s.groups, ∀ e ∈ group, e.Nameable catalog .subject
  /-- Categories with entries are the catalog's. -/
  categories : ∀ row ∈ s.filters.populated, (catalog.category? row.1).isSome
  /-- Facets of a category are choices of it, and tags have names. -/
  choices : ∀ row ∈ s.filters.populated, ∀ e ∈ row.2, e.Nameable catalog (.filter row.1)
  /-- A page has results. -/
  pageSize_pos : 1 ≤ s.pageSize
  /-- The page size fits 64 bits. -/
  pageSize_lt : s.pageSize < UInt64.size
  /-- The separator keeps the entries of a group apart. -/
  subjects_apart : ∀ group ∈ s.groups,
    Text.Separable format.separator.toList (group.map (format.entryChars .subject))
  /-- The separator keeps the entries of a category apart. -/
  choices_apart : ∀ row ∈ s.filters.populated,
    Text.Separable format.separator.toList (row.2.map (format.entryChars (.filter row.1)))
  /-- The separator keeps the article ids apart. -/
  pmids_apart : Text.Separable format.separator.toList
    ((s.pmids.filter fun pmid => pmid != "").map String.toList)

variable {format : Format} {catalog : Catalog} {s : Selection}

/-! ## Settings -/

theorem readBool?_toString (value : Bool) : readBool? (toString value) = some value := by
  cases value <;> rfl

theorem readPageSize?_numeral {n : Nat} (pos : 1 ≤ n) (lt : n < UInt64.size) :
    readPageSize? (String.ofList (Text.numeral n)) = some n := by
  have hsign : ∀ rest, Text.numeral n ≠ '+' :: rest := by
    intro rest hplus
    have hall := Text.isNumeral_numeral n
    simp [hplus, Text.isNumeral, Text.isRun] at hall
  simp only [readPageSize?, String.toList_ofList, Text.readNumeral?_numeral lt]
  simp
  omega

/-- A parameter that is read as a change, with nothing reported. -/
def Outcome.ofChange (change : Change) : Outcome := { change? := some change }

theorem readPmids_settingValue (hsep : format.separator ≠ "") (carried : format.Carries catalog s) :
    format.readPmids (format.settingValue s .pmids) = s.kept.pmids := by
  have hvalue : format.settingValue s .pmids = String.ofList
      (format.separator.toList.intercalate
        ((s.pmids.filter fun pmid => pmid != "").map String.toList)) := by
    rw [← String.toList_inj, String.toList_ofList, Format.settingValue, String.toList_intercalate]
  have hne : ∀ text ∈ (s.pmids.filter fun pmid => pmid != "").map String.toList, text ≠ [] := by
    intro text htext
    obtain ⟨pmid, hpmid, rfl⟩ := List.mem_map.1 htext
    simpa using (List.mem_filter.1 hpmid).2
  rw [Format.readPmids, hvalue, Format.fragments_intercalate hsep hne carried.pmids_apart]
  simp [Selection.kept, Function.comp_def]

/-- **A setting that was written reads as its value**, all but article ids that the separator does
not keep apart. -/
theorem readValue?_settingValue (pageSize_pos : 1 ≤ s.pageSize)
    (pageSize_lt : s.pageSize < UInt64.size) {setting : Setting} (scalar : setting ≠ .pmids) :
    format.readValue? setting (format.settingValue s setting) = some (s.value setting) := by
  cases setting with
  | advanced => exact readBool?_toString s.advanced
  | sort => exact Coded.ofCode?_eq_some_iff.2 rfl
  | collapsed => exact readBool?_toString s.collapsed
  | pageSize => exact readPageSize?_numeral pageSize_pos pageSize_lt
  | pmids => exact absurd rfl scalar

theorem readValue?_settingValue_of_carries (hsep : format.separator ≠ "")
    (carried : format.Carries catalog s) (setting : Setting) :
    format.readValue? setting (format.settingValue s setting) = some (s.kept.value setting) := by
  by_cases scalar : setting = .pmids
  · subst scalar
    exact congrArg some (readPmids_settingValue hsep carried)
  · rw [readValue?_settingValue carried.pageSize_pos carried.pageSize_lt scalar]
    cases setting <;> first | rfl | exact absurd rfl scalar

/-! ## Parameters -/

namespace NamesApart

variable (apart : NamesApart format catalog)

include apart

theorem purpose_setting (setting : Setting) :
    format.purpose catalog setting.name = .setting setting :=
  Format.purpose_eq_setting_iff.2 ⟨apart.setting_ne_subject setting, rfl⟩

theorem purpose_category {name : String} (known : (catalog.category? name).isSome) :
    format.purpose catalog name = .category := by
  refine Format.purpose_eq_category_iff.2 ⟨?_, fun setting => ?_, known⟩
  · rintro rfl
    rw [apart.category?_subject] at known
    cases known
  · rintro rfl
    rw [apart.category?_setting] at known
    cases known

end NamesApart

theorem readParameter_setting (hsep : format.separator ≠ "") (apart : NamesApart format catalog)
    (carried : format.Carries catalog s) (setting : Setting) :
    format.readParameter catalog ⟨setting.name, format.settingValue s setting⟩ =
      .ofChange (s.kept.settingChange setting) := by
  rw [Format.readParameter_eq]
  simp only [apart.purpose_setting, readValue?_settingValue_of_carries hsep carried]
  cases setting <;> rfl

theorem readParameter_subject (value : String) :
    format.readParameter catalog ⟨format.subjectName, value⟩ =
      let results := format.readEntries catalog .subject ⟨format.subjectName, value⟩
      ⟨some (.addGroup (usable results)), reports results⟩ := by
  rw [Format.readParameter_eq]
  simp only [Format.purpose_eq_subjects_iff.2]
  rfl

theorem readParameter_category (apart : NamesApart format catalog) {name : String}
    (known : (catalog.category? name).isSome) (value : String) :
    format.readParameter catalog ⟨name, value⟩ =
      let results := format.readEntries catalog (.filter name) ⟨name, value⟩
      ⟨some (.addFilters name (usable results)), reports results⟩ := by
  rw [Format.readParameter_eq]
  simp only [apart.purpose_category known]
  rfl

/-! ## Links -/

/-- **Each parameter of a link is read as the change that it was written for.** -/
theorem readParameter_link (hsep : format.separator ≠ "") (apart : NamesApart format catalog)
    (carried : format.Carries catalog s) :
    (format.link s).parameters.map (format.readParameter catalog) =
      s.kept.changes.map Outcome.ofChange := by
  simp only [Format.link, Selection.changes, List.map_append, List.map_map]
  refine congrArg₂ (· ++ ·) (congrArg₂ (· ++ ·) ?_ ?_) ?_
  · simp only [Selection.kept, List.map_map]
    refine List.map_congr_left fun group hgroup => ?_
    have hmem := (List.mem_filter.1 hgroup).1
    have hread := Format.readEntries_entriesValue hsep (carried.subjects group hmem)
      (carried.subjects_apart group hmem) format.subjectName
    simp only [Function.comp_apply, readParameter_subject, hread, usable_map_ok, reports_map_ok]
    rfl
  · simp only [Selection.kept, Filters.kept, List.map_map]
    refine List.map_congr_left fun row hrow => ?_
    have hread := Format.readEntries_entriesValue hsep (carried.choices row hrow)
      (carried.choices_apart row hrow) row.1
    simp only [Function.comp_apply, readParameter_category apart (carried.categories row hrow),
      hread, usable_map_ok, reports_map_ok]
    rfl
  · exact List.map_congr_left fun setting _ => readParameter_setting hsep apart carried setting

theorem filterMap_change?_ofChange (changes : List Change) :
    (changes.map Outcome.ofChange).filterMap Outcome.change? = changes := by
  simp [List.filterMap_map, Function.comp_def, Outcome.ofChange]

theorem flatMap_diagnostics_ofChange (changes : List Change) :
    (changes.map Outcome.ofChange).flatMap Outcome.diagnostics = [] := by
  simp [List.flatMap_map, Outcome.ofChange]

theorem ne_nil_of_mem_groups_kept : ∀ group ∈ s.kept.groups, group ≠ [] := by
  intro group hgroup
  obtain ⟨g, hg, rfl⟩ := List.mem_map.1 hgroup
  simpa using (List.mem_filter.1 hg).2

theorem ne_nil_of_mem_rows_kept : ∀ row ∈ s.kept.filters.rows, row.2 ≠ [] := by
  intro row hrow
  obtain ⟨r, hr, rfl⟩ := List.mem_map.1 hrow
  simpa using (List.mem_filter.1 hr).2

/-- A written link is read with its own parameters. -/
theorem decode_encode_eq (hne : catalog.isEmpty = false) (s : Selection) :
    format.decode catalog (format.encode s) =
      format.readLink catalog { format.link s with anchor := keptAnchor s.anchor } := by
  rw [Format.decode_eq_readLink hne, Format.encode, String.toList_ofList, ofChars_chars]
  rfl

/-- Reading the link of a selection gives what a link keeps of it. -/
theorem decode_encode_of_carries (hsep : format.separator ≠ "") (hne : catalog.isEmpty = false)
    (apart : NamesApart format catalog) (carried : format.Carries catalog s) :
    format.decode catalog (format.encode s) = ⟨s.kept, []⟩ := by
  have hfold := Selection.foldl_changes (s := s.kept) ne_nil_of_mem_groups_kept ne_nil_of_mem_rows_kept
    format.defaultPageSize (keptAnchor s.anchor)
  rw [decode_encode_eq hne]
  simp only [Format.readLink, readParameter_link hsep apart carried, filterMap_change?_ofChange,
    flatMap_diagnostics_ofChange]
  exact congrArg (Decoded.mk · []) hfold

/-- **Round trip.**  A selection that links of the format can carry is read back from its link as
what a link keeps of it, with nothing reported, and what is kept has the same link, the same query
and the same reports on it. -/
theorem link_round_trip {d : Definitions} (built : Catalog.build d = .ok catalog)
    (hne : catalog.isEmpty = false) (hsep : format.separator ≠ "")
    (setting_ne_subject : ∀ setting : Setting, setting.name ≠ format.subjectName)
    (category_ne_subject : ∀ category ∈ catalog.categories, category.id ≠ format.subjectName)
    (carried : format.Carries catalog s) :
    format.decode catalog (format.encode s) = ⟨s.kept, []⟩ ∧
      format.encode s.kept = format.encode s ∧
      ∀ glue, s.kept.compileWithDiagnostics glue = s.compileWithDiagnostics glue := by
  have apart : NamesApart format catalog :=
    { setting_ne_subject
      category?_subject := by
        rw [Catalog.category?, Keyed.lookup_eq_none_iff]
        intro member
        obtain ⟨category, hcategory, same⟩ := List.mem_map.1 member
        exact category_ne_subject category hcategory same
      category?_setting := Catalog.category?_setting built }
  exact ⟨decode_encode_of_carries hsep hne apart carried, s.encode_kept format,
    s.compileWithDiagnostics_kept⟩

namespace Example

/-- A layout with a name that needs escapes, another separator and no usable page size. -/
def layout : Format where
  subjectName := "s&="
  separator := ";-"
  defaultPageSize := 0

/-- Every text holds delimiters, and something of each kind is not kept. -/
def selection : Selection where
  groups :=
    [[],
      [.facet Catalog.Example.subject .broad,
        .custom ⟨"\x7d\x7d#s;\x7b\x7b% 1", .narrow, true, some "term"⟩]]
  filters :=
    { rows := [("gone", []),
        ("type", [.custom ⟨"&sort=date 0", .normal, true, none⟩,
          .facet Catalog.Example.choice .normal])]
      nodup := by simp }
  page := 3
  pageSize := 25
  pmids := ["1;;2", "", "3;"]
  anchor := some ""

theorem setting_ne_subject (setting : Setting) : setting.name ≠ layout.subjectName := by
  cases setting <;> decide

theorem carries_selection : layout.Carries Catalog.Example.catalog selection where
  subjects := by decide
  categories := by decide
  choices := by decide
  pageSize_pos := by decide
  pageSize_lt := by decide
  subjects_apart := by decide
  choices_apart := by decide
  pmids_apart := by decide

end Example

theorem link_round_trip_of_delimiters_in_texts :
    Catalog.build Catalog.Example.definitions = .ok Catalog.Example.catalog ∧
      Catalog.Example.catalog.isEmpty = false ∧
      Example.layout.Carries Catalog.Example.catalog Example.selection ∧
      Example.layout.decode Catalog.Example.catalog (Example.layout.encode Example.selection) =
        ⟨Example.selection.kept, []⟩ :=
  ⟨Catalog.Example.build_definitions, rfl, Example.carries_selection,
    (link_round_trip Catalog.Example.build_definitions rfl (by decide)
      Example.setting_ne_subject (by decide) Example.carries_selection).1⟩

end FacetedSearch.Link
