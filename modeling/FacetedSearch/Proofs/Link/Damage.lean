/-
# FacetedSearch.Proofs.Link.Damage -- damage stays inside its parameter

Names of tags are written between braces as they are, so a name that is empty or holds the separator
cannot be read back.  What is lost by it is lost inside its own parameter, whatever the name is: each
group and each category is written as one parameter, whose value is escaped, and is read by itself
(`Format.reread`).  So of a selection whose facets are the catalog's (`Selection.Within`), and whose
texts are any at all,

* each group comes to at most one group, at its place (`groups_decode_encode`);
* each category comes to its own entries, at its place (`rows_decode_encode`);
* the settings and the anchor are there (`value_decode_encode`, `anchor_decode_encode`).

Groups and categories whose own names are intact are what a link keeps of them (`reread_of_intact`),
whatever stands beside them (`damage_contained`).
-/
import FacetedSearch.Proofs.Link.Parts
import FacetedSearch.Proofs.Link.Sound
import Mathlib.Data.List.Flatten

namespace FacetedSearch

set_option autoImplicit false

/-! ## Selections with any texts -/

/-- A facet is the catalog's, with a key that can be written; a tag is any. -/
def Entry.FromCatalog (catalog : Catalog) (position : Link.Position) : Entry → Prop
  | facet f _ => f.key.WellFormed ∧ Link.findFacet? catalog position f.key = some f
  | custom _ => True

/-- A tag has a name, and the name does not hold `;;`. -/
def Entry.Intact : Entry → Prop
  | facet _ _ => True
  | custom tag => tag.name ≠ "" ∧ ¬ ";;".toList <:+: tag.name.toList

instance (catalog : Catalog) (position : Link.Position) : (e : Entry) →
    Decidable (e.FromCatalog catalog position)
  | .facet f _ =>
      inferInstanceAs
        (Decidable (f.key.WellFormed ∧ Link.findFacet? catalog position f.key = some f))
  | .custom _ => inferInstanceAs (Decidable True)

instance : (e : Entry) → Decidable e.Intact
  | .facet _ _ => inferInstanceAs (Decidable True)
  | .custom tag => inferInstanceAs (Decidable (tag.name ≠ "" ∧ ¬ ";;".toList <:+: tag.name.toList))

/-- The facets and the categories of the selection are the catalog's, and its page size can be
read; the names of tags, the article ids and the anchor are any texts. -/
structure Selection.Within (catalog : Catalog) (s : Selection) : Prop where
  subjects : ∀ group ∈ s.groups, ∀ e ∈ group, e.FromCatalog catalog .subject
  categories : ∀ row ∈ s.filters.populated, (catalog.category? row.1).isSome
  choices : ∀ row ∈ s.filters.populated, ∀ e ∈ row.2, e.FromCatalog catalog (.filter row.1)
  pageSize_pos : 1 ≤ s.pageSize
  pageSize_lt : s.pageSize < UInt64.size

theorem Entry.Intact.writable {catalog : Catalog} {position : Link.Position} {e : Entry}
    (intact : e.Intact) (known : position.Known catalog) (own : e.FromCatalog catalog position) :
    e.Writable catalog position := by
  cases e with
  | facet f scope => exact ⟨known, own, Link.not_infix_name_of_wellFormed own.1⟩
  | custom tag => exact ⟨known, intact.1, intact.2⟩

namespace Link

variable {format : Format} {catalog : Catalog} {position : Position} {s : Selection}

/-! ## Parameters of a written link -/

/-- The name of the parameters that hold the entries of a position. -/
def Position.parameterName (format : Format) : Position → String
  | .subject => format.subjectName
  | .filter category => category

/-- What some entries come to when they are written and read again. -/
def Format.reread (format : Format) (catalog : Catalog) (position : Position)
    (entries : List Entry) : List Entry :=
  format.found catalog position
    ⟨position.parameterName format, format.entriesValue position entries⟩

theorem Format.reread_nil : format.reread catalog position [] = [] := by
  simp [reread, found, readEntries, fragments, entriesValue, Text.splitOnText, Text.splitFrom, usable,
    apply_ite (List.filter _)]

/-- **Entries with intact names** come to what a link keeps of them. -/
theorem Format.Conventional.reread_of_intact (conventional : format.Conventional)
    (known : position.Known catalog) {entries : List Entry}
    (own : ∀ e ∈ entries, e.FromCatalog catalog position) (intact : ∀ e ∈ entries, e.Intact) :
    format.reread catalog position entries = entries.map (Entry.kept position) := by
  have writable : ∀ e ∈ entries, e.Writable catalog position := fun e he =>
    (intact e he).writable known (own e he)
  rw [Format.reread, Format.found, Format.readEntries_entriesValue conventional.separator_ne
    (fun e he => (writable e he).nameable) (conventional.separable_entries writable), usable_map_ok]

theorem Format.choicesOf_subject (category value : String) :
    format.choicesOf catalog category ⟨format.subjectName, value⟩ = [] := by
  simp [choicesOf, purpose_eq_subjects_iff.2]

namespace NamesApart

theorem valueOf?_setting (apart : NamesApart format catalog) (setting other : Setting)
    (value : String) :
    format.valueOf? catalog setting ⟨other.name, value⟩ =
      if other = setting then format.readValue? setting value else none := by
  simp only [Format.valueOf?, apart.purpose_setting, Purpose.setting.injEq]

theorem choicesOf_setting (apart : NamesApart format catalog) (category : String) (setting : Setting)
    (value : String) : format.choicesOf catalog category ⟨setting.name, value⟩ = [] := by
  simp [Format.choicesOf, apart.purpose_setting]

/-- A written category gives its entries to itself. -/
theorem choicesOf_row (apart : NamesApart format catalog) {row : String × List Entry}
    (known : (catalog.category? row.1).isSome) (category : String) :
    format.choicesOf catalog category ⟨row.1, format.entriesValue (.filter row.1) row.2⟩ =
      if row.1 = category then format.reread catalog (.filter row.1) row.2 else [] := by
  simp only [Format.choicesOf, apart.purpose_category known, and_true]
  by_cases same : row.1 = category
  · subst same
    rfl
  · simp [same]

end NamesApart

/-! ## Reading what was written -/

/-- What the parameters of a written link contribute, part of the link by part. -/
theorem flatMap_parameters {α : Type} (part : Parameter → List α) :
    (format.link s).parameters.flatMap part =
      (s.populatedGroups.flatMap fun group =>
          part ⟨format.subjectName, format.entriesValue .subject group⟩) ++
        (s.filters.populated.flatMap fun row =>
          part ⟨row.1, format.entriesValue (.filter row.1) row.2⟩) ++
        (Coded.all : List Setting).flatMap fun setting =>
          part ⟨setting.name, format.settingValue s setting⟩ := by
  simp only [Format.link, List.flatMap_append, List.flatMap_map]

variable (hne : catalog.isEmpty = false) (apart : NamesApart format catalog)
  (categories : ∀ row ∈ s.filters.populated, (catalog.category? row.1).isSome)

include hne apart categories

/-- **Each group comes to at most one group**, at its place. -/
theorem groups_decode_encode :
    (format.decode catalog (format.encode s)).selection.groups =
      (s.populatedGroups.map (format.reread catalog .subject)).filter fun group => !group.isEmpty := by
  have rows : ∀ row ∈ s.filters.populated,
      format.groupsOf catalog ⟨row.1, format.entriesValue (.filter row.1) row.2⟩ = [] := by
    intro row hrow
    simp [Format.groupsOf, apart.purpose_category (categories row hrow)]
  have settings : ∀ setting : Setting,
      format.groupsOf catalog ⟨setting.name, format.settingValue s setting⟩ = [] := by
    intro setting
    simp [Format.groupsOf, apart.purpose_setting]
  rw [decode_encode_eq hne, Format.groups_readLink, flatMap_parameters,
    List.flatMap_eq_nil_iff.2 rows, List.flatMap_eq_nil_iff.2 fun setting _ => settings setting,
    List.append_nil, List.append_nil]
  rw [List.map_eq_flatMap, List.filter_flatMap]
  simp only [Format.groupsOf, Format.purpose_eq_subjects_iff, if_true]
  rfl

/-- **The entries that a category comes to** depend on its own entries only. -/
theorem entriesOf_decode_encode (category : String) :
    (format.decode catalog (format.encode s)).selection.filters.entriesOf category =
      format.reread catalog (.filter category) (s.filters.entriesOf category) := by
  have rows : ∀ row ∈ s.filters.populated, format.choicesOf catalog category
      ⟨row.1, format.entriesValue (.filter row.1) row.2⟩ =
        if row.1 = category then format.reread catalog (.filter category) row.2 else [] := by
    intro row hrow
    rw [apart.choicesOf_row (categories row hrow)]
    split
    · rename_i same
      rw [same]
    · rfl
  rw [decode_encode_eq hne, Format.entriesOf_readLink, flatMap_parameters,
    List.flatMap_eq_nil_iff.2 fun group _ => Format.choicesOf_subject category _,
    List.flatMap_eq_nil_iff.2 fun setting _ => apart.choicesOf_setting category setting _,
    List.nil_append, List.append_nil, List.flatMap_congr rows]
  exact s.filters.flatMap_populated category Format.reread_nil

/-- **No category changes place**, and those that come to nothing are not there. -/
theorem names_decode_encode :
    (format.decode catalog (format.encode s)).selection.filters.names =
      (s.filters.populated.filter fun row =>
        !(format.reread catalog (.filter row.1) row.2).isEmpty).map Prod.fst := by
  have groups : ∀ group : List Entry, format.namesOf catalog
      ⟨format.subjectName, format.entriesValue .subject group⟩ = [] := fun group =>
    if_pos (Format.choicesOf_subject _ _)
  have settings : ∀ setting : Setting, format.namesOf catalog
      ⟨setting.name, format.settingValue s setting⟩ = [] := fun setting =>
    if_pos (apart.choicesOf_setting _ setting _)
  have rows : ∀ row ∈ s.filters.populated, format.namesOf catalog
      ⟨row.1, format.entriesValue (.filter row.1) row.2⟩ =
        ([row].filter fun row => !(format.reread catalog (.filter row.1) row.2).isEmpty).map
          Prod.fst := by
    intro row hrow
    rw [Format.namesOf, apart.choicesOf_row (categories row hrow)]
    by_cases lost : format.reread catalog (.filter row.1) row.2 = [] <;> simp [lost]
  have nodup : ((s.filters.populated.filter fun row =>
      !(format.reread catalog (.filter row.1) row.2).isEmpty).map Prod.fst).Nodup :=
    ((List.filter_sublist.trans List.filter_sublist).map Prod.fst).nodup s.filters.nodup
  rw [decode_encode_eq hne, Format.names_readLink, flatMap_parameters,
    List.flatMap_eq_nil_iff.2 fun group _ => groups group,
    List.flatMap_eq_nil_iff.2 fun setting _ => settings setting, List.nil_append, List.append_nil,
    List.flatMap_congr rows, ← List.map_flatMap, ← List.filter_flatMap, List.flatMap_singleton',
    eraseDups_of_nodup nodup]

/-- **Each category comes to its own entries**, at its place. -/
theorem rows_decode_encode :
    (format.decode catalog (format.encode s)).selection.filters.rows =
      (s.filters.populated.map fun row => (row.1, format.reread catalog (.filter row.1) row.2)).filter
        fun row => !row.2.isEmpty := by
  have own : ∀ row ∈ s.filters.populated, s.filters.entriesOf row.1 = row.2 := fun row hrow =>
    Filters.entriesOf_of_mem (List.mem_of_mem_filter hrow)
  rw [Filters.rows_eq_map_names, names_decode_encode hne apart categories, List.map_map,
    List.filter_map]
  refine List.map_congr_left fun row hrow => ?_
  simp only [Function.comp_apply, entriesOf_decode_encode hne apart categories,
    own row (List.mem_of_mem_filter hrow)]

/-- **The settings are there**, all but article ids that the separator does not keep apart. -/
theorem value_decode_encode (pageSize_pos : 1 ≤ s.pageSize) (pageSize_lt : s.pageSize < UInt64.size)
    {setting : Setting} (scalar : setting ≠ .pmids) :
    (format.decode catalog (format.encode s)).selection.value setting = s.value setting := by
  have groups : ∀ group : List Entry, format.valueOf? catalog setting
      ⟨format.subjectName, format.entriesValue .subject group⟩ = none := by
    intro group
    simp [Format.valueOf?, Format.purpose_eq_subjects_iff.2]
  have rows : ∀ row ∈ s.filters.populated, format.valueOf? catalog setting
      ⟨row.1, format.entriesValue (.filter row.1) row.2⟩ = none := by
    intro row hrow
    simp [Format.valueOf?, apart.purpose_category (categories row hrow)]
  have read : format.readValue? setting (format.settingValue s setting) = some (s.value setting) :=
    readValue?_settingValue pageSize_pos pageSize_lt scalar
  have own : (Coded.all : List Setting).filterMap (fun other => format.valueOf? catalog setting
      ⟨other.name, format.settingValue s other⟩) = [s.value setting] := by
    simp only [apart.valueOf?_setting]
    cases setting <;> simp [Coded.all, read]
  rw [decode_encode_eq hne, Format.value_readLink, List.filterMap_eq_flatMap_toList,
    flatMap_parameters, List.flatMap_eq_nil_iff.2 fun group _ => by rw [groups group]; rfl,
    List.flatMap_eq_nil_iff.2 fun row hrow => by rw [rows row hrow]; rfl, List.nil_append,
    List.nil_append, ← List.filterMap_eq_flatMap_toList, own]
  rfl

omit apart categories in
/-- **The anchor is there**, unless it is empty. -/
theorem anchor_decode_encode :
    (format.decode catalog (format.encode s)).selection.anchor = keptAnchor s.anchor := by
  rw [decode_encode_eq hne, Format.anchor_readLink]

end Link

/-! ## Containment -/

namespace Link

variable {format : Format} {catalog : Catalog} {d : Definitions}

/-- **Damage is contained.**  What the entries of a group or a category come to is a matter of these
entries alone, whatever else the selection holds: what a link keeps of them if their names are
intact, and no more than one group or category otherwise, at the same place. -/
theorem damage_contained (conventional : format.Conventional)
    (built : Catalog.build d = .ok catalog) (hne : catalog.isEmpty = false) :
    ∃ come : Position → List Entry → List Entry,
      (∀ position : Position, position.Known catalog →
        ∀ entries : List Entry, (∀ e ∈ entries, e.FromCatalog catalog position) →
          (∀ e ∈ entries, e.Intact) → come position entries = entries.map (Entry.kept position)) ∧
      ∀ s : Selection, s.Within catalog →
        let read := (format.decode catalog (format.encode s)).selection
        read.groups = (s.populatedGroups.map (come .subject)).filter (fun group => !group.isEmpty) ∧
        read.filters.rows =
          (s.filters.populated.map fun row => (row.1, come (.filter row.1) row.2)).filter
            (fun row => !row.2.isEmpty) ∧
        (∀ row ∈ s.filters.populated, (∀ e ∈ row.2, e.Intact) →
          read.filters.get? row.1 = some (row.2.map (Entry.kept (.filter row.1)))) ∧
        (read.advanced, read.sort, read.collapsed, read.pageSize) =
          (s.advanced, s.sort, s.collapsed, s.pageSize) ∧
        read.anchor = keptAnchor s.anchor := by
  have apart := conventional.namesApart built
  refine ⟨format.reread catalog, fun position known entries own intact =>
    conventional.reread_of_intact known own intact, fun s within => ?_⟩
  have rows := rows_decode_encode hne apart within.categories
  have value : ∀ setting : Setting, setting ≠ .pmids →
      (format.decode catalog (format.encode s)).selection.value setting = s.value setting :=
    fun setting scalar => value_decode_encode hne apart within.categories within.pageSize_pos
      within.pageSize_lt scalar
  refine ⟨groups_decode_encode hne apart within.categories, rows, fun row hrow intact => ?_, ?_,
    anchor_decode_encode hne⟩
  · have known : Position.Known catalog (.filter row.1) := within.categories row hrow
    have kept : format.reread catalog (.filter row.1) row.2 = row.2.map (Entry.kept (.filter row.1)) :=
      conventional.reread_of_intact known (within.choices row hrow) intact
    have some_entry : row.2 ≠ [] := by simpa using (List.mem_filter.1 hrow).2
    rw [← Filters.mem_rows_iff, rows, ← kept]
    refine List.mem_filter.2 ⟨List.mem_map.2 ⟨row, hrow, rfl⟩, ?_⟩
    simpa [kept] using some_entry
  · exact Prod.ext (value .advanced (by decide)) <| Prod.ext (value .sort (by decide)) <|
      Prod.ext (value .collapsed (by decide)) (value .pageSize (by decide))

namespace Example

/-- Names that close their braces, go on with an entry and open others, or are empty, and texts that
write settings. -/
def hostile : Selection where
  groups :=
    [[.custom ⟨"\x7d\x7d#s;;onc.1#b;;\x7b\x7b", .normal, false, none⟩],
      [.facet Catalog.Example.subject .narrow, .custom ⟨"&sort=date", .broad, true, some "term"⟩],
      [.custom ⟨"", .broad, true, none⟩]]
  filters :=
    { rows := [("type", [.custom ⟨"#;", .normal, true, none⟩, .facet Catalog.Example.choice .broad])]
      nodup := by simp }
  collapsed := true
  pageSize := 25
  pmids := ["1;;2", "&pageSize=3", ";"]
  anchor := some "x#&advanced=true"

theorem hostile_within : hostile.Within Catalog.Example.catalog where
  subjects := by decide
  categories := by decide
  choices := by decide
  pageSize_pos := by decide
  pageSize_lt := by decide

end Example

theorem damage_contained_of_injection :
    Catalog.build Catalog.Example.definitions = .ok Catalog.Example.catalog ∧
      Catalog.Example.catalog.isEmpty = false ∧
      Example.hostile.Within Catalog.Example.catalog ∧
      let read :=
        (({} : Format).decode Catalog.Example.catalog (({} : Format).encode Example.hostile)).selection
      read.groups =
          [[.facet Catalog.Example.subject .broad],
            [.facet Catalog.Example.subject .narrow, .custom ⟨"&sort=date", .broad, true, none⟩]] ∧
        read.filters.get? "type" =
          some [.custom ⟨"#;", .normal, false, none⟩, .facet Catalog.Example.choice .broad] ∧
        (read.advanced, read.sort, read.collapsed, read.pageSize) = (false, .relevance, true, 25) ∧
        read.anchor = some "x#&advanced=true" := by
  obtain ⟨come, -, contained⟩ :=
    damage_contained conventional_default Catalog.Example.build_definitions rfl
  obtain ⟨-, -, categories, values, anchor⟩ := contained Example.hostile Example.hostile_within
  have apart := conventional_default.namesApart Catalog.Example.build_definitions
  have groups := groups_decode_encode rfl apart Example.hostile_within.categories
  exact ⟨Catalog.Example.build_definitions, rfl, Example.hostile_within,
    groups.trans (by decide +kernel),
    categories ("type", [.custom ⟨"#;", .normal, true, none⟩, .facet Catalog.Example.choice .broad])
      (by decide) (by decide), values, anchor⟩

end Link

end FacetedSearch
