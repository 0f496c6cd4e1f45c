/-
# FacetedSearch.Proofs.Link.Parts -- what a link comes to, part by part

What a parameter serves for is a matter of its name (`Format.purpose`), and it contributes to one
part of the selection only: a group, entries of a category, or the value of a setting.  So each part
of the selection of a link is made up of what the parameters contribute to it, in their order, and
of nothing else:

* `groups_readLink`: the groups are those that the parameters give, one after another;
* `entriesOf_readLink`: so are the entries of each category;
* `names_readLink`: categories stand in the order in which they first get entries;
* `value_readLink`: a setting has the last value that can be read, or the one it starts with.
-/
import FacetedSearch.Link.Read
import FacetedSearch.Proofs.Catalog.Built
import FacetedSearch.Proofs.Runs
import FacetedSearch.Proofs.Selection.Parts

namespace FacetedSearch

set_option autoImplicit false

namespace Link

/-! ## Purposes -/

/-- What a parameter serves for. -/
inductive Purpose
  /-- It holds a subject group. -/
  | subjects
  | setting (setting : Setting)
  /-- It holds entries of the category of its name. -/
  | category
  | nothing
  deriving DecidableEq

/-- The change that sets a setting. -/
def Setting.change : (setting : Setting) → setting.Value → Change
  | .advanced => .setAdvanced
  | .sort => .setSort
  | .collapsed => .setCollapsed
  | .pageSize => .setPageSize
  | .pmids => .setPmids

@[simp] theorem Setting.groups_apply_change (setting : Setting) (value : setting.Value)
    (s : Selection) : ((setting.change value).apply s).groups = s.groups := by
  cases setting <;> rfl

@[simp] theorem Setting.filters_apply_change (setting : Setting) (value : setting.Value)
    (s : Selection) : ((setting.change value).apply s).filters = s.filters := by
  cases setting <;> rfl

namespace Format

variable (format : Format) (catalog : Catalog)

/-- A name serves for the subjects first, then for a setting, then for a category. -/
def purpose (name : String) : Purpose :=
  if name = format.subjectName then .subjects
  else
    match (Coded.ofCode? name : Option Setting) with
    | some setting => .setting setting
    | none => if (catalog.category? name).isSome then .category else .nothing

/-- The value of a setting that a text gives, if it gives any. -/
def readValue? : (setting : Setting) → String → Option setting.Value
  | .advanced => readBool?
  | .sort => Coded.ofCode?
  | .collapsed => readBool?
  | .pageSize => readPageSize?
  | .pmids => fun text => some (format.readPmids text)

/-- The entries that a parameter gives at a position. -/
def found (position : Position) (p : Parameter) : List Entry :=
  usable (format.readEntries catalog position p)

variable {format catalog}

theorem purpose_eq_subjects_iff {name : String} :
    format.purpose catalog name = .subjects ↔ name = format.subjectName := by
  unfold purpose
  split
  · simp_all
  · split
    · simp_all
    · split <;> simp_all

theorem purpose_eq_setting_iff {name : String} {setting : Setting} :
    format.purpose catalog name = .setting setting ↔
      name ≠ format.subjectName ∧ name = setting.name := by
  have hcode : (Coded.ofCode? name : Option Setting) = some setting ↔ name = setting.name := by
    rw [Coded.ofCode?_eq_some_iff, eq_comm]
    rfl
  rw [← hcode]
  unfold purpose
  split
  · simp_all
  · split
    · simp_all
    · split <;> simp_all

theorem purpose_eq_category_iff {name : String} :
    format.purpose catalog name = .category ↔
      name ≠ format.subjectName ∧ (∀ setting : Setting, name ≠ setting.name) ∧
        (catalog.category? name).isSome := by
  have hcode : (Coded.ofCode? name : Option Setting) = none ↔
      ∀ setting : Setting, name ≠ setting.name := by
    rw [Option.eq_none_iff_forall_ne_some]
    refine forall_congr' fun setting => not_congr ?_
    rw [Coded.ofCode?_eq_some_iff, eq_comm]
    rfl
  rw [← hcode]
  unfold purpose
  split
  · simp_all
  · split
    · simp_all
    · split <;> simp_all

/-- **What a parameter comes to** is a matter of what its name serves for. -/
theorem readParameter_eq (p : Parameter) :
    format.readParameter catalog p =
      match format.purpose catalog p.name with
      | .subjects =>
        ⟨some (.addGroup (format.found catalog .subject p)),
          reports (format.readEntries catalog .subject p)⟩
      | .setting setting => scalarOutcome p setting.change (format.readValue? setting p.value)
      | .category =>
        ⟨some (.addFilters p.name (format.found catalog (.filter p.name) p)),
          reports (format.readEntries catalog (.filter p.name) p)⟩
      | .nothing => { diagnostics := [.unknownParameter p.name] } := by
  unfold readParameter purpose
  by_cases subject : p.name = format.subjectName
  · rw [if_pos subject, if_pos subject]
    rfl
  · rw [if_neg subject, if_neg subject]
    cases (Coded.ofCode? p.name : Option Setting) with
    | some setting => cases setting <;> rfl
    | none =>
        cases known : catalog.category? p.name with
        | none => rfl
        | some category =>
            simp only [Option.isSome_some, if_true, Catalog.id_of_category? known]
            rfl

end Format

/-! ## Contributions -/

/-- The selection after a parameter. -/
def Outcome.apply (s : Selection) (outcome : Outcome) : Selection :=
  match outcome.change? with
  | some change => change.apply s
  | none => s

namespace Format

variable (format : Format) (catalog : Catalog)

/-- The group that a parameter adds, if it adds one. -/
def groupsOf (p : Parameter) : List (List Entry) :=
  if format.purpose catalog p.name = .subjects then
    [format.found catalog .subject p].filter fun group => !group.isEmpty
  else []

/-- The entries that a parameter adds to a category. -/
def choicesOf (category : String) (p : Parameter) : List Entry :=
  if p.name = category ∧ format.purpose catalog p.name = .category then
    format.found catalog (.filter category) p
  else []

/-- The category that a parameter has entries for. -/
def namesOf (p : Parameter) : List String :=
  if format.choicesOf catalog p.name p = [] then [] else [p.name]

/-- The value that a parameter gives to a setting. -/
def valueOf? (setting : Setting) (p : Parameter) : Option setting.Value :=
  if format.purpose catalog p.name = .setting setting then format.readValue? setting p.value
  else none

variable {format catalog} (s : Selection) (p : Parameter)

/-! ### One parameter -/

theorem apply_scalarOutcome {setting : Setting} (value? : Option setting.Value) :
    (scalarOutcome p setting.change value?).apply s =
      (value?.map fun value => (setting.change value).apply s).getD s := by
  cases value? <;> rfl

theorem groups_readParameter :
    ((format.readParameter catalog p).apply s).groups = s.groups ++ format.groupsOf catalog p := by
  rw [readParameter_eq, groupsOf]
  cases format.purpose catalog p.name with
  | subjects =>
      simp only [Outcome.apply, Change.apply, if_true, List.filter_singleton]
      cases (format.found catalog .subject p).isEmpty <;> simp
  | setting setting =>
      rw [apply_scalarOutcome]
      cases format.readValue? setting p.value <;> simp
  | category =>
      simp only [Outcome.apply, Change.apply]
      split <;> simp
  | nothing => simp [Outcome.apply]

theorem entriesOf_readParameter (category : String) :
    ((format.readParameter catalog p).apply s).filters.entriesOf category =
      s.filters.entriesOf category ++ format.choicesOf catalog category p := by
  rw [readParameter_eq, choicesOf]
  cases format.purpose catalog p.name with
  | subjects =>
      simp only [Outcome.apply, Change.apply]
      split <;> simp
  | setting setting =>
      rw [apply_scalarOutcome]
      cases format.readValue? setting p.value <;> simp
  | category =>
      simp only [Outcome.apply, Change.apply, and_true]
      split
      · rename_i none
        by_cases same : p.name = category
        · subst same
          simpa using none
        · simp [same]
      · rw [Filters.entriesOf_extend]
        by_cases same : p.name = category
        · subst same
          simp
        · simp [same]
  | nothing => simp [Outcome.apply]

theorem names_readParameter :
    ((format.readParameter catalog p).apply s).filters.names =
      s.filters.names ++ (format.namesOf catalog p).filter fun name => name ∉ s.filters.names := by
  rw [readParameter_eq, namesOf, choicesOf]
  cases format.purpose catalog p.name with
  | subjects =>
      simp only [Outcome.apply, Change.apply]
      split <;> simp
  | setting setting =>
      rw [apply_scalarOutcome]
      cases format.readValue? setting p.value <;> simp
  | category =>
      simp only [Outcome.apply, Change.apply, and_true, if_true]
      by_cases none : format.found catalog (.filter p.name) p = []
      · simp [none]
      · have hempty : (format.found catalog (.filter p.name) p).isEmpty = false := by simpa using none
        simp only [none, hempty, Bool.false_eq_true, if_false, Filters.names_extend,
          List.filter_singleton]
        by_cases known : p.name ∈ s.filters.names <;> simp [known]
  | nothing => simp [Outcome.apply]

theorem value_readParameter (setting : Setting) :
    ((format.readParameter catalog p).apply s).value setting =
      (format.valueOf? catalog setting p).getD (s.value setting) := by
  rw [readParameter_eq, valueOf?]
  cases format.purpose catalog p.name with
  | subjects =>
      simp only [Outcome.apply, Change.apply]
      split <;> cases setting <;> rfl
  | setting other =>
      rw [apply_scalarOutcome]
      by_cases same : other = setting
      · subst same
        simp only [if_true]
        cases format.readValue? other p.value <;> cases other <;> rfl
      · have different : Purpose.setting other ≠ .setting setting := by simpa using same
        simp only [different, if_false, Option.getD_none]
        cases format.readValue? other p.value with
        | none => rfl
        | some value => cases other <;> cases setting <;> first | rfl | exact absurd rfl same
  | category =>
      simp only [Outcome.apply, Change.apply]
      split <;> cases setting <;> rfl
  | nothing => rfl

theorem populated_readParameter (populated : s.filters.Populated) :
    ((format.readParameter catalog p).apply s).filters.Populated := by
  rw [readParameter_eq]
  cases format.purpose catalog p.name with
  | subjects =>
      simp only [Outcome.apply, Change.apply]
      split <;> exact populated
  | setting setting =>
      rw [apply_scalarOutcome]
      cases format.readValue? setting p.value <;> simpa using populated
  | category =>
      simp only [Outcome.apply, Change.apply]
      split
      · exact populated
      · rename_i some_found
        exact populated.extend (by simpa using some_found)
  | nothing => exact populated

/-- Parameters turn no page. -/
theorem page_apply : ∀ outcome : Outcome, (outcome.apply s).page = s.page
  | ⟨none, _⟩ => rfl
  | ⟨some change, _⟩ => by
      cases change <;> simp only [Outcome.apply, Change.apply] <;> split <;> rfl

/-- Parameters move no anchor. -/
theorem anchor_apply : ∀ outcome : Outcome, (outcome.apply s).anchor = s.anchor
  | ⟨none, _⟩ => rfl
  | ⟨some change, _⟩ => by
      cases change <;> simp only [Outcome.apply, Change.apply] <;> split <;> rfl

end Format

/-! ### All parameters -/

namespace Format

variable {format : Format} {catalog : Catalog} (link : Link)

/-- What a link starts from. -/
def start (format : Format) (anchor : Option String) : Selection :=
  { pageSize := format.defaultPageSize, anchor }

/-- A link is read parameter by parameter. -/
theorem selection_readLink :
    (format.readLink catalog link).selection =
      link.parameters.foldl (fun s p => (format.readParameter catalog p).apply s)
        (format.start link.anchor) := by
  simp only [readLink, List.foldl_filterMap, List.foldl_map]
  congr 1
  funext s p
  unfold Outcome.apply
  cases (format.readParameter catalog p).change? <;> rfl

/-- **The groups of a link** are those that its parameters give. -/
theorem groups_readLink :
    (format.readLink catalog link).selection.groups =
      link.parameters.flatMap (format.groupsOf catalog) := by
  rw [selection_readLink, foldl_append_part Selection.groups groups_readParameter]
  rfl

/-- **The entries of a category** are those that the parameters give to it. -/
theorem entriesOf_readLink (category : String) :
    (format.readLink catalog link).selection.filters.entriesOf category =
      link.parameters.flatMap (format.choicesOf catalog category) := by
  rw [selection_readLink, foldl_append_part
    (fun s => s.filters.entriesOf category) (entriesOf_readParameter · · category)]
  rfl

/-- **A setting has the last value** that the parameters give to it. -/
theorem value_readLink (setting : Setting) :
    (format.readLink catalog link).selection.value setting =
      ((link.parameters.filterMap (format.valueOf? catalog setting)).getLast?).getD
        ((format.start link.anchor).value setting) := by
  rw [selection_readLink, foldl_last_part
    (fun s => s.value setting) (format.valueOf? catalog setting) (value_readParameter · · setting)]

/-- **Categories stand in the order** in which they first get entries. -/
theorem names_readLink :
    (format.readLink catalog link).selection.filters.names =
      (link.parameters.flatMap (format.namesOf catalog)).eraseDups := by
  rw [selection_readLink]
  induction link.parameters using List.reverseRecOn with
  | nil => rfl
  | append_singleton ps p ih =>
      have once : (format.namesOf catalog p).eraseDups = format.namesOf catalog p := by
        unfold namesOf
        split <;> rfl
      rw [List.foldl_append, List.foldl_cons, List.foldl_nil, names_readParameter, ih,
        List.flatMap_append, List.flatMap_singleton, eraseDups_append_eq, once]

theorem populated_readLink : (format.readLink catalog link).selection.filters.Populated := by
  rw [selection_readLink]
  suffices h : ∀ s : Selection, s.filters.Populated →
      (link.parameters.foldl (fun s p => (format.readParameter catalog p).apply s) s).filters.Populated
    from h _ Filters.populated_empty
  induction link.parameters with
  | nil => exact fun s populated => populated
  | cons p rest ih => exact fun s populated => ih _ (populated_readParameter s p populated)

/-- A group is what one of the parameters gives. -/
theorem exists_of_mem_groups {group : List Entry}
    (member : group ∈ (format.readLink catalog link).selection.groups) :
    ∃ p ∈ link.parameters, group = format.found catalog .subject p ∧ group ≠ [] := by
  rw [groups_readLink] at member
  obtain ⟨p, listed, given⟩ := List.mem_flatMap.1 member
  unfold groupsOf at given
  split at given
  · obtain ⟨same, populated⟩ := List.mem_filter.1 given
    exact ⟨p, listed, List.mem_singleton.1 same, by simpa using populated⟩
  · cases given

/-- An entry of a category is one that a parameter of its name gives. -/
theorem exists_of_mem_row {row : String × List Entry}
    (listed : row ∈ (format.readLink catalog link).selection.filters.rows) {e : Entry}
    (member : e ∈ row.2) :
    ∃ p ∈ link.parameters, format.purpose catalog row.1 = .category ∧
      e ∈ format.found catalog (.filter row.1) p := by
  rw [← Filters.entriesOf_of_mem listed, entriesOf_readLink] at member
  obtain ⟨p, used, given⟩ := List.mem_flatMap.1 member
  unfold choicesOf at given
  split at given
  · rename_i serves
    exact ⟨p, used, serves.1 ▸ serves.2, given⟩
  · cases given

/-- A setting has the value it starts with, or one that can be read from a parameter. -/
theorem value_readLink_cases (setting : Setting) :
    (format.readLink catalog link).selection.value setting =
        (format.start link.anchor).value setting ∨
      ∃ p ∈ link.parameters, format.readValue? setting p.value =
        some ((format.readLink catalog link).selection.value setting) := by
  rw [value_readLink]
  cases last : (link.parameters.filterMap (format.valueOf? catalog setting)).getLast? with
  | none => exact .inl rfl
  | some value =>
      obtain ⟨p, listed, given⟩ := List.mem_filterMap.1 (List.mem_of_getLast? last)
      unfold valueOf? at given
      split at given
      · exact .inr ⟨p, listed, given⟩
      · cases given

theorem page_readLink : (format.readLink catalog link).selection.page = 1 := by
  rw [selection_readLink, foldl_last_part Selection.page (fun _ => none)
    fun s p => page_apply s (format.readParameter catalog p)]
  simp [start]

theorem anchor_readLink : (format.readLink catalog link).selection.anchor = link.anchor := by
  rw [selection_readLink, foldl_last_part Selection.anchor (fun _ => none)
    fun s p => anchor_apply s (format.readParameter catalog p)]
  simp [start]

theorem diagnostics_readLink :
    (format.readLink catalog link).diagnostics =
      link.parameters.flatMap fun p => (format.readParameter catalog p).diagnostics := by
  rw [readLink, List.flatMap_map]

theorem decode_eq_readLink (hne : catalog.isEmpty = false) (text : String) :
    format.decode catalog text = format.readLink catalog (ofChars text.toList) := by
  rw [decode, hne]
  rfl

end Format

end Link

end FacetedSearch
