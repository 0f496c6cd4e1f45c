/-
# FacetedSearch.Proofs.Selection.Parts -- selections part by part

Filters are the names of their categories, in order, and the entries of each.  A selection is its
groups, its filters, the values of the settings that links carry (`Selection.value`), its page and
its anchor.  What is said of each part is said of the whole:

* `Filters.ext_parts`, `Selection.ext_parts`: equal parts make equal wholes;
* `Filters.sameContents_iff`, `Selection.same_iff`: two selections are the same if and only if all
  parts are equal but the order of the categories;
* `Filters.Populated.get?_eq`: where no category is without entries, the entries tell which
  categories there are.
-/
import FacetedSearch.Proofs.Selection.Throughout
import Mathlib.Data.List.Perm.Subperm

namespace FacetedSearch

set_option autoImplicit false

/-! ## Filters -/

namespace Filters

/-- The categories, in order. -/
def names (filters : Filters) : List String := filters.rows.map Prod.fst

/-- The entries of a category, none if it does not stand there. -/
def entriesOf (filters : Filters) (category : String) : List Entry :=
  (filters.get? category).getD []

/-- Every category has entries. -/
def Populated (filters : Filters) : Prop := ∀ row ∈ filters.rows, row.2 ≠ []

variable {filters a b : Filters} {category : String} {entries : List Entry}

theorem mem_rows_iff :
    (category, entries) ∈ filters.rows ↔ filters.get? category = some entries := by
  rw [get?, Option.map_eq_some_iff]
  constructor
  · intro member
    exact ⟨_, (Keyed.lookup_eq_some_iff filters.nodup).2 ⟨member, rfl⟩, rfl⟩
  · rintro ⟨row, found, rfl⟩
    obtain ⟨member, rfl⟩ := Keyed.mem_of_lookup found
    exact member

theorem mem_names_iff :
    category ∈ filters.names ↔ ∃ entries, filters.get? category = some entries := by
  constructor
  · intro member
    obtain ⟨row, hrow, rfl⟩ := List.mem_map.1 member
    exact ⟨row.2, mem_rows_iff.1 hrow⟩
  · rintro ⟨entries, found⟩
    exact List.mem_map.2 ⟨_, mem_rows_iff.2 found, rfl⟩

theorem entriesOf_of_mem {row : String × List Entry} (member : row ∈ filters.rows) :
    filters.entriesOf row.1 = row.2 := by
  rw [entriesOf, mem_rows_iff.1 member, Option.getD_some]

/-- The rows are the names with their entries. -/
theorem rows_eq_map_names (filters : Filters) :
    filters.rows = filters.names.map fun category => (category, filters.entriesOf category) := by
  have hrow : ∀ row ∈ filters.rows, (row.1, filters.entriesOf row.1) = row := fun row member =>
    Prod.ext rfl (entriesOf_of_mem member)
  calc filters.rows
      = filters.rows.map id := (List.map_id filters.rows).symm
    _ = filters.rows.map fun row => (row.1, filters.entriesOf row.1) :=
        List.map_congr_left fun row member => (hrow row member).symm
    _ = filters.names.map fun category => (category, filters.entriesOf category) := by
        rw [names, List.map_map]
        rfl

theorem ext_parts (names : a.names = b.names)
    (entries : ∀ category, a.entriesOf category = b.entriesOf category) : a = b := by
  apply Filters.ext
  rw [rows_eq_map_names a, rows_eq_map_names b, names]
  exact List.map_congr_left fun category _ => by rw [entries category]

/-! ### Adding -/

theorem entriesOf_extend (filters : Filters) (category other : String) (new : List Entry) :
    (filters.extend category new).entriesOf other =
      filters.entriesOf other ++ if category = other then new else [] := by
  rw [entriesOf, get?_extend]
  by_cases same : other = category
  · subst same
    simp [entriesOf]
  · simp [entriesOf, same, Ne.symm same]

theorem names_extend (filters : Filters) (category : String) (new : List Entry) :
    (filters.extend category new).names =
      if category ∈ filters.names then filters.names else filters.names ++ [category] :=
  map_fst_extendRows category new filters.rows

/-! ### Categories with entries -/

theorem populated_empty : Populated {} := by simp [Populated]

theorem Populated.extend (populated : filters.Populated) {new : List Entry} (some_new : new ≠ []) :
    (filters.extend category new).Populated := by
  intro row member
  rcases mem_extendRows member with old | ⟨old, rfl, -⟩
  · exact populated row old
  · exact List.append_ne_nil_of_right_ne_nil _ some_new

theorem Populated.get?_eq (populated : filters.Populated) (category : String) :
    filters.get? category =
      if filters.entriesOf category = [] then none else some (filters.entriesOf category) := by
  cases found : filters.get? category with
  | none => simp [entriesOf, found]
  | some entries =>
      have some_entry : entries ≠ [] := populated _ (mem_rows_iff.2 found)
      simp [entriesOf, found, some_entry]

theorem Populated.mem_names_iff (populated : filters.Populated) :
    category ∈ filters.names ↔ filters.entriesOf category ≠ [] := by
  rw [Filters.mem_names_iff, populated.get?_eq]
  by_cases none : filters.entriesOf category = [] <;> simp [none]

/-- Where no category is without entries, equal entries are all that a look up can tell. -/
theorem Populated.get?_congr (ha : a.Populated) (hb : b.Populated)
    (entries : a.entriesOf category = b.entriesOf category) :
    a.get? category = b.get? category := by
  rw [ha.get?_eq, hb.get?_eq, entries]

/-- What is made of the entries of one category, among all that have entries. -/
theorem flatMap_populated {α : Type} (filters : Filters) (category : String)
    {f : List Entry → List α} (nothing : f [] = []) :
    (filters.populated.flatMap fun row => if row.1 = category then f row.2 else []) =
      f (filters.entriesOf category) := by
  have unpopulated :
      (filters.populated.flatMap fun row => if row.1 = category then f row.2 else []) =
        filters.rows.flatMap fun row => if row.1 = category then f row.2 else [] := by
    unfold populated
    induction filters.rows with
    | nil => rfl
    | cons row rest ih =>
        by_cases empty : row.2 = [] <;> simp [empty, ih, nothing]
  rw [unpopulated, entriesOf, get?, Keyed.lookup]
  have nodup := filters.nodup
  generalize filters.rows = rows at nodup ⊢
  induction rows with
  | nil => simp [nothing]
  | cons row rest ih =>
      rw [List.map_cons, List.nodup_cons] at nodup
      by_cases same : row.1 = category
      · have absent : ∀ other ∈ rest, other.1 ≠ category := fun other member equal =>
          nodup.1 (List.mem_map.2 ⟨other, member, equal.trans same.symm⟩)
        have others : (rest.flatMap fun row => if row.1 = category then f row.2 else []) = [] :=
          List.flatMap_eq_nil_iff.2 fun other member => if_neg (absent other member)
        rw [List.flatMap_cons, others]
        simp [same]
      · rw [List.flatMap_cons, ih nodup.2]
        simp [same]

/-! ### The same contents -/

theorem names_perm (contents : ∀ category, a.get? category = b.get? category) :
    a.names.Perm b.names := by
  refine (List.perm_ext_iff_of_nodup a.nodup b.nodup).2 fun category => ?_
  have hb : category ∈ b.names ↔ ∃ entries, b.get? category = some entries := mem_names_iff
  rw [← contents category, ← mem_names_iff] at hb
  exact hb.symm

/-- **Filters have the same contents if and only if every look up finds the same.** -/
theorem sameContents_iff :
    a.sameContents b = true ↔ ∀ category, a.get? category = b.get? category := by
  simp only [sameContents, Bool.and_eq_true, beq_iff_eq, List.all_eq_true]
  constructor
  · rintro ⟨length, found⟩ category
    have kept : ∀ row ∈ a.rows, row ∈ b.rows := fun row hrow => mem_rows_iff.2 (found row hrow)
    -- as many names, each of them one of `b`, leave no other name to `b`
    have names : a.names.Perm b.names := by
      refine (List.subperm_of_subset a.nodup (List.map_subset _ kept)).perm_of_length_le ?_
      simp [length]
    cases ha : a.get? category with
    | some entries => exact (mem_rows_iff.1 (kept _ (mem_rows_iff.2 ha))).symm
    | none =>
        cases hb : b.get? category with
        | none => rfl
        | some entries =>
            obtain ⟨other, hother⟩ := mem_names_iff.1 (names.mem_iff.2 (mem_names_iff.2 ⟨_, hb⟩))
            rw [ha] at hother
            cases hother
  · intro contents
    have length := (names_perm contents).length_eq
    simp only [names, List.length_map] at length
    exact ⟨length, fun row hrow => contents row.1 ▸ mem_rows_iff.1 hrow⟩

end Filters

/-! ## Settings -/

/-- What a setting may be set to. -/
abbrev Link.Setting.Value : Link.Setting → Type
  | .advanced => Bool
  | .sort => SortMethod
  | .collapsed => Bool
  | .pageSize => Nat
  | .pmids => List String

namespace Selection

/-- What a setting is set to. -/
def value (s : Selection) : (setting : Link.Setting) → setting.Value
  | .advanced => s.advanced
  | .sort => s.sort
  | .collapsed => s.collapsed
  | .pageSize => s.pageSize
  | .pmids => s.pmids

variable {a b : Selection}

/-- Equal parts make equal selections. -/
theorem ext_parts (groups : a.groups = b.groups) (filters : a.filters = b.filters)
    (values : ∀ setting, a.value setting = b.value setting) (page : a.page = b.page)
    (anchor : a.anchor = b.anchor) : a = b :=
  Selection.ext groups filters (values .advanced) (values .sort) page (values .pageSize)
    (values .collapsed) (values .pmids) anchor

/-- **Selections are the same if and only if they are equal part by part**, where each category has
the same entries. -/
theorem same_iff :
    a.same b = true ↔
      a.groups = b.groups ∧ (∀ category, a.filters.get? category = b.filters.get? category) ∧
        (∀ setting, a.value setting = b.value setting) ∧ a.page = b.page ∧ a.anchor = b.anchor := by
  rw [same, Bool.and_eq_true, Filters.sameContents_iff, beq_iff_eq, Selection.mk.injEq]
  constructor
  · rintro ⟨contents, groups, -, advanced, sort, page, pageSize, collapsed, pmids, anchor⟩
    refine ⟨groups, contents, fun setting => ?_, page, anchor⟩
    cases setting <;> assumption
  · rintro ⟨groups, contents, values, page, anchor⟩
    exact ⟨contents, groups, rfl, values .advanced, values .sort, page, values .pageSize,
      values .collapsed, values .pmids, anchor⟩

theorem same_self (s : Selection) : s.same s = true :=
  same_iff.2 ⟨rfl, fun _ => rfl, fun _ => rfl, rfl, rfl⟩

end Selection

end FacetedSearch
