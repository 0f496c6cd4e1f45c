/-
# FacetedSearch.Selection.Filters -- selected entries by category

Each category stands at most once, in the order in which the categories were first used.  Two
filters have the same contents if they give each category the same entries, whatever the order of
the categories (`Filters.sameContents`).  Adding entries changes the entries of their category only
(`Filters.get?_extend`), and of the facets with a key the earliest is taken
(`Filters.takeKey?_eq_some_iff`).
-/
import FacetedSearch.Keyed
import FacetedSearch.Selection.Entry

namespace FacetedSearch

set_option autoImplicit false

/-- The selected entries of each filter category. -/
@[ext]
structure Filters where
  /-- Each category with its entries. -/
  rows : List (String × List Entry) := []
  /-- No category stands twice. -/
  nodup : (rows.map Prod.fst).Nodup := by exact List.nodup_nil
  deriving DecidableEq

namespace Filters

instance : Inhabited Filters := ⟨{}⟩

/-- The entries of a category, if it stands there. -/
def get? (filters : Filters) (category : String) : Option (List Entry) :=
  (Keyed.lookup Prod.fst category filters.rows).map Prod.snd

/-- The categories that have entries. -/
def populated (filters : Filters) : List (String × List Entry) :=
  filters.rows.filter fun row => !row.2.isEmpty

/-! ## Adding -/

/-- Adds entries to a category among rows, after all others if it is new. -/
def extendRows (category : String) (entries : List Entry) :
    List (String × List Entry) → List (String × List Entry)
  | [] => [(category, entries)]
  | row :: rest =>
    if row.1 = category then (category, row.2 ++ entries) :: rest
    else row :: extendRows category entries rest

theorem map_fst_extendRows (category : String) (entries : List Entry)
    (rows : List (String × List Entry)) :
    (extendRows category entries rows).map Prod.fst =
      if category ∈ rows.map Prod.fst then rows.map Prod.fst
      else rows.map Prod.fst ++ [category] := by
  induction rows with
  | nil => simp [extendRows]
  | cons row rest ih =>
    by_cases h : row.1 = category
    · simp [extendRows, h]
    · simp only [extendRows, h, if_false, List.map_cons, ih, List.mem_cons, Ne.symm h, false_or]
      split <;> simp

/-- Adds entries to a category, which stands there afterwards even if it has none. -/
def extend (filters : Filters) (category : String) (entries : List Entry) : Filters where
  rows := extendRows category entries filters.rows
  nodup := by
    rw [map_fst_extendRows]
    split
    · exact filters.nodup
    · rename_i h
      rw [List.nodup_append]
      refine ⟨filters.nodup, by simp, ?_⟩
      rintro a ha b hb rfl
      exact h (List.mem_singleton.1 hb ▸ ha)

theorem lookup_extendRows (category other : String) (entries : List Entry)
    (rows : List (String × List Entry)) :
    (Keyed.lookup Prod.fst other (extendRows category entries rows)).map Prod.snd =
      if other = category then
        some (((Keyed.lookup Prod.fst category rows).map Prod.snd).getD [] ++ entries)
      else (Keyed.lookup Prod.fst other rows).map Prod.snd := by
  induction rows with
  | nil => by_cases h : other = category <;> simp [extendRows, Keyed.lookup, h, Ne.symm]
  | cons row rest ih =>
    simp only [Keyed.lookup] at ih ⊢
    by_cases hrow : row.1 = category
    · by_cases h : other = category
      · simp [extendRows, hrow, h]
      · have hne : row.1 ≠ other := fun heq => h (heq ▸ hrow)
        simp [extendRows, hrow, h, Ne.symm h]
    · by_cases h : other = category
      · subst h
        simpa [extendRows, hrow] using ih
      · by_cases hother : row.1 = other
        · simp [extendRows, h, hother]
        · simpa [extendRows, hrow, h, hother] using ih

/-- A category has its entries and those added to it. -/
theorem get?_extend (filters : Filters) (category other : String) (entries : List Entry) :
    (filters.extend category entries).get? other =
      if other = category then some ((filters.get? category).getD [] ++ entries)
      else filters.get? other :=
  lookup_extendRows category other entries filters.rows

/-! ## Removing -/

/-- The earliest entry with the key and the entries without it. -/
def takeKey? (key : Facet.Key) : List Entry → Option (Entry × List Entry)
  | [] => none
  | entry :: rest =>
    if entry.key? = some key then some (entry, rest)
    else (takeKey? key rest).map fun (taken, left) => (taken, entry :: left)

variable {filters next : Filters} {category : String} {key : Facet.Key} {entries left : List Entry}
  {taken : Entry}

theorem takeKey?_eq_none_iff : takeKey? key entries = none ↔ ∀ e ∈ entries, e.key? ≠ some key := by
  induction entries with
  | nil => simp [takeKey?]
  | cons e rest ih =>
      rw [takeKey?, List.forall_mem_cons]
      split
      · rename_i here
        simp [here]
      · rename_i other
        simp [ih, other]

/-- The entry that is taken is the earliest with the key, and the others keep their order. -/
theorem takeKey?_eq_some_iff :
    takeKey? key entries = some (taken, left) ↔ ∃ before after,
      entries = before ++ taken :: after ∧ left = before ++ after ∧ taken.key? = some key ∧
        ∀ e ∈ before, e.key? ≠ some key := by
  induction entries generalizing left with
  | nil => simp [takeKey?]
  | cons e rest ih =>
      rw [takeKey?]
      split
      · rename_i here
        constructor
        · intro found
          obtain ⟨rfl, rfl⟩ := Prod.mk.inj (Option.some.inj found)
          exact ⟨[], rest, rfl, rfl, here, by simp⟩
        · rintro ⟨before, after, cut, rfl, -, earliest⟩
          cases before with
          | nil =>
              obtain ⟨rfl, rfl⟩ := List.cons.inj cut
              rfl
          | cons first before =>
              obtain ⟨rfl, -⟩ := List.cons.inj cut
              exact absurd here (earliest e List.mem_cons_self)
      · rename_i other
        constructor
        · intro found
          obtain ⟨⟨t, l⟩, behind, same⟩ := Option.map_eq_some_iff.1 found
          obtain ⟨rfl, rfl⟩ := Prod.mk.inj same
          obtain ⟨before, after, rfl, rfl, matching, earliest⟩ := ih.1 behind
          exact ⟨e :: before, after, rfl, rfl, matching, List.forall_mem_cons.2 ⟨other, earliest⟩⟩
        · rintro ⟨before, after, cut, rfl, matching, earliest⟩
          cases before with
          | nil =>
              obtain ⟨rfl, -⟩ := List.cons.inj cut
              exact absurd matching other
          | cons first before =>
              obtain ⟨rfl, rfl⟩ := List.cons.inj cut
              have behind := ih.2 ⟨before, after, rfl, rfl, matching,
                (List.forall_mem_cons.1 earliest).2⟩
              rw [behind]
              rfl

/-- The rows with other entries for a category, and without it if there are none. -/
def replaceRows (category : String) (entries : List Entry) (rows : List (String × List Entry)) :
    List (String × List Entry) :=
  rows.filterMap fun row =>
    if row.1 = category then if entries.isEmpty then none else some (category, entries)
    else some row

theorem map_fst_replaceRows_sublist (category : String) (entries : List Entry)
    (rows : List (String × List Entry)) :
    ((replaceRows category entries rows).map Prod.fst).Sublist (rows.map Prod.fst) := by
  induction rows with
  | nil => simp [replaceRows]
  | cons row rest ih =>
    simp only [replaceRows] at ih ⊢
    by_cases h : row.1 = category
    · by_cases hempty : entries.isEmpty
      · simpa [h, hempty] using ih.trans (List.sublist_cons_self _ _)
      · simpa [h, hempty] using ih
    · simpa [h] using ih

/-- Takes the earliest facet with the key from a category, which goes with its last entry. -/
def remove? (filters : Filters) (category : String) (key : Facet.Key) :
    Option (Entry × Filters) := do
  let entries ← filters.get? category
  let (taken, left) ← takeKey? key entries
  return (taken,
    { rows := replaceRows category left filters.rows
      nodup := (map_fst_replaceRows_sublist category left filters.rows).nodup filters.nodup })

/-- There is nothing to take where the category is absent or has no facet with the key. -/
theorem remove?_eq_none_iff :
    filters.remove? category key = none ↔ filters.get? category = none ∨
      ∃ entries, filters.get? category = some entries ∧ takeKey? key entries = none := by
  rw [remove?]
  cases filters.get? category with
  | none => simp
  | some entries =>
      cases h : takeKey? key entries <;> simp [h]

/-- What is taken comes from the entries of the category, and the others replace them. -/
theorem remove?_eq_some_iff :
    filters.remove? category key = some (taken, next) ↔ ∃ entries left,
      filters.get? category = some entries ∧ takeKey? key entries = some (taken, left) ∧
        next.rows = replaceRows category left filters.rows := by
  constructor
  · intro removed
    simp only [remove?, Option.bind_eq_bind, Option.bind_eq_some_iff] at removed
    obtain ⟨entries, present, ⟨t, left⟩, take, same⟩ := removed
    obtain ⟨rfl, rfl⟩ := Prod.mk.inj (Option.some.inj same)
    exact ⟨entries, left, present, take, rfl⟩
  · rintro ⟨entries, left, present, take, rows⟩
    have same : next = ⟨replaceRows category left filters.rows, rows ▸ next.nodup⟩ :=
      Filters.ext rows
    rw [remove?, present, same]
    simp [take]

/-! ## Comparing -/

/-- Both give each category the same entries. -/
def sameContents (a b : Filters) : Bool :=
  a.rows.length == b.rows.length && a.rows.all fun row => b.get? row.1 == some row.2

end Filters

end FacetedSearch
