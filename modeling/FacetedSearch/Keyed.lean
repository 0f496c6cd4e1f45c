/-
# FacetedSearch.Keyed -- looking up by key in a list

Tables are lists of rows that each have a key.  While no two rows have one key, the row that a look
up finds is the only one with that key (`lookup_eq_some_iff`).
-/
namespace FacetedSearch.Keyed

set_option autoImplicit false

variable {α β : Type} [DecidableEq β]

/-- The first row that has the key. -/
def lookup (key : α → β) (k : β) (rows : List α) : Option α := rows.find? fun row => key row == k

theorem mem_of_lookup {key : α → β} {k : β} {rows : List α} {row : α}
    (h : lookup key k rows = some row) : row ∈ rows ∧ key row = k :=
  ⟨List.mem_of_find?_eq_some h, by simpa using List.find?_some h⟩

theorem lookup_eq_none_iff {key : α → β} {k : β} {rows : List α} :
    lookup key k rows = none ↔ k ∉ rows.map key := by
  simp [lookup, List.find?_eq_none]

/-- Distinct keys leave one row to find. -/
theorem lookup_eq_some_iff {key : α → β} {k : β} {rows : List α} (h : (rows.map key).Nodup)
    {row : α} : lookup key k rows = some row ↔ row ∈ rows ∧ key row = k := by
  refine ⟨mem_of_lookup, ?_⟩
  rintro ⟨hmem, rfl⟩
  induction rows with
  | nil => simp at hmem
  | cons first rest ih =>
    rw [List.map_cons, List.nodup_cons] at h
    rcases List.mem_cons.1 hmem with rfl | hrest
    · simp [lookup]
    · have hne : key first ≠ key row := fun heq => h.1 (heq ▸ List.mem_map_of_mem hrest)
      have := ih h.2 hrest
      simpa [lookup, hne] using this

end FacetedSearch.Keyed
