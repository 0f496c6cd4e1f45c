/-
# FacetedSearch.Facet.Labels -- labels by locale

At most one label per locale, in ascending order of the locales, so equal contents are equal values.
A later label of a locale replaces the earlier one (`Labels.get?_insert`).  The label shown for a
locale falls back to English and then to the first label there is.
-/
namespace FacetedSearch.Facet

set_option autoImplicit false

theorem pairwise_nil : ([] : List (String × String)).Pairwise fun a b => a.1 < b.1 := .nil

/-- The labels of a facet or a category. -/
structure Labels where
  /-- Each locale with its label. -/
  entries : List (String × String) := []
  /-- Locales ascend. -/
  ascending : entries.Pairwise fun a b => a.1 < b.1 := by exact FacetedSearch.Facet.pairwise_nil
  deriving DecidableEq

namespace Labels

instance : Inhabited Labels := ⟨{}⟩

/-- Sets the label of a locale among rows whose locales ascend. -/
def insertRow (locale label : String) : List (String × String) → List (String × String)
  | [] => [(locale, label)]
  | row :: rest =>
    if locale < row.1 then (locale, label) :: row :: rest
    else if locale = row.1 then (locale, label) :: rest
    else row :: insertRow locale label rest

theorem mem_insertRow {locale label : String} {rows : List (String × String)}
    {row : String × String} (h : row ∈ insertRow locale label rows) :
    row = (locale, label) ∨ row ∈ rows := by
  induction rows with
  | nil => simpa [insertRow] using h
  | cons first rest ih =>
    simp only [insertRow] at h
    split at h
    · simpa using h
    · split at h
      · rcases List.mem_cons.1 h with h | h
        · exact .inl h
        · exact .inr (List.mem_cons_of_mem _ h)
      · rcases List.mem_cons.1 h with h | h
        · exact .inr (h ▸ List.mem_cons_self)
        · exact (ih h).imp id (List.mem_cons_of_mem _)

theorem pairwise_insertRow {locale label : String} {rows : List (String × String)}
    (h : rows.Pairwise fun a b => a.1 < b.1) :
    (insertRow locale label rows).Pairwise fun a b => a.1 < b.1 := by
  induction rows with
  | nil => simp [insertRow]
  | cons first rest ih =>
    obtain ⟨hfirst, hrest⟩ := List.pairwise_cons.1 h
    simp only [insertRow]
    split
    · rename_i hlt
      refine List.pairwise_cons.2 ⟨fun row hrow => ?_, h⟩
      rcases List.mem_cons.1 hrow with rfl | hrow
      · exact hlt
      · exact String.lt_trans hlt (hfirst row hrow)
    · split
      · rename_i heq
        exact List.pairwise_cons.2 ⟨fun row hrow => heq ▸ hfirst row hrow, hrest⟩
      · rename_i hnlt hne
        refine List.pairwise_cons.2 ⟨fun row hrow => ?_, ih hrest⟩
        rcases mem_insertRow hrow with rfl | hrow
        · exact Std.lt_of_le_of_ne (Std.not_lt.1 hnlt) (Ne.symm hne)
        · exact hfirst row hrow

/-- Sets the label of a locale. -/
def insert (labels : Labels) (locale label : String) : Labels :=
  ⟨insertRow locale label labels.entries, pairwise_insertRow labels.ascending⟩

/-- The labels of some rows, of which later ones replace earlier ones of the same locale. -/
def ofList (rows : List (String × String)) : Labels :=
  rows.foldl (fun labels row => labels.insert row.1 row.2) {}

def get? (labels : Labels) (locale : String) : Option String :=
  (labels.entries.find? fun row => row.1 == locale).map Prod.snd

theorem find?_insertRow (locale other label : String) (rows : List (String × String)) :
    ((insertRow locale label rows).find? fun row => row.1 == other).map Prod.snd =
      if other = locale then some label
      else (rows.find? fun row => row.1 == other).map Prod.snd := by
  induction rows with
  | nil => by_cases h : other = locale <;> simp [insertRow, h, Ne.symm]
  | cons row rest ih =>
    simp only [insertRow]
    split
    · by_cases h : other = locale
      · simp [h]
      · simp [List.find?_cons, h, Ne.symm h]
    · split
      · rename_i heq
        by_cases h : other = locale
        · simp [h]
        · simp [← heq, h, Ne.symm h]
      · rename_i hne
        by_cases h : row.1 = other
        · simp [h, show other ≠ locale from fun e => hne (e ▸ h.symm)]
        · simpa [List.find?_cons, h] using ih

/-- The label of the locale is the one set last. -/
theorem get?_insert (labels : Labels) (locale other label : String) :
    (labels.insert locale label).get? other =
      if other = locale then some label else labels.get? other :=
  find?_insertRow locale other label labels.entries

/-- The label shown for a locale. -/
def show? (labels : Labels) (locale : String) : Option String :=
  labels.get? locale <|> labels.get? "en" <|> (labels.entries.head?).map Prod.snd

end Labels

end FacetedSearch.Facet
