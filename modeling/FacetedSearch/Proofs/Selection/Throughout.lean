/-
# FacetedSearch.Proofs.Selection.Throughout -- a property of all entries of a selection

`Selection.Throughout P` says that every entry has the property where it stands, and that no
category stands there without entries; empty groups may.  Whatever changes a selection keeps it, as
long as the entries that come in have the property:

* `Throughout.addGroup`, `.pushSubject`, `.addFilter`, `.removeFilter`, `.setScope`, `.clear`: what
  a user does;
* `Throughout.append`, `.extend`: what a parameter of a link does.

Taking the last entry of a category takes the category with it (`mem_replaceRows`); this is where a
category without entries could be left behind.
-/
import FacetedSearch.Link.Format
import FacetedSearch.Selection.Basic

namespace FacetedSearch

set_option autoImplicit false

/-- Every entry of a category has the property there, and every category has entries. -/
structure Filters.Throughout (P : Link.Position → Entry → Prop) (filters : Filters) : Prop where
  populated : ∀ row ∈ filters.rows, row.2 ≠ []
  choices : ∀ row ∈ filters.rows, ∀ e ∈ row.2, P (.filter row.1) e

/-- Every entry has the property where it stands, and every category has entries. -/
structure Selection.Throughout (P : Link.Position → Entry → Prop) (s : Selection) : Prop where
  subjects : ∀ group ∈ s.groups, ∀ e ∈ group, P .subject e
  filters : s.filters.Throughout P

/-! ## Rows -/

namespace Filters

variable {category : String} {entries : List Entry}

theorem extendRows_of_notMem {rows : List (String × List Entry)}
    (new : category ∉ rows.map Prod.fst) (entries : List Entry) :
    extendRows category entries rows = rows ++ [(category, entries)] := by
  induction rows with
  | nil => rfl
  | cons row rest ih =>
      simp only [List.map_cons, List.mem_cons, not_or] at new
      simp [extendRows, Ne.symm new.1, ih new.2]

/-- A row after adding is an old one, or that of the category with the new entries at its end. -/
theorem mem_extendRows {rows : List (String × List Entry)} {row : String × List Entry}
    (member : row ∈ extendRows category entries rows) :
    row ∈ rows ∨
      ∃ old, row = (category, old ++ entries) ∧ (old = [] ∨ (category, old) ∈ rows) := by
  induction rows with
  | nil => exact .inr ⟨[], List.mem_singleton.1 member, .inl rfl⟩
  | cons first rest ih =>
      rw [extendRows] at member
      split at member
      · rename_i same
        rcases List.mem_cons.1 member with rfl | member
        · have hfirst : (category, first.2) = first := Prod.ext same.symm rfl
          exact .inr ⟨first.2, rfl, .inr (hfirst ▸ List.mem_cons_self)⟩
        · exact .inl (List.mem_cons_of_mem _ member)
      · rcases List.mem_cons.1 member with rfl | member
        · exact .inl List.mem_cons_self
        · rcases ih member with old | ⟨old, rfl, fresh | present⟩
          · exact .inl (List.mem_cons_of_mem _ old)
          · exact .inr ⟨old, rfl, .inl fresh⟩
          · exact .inr ⟨old, rfl, .inr (List.mem_cons_of_mem _ present)⟩

theorem subset_of_takeKey? {key : Facet.Key} {taken : Entry} {left : List Entry}
    (take : takeKey? key entries = some (taken, left)) : left ⊆ entries := by
  obtain ⟨before, after, rfl, rfl, -⟩ := takeKey?_eq_some_iff.1 take
  exact ((List.sublist_cons_self taken after).append_left before).subset

/-- A row after replacing is an old one, or that of the category with the entries left, if any. -/
theorem mem_replaceRows {rows : List (String × List Entry)} {row : String × List Entry}
    (member : row ∈ replaceRows category entries rows) :
    row ∈ rows ∨ row = (category, entries) ∧ entries ≠ [] := by
  obtain ⟨old, hold, replaced⟩ := List.mem_filterMap.1 member
  split at replaced
  · split at replaced
    · cases replaced
    · rename_i _ some_left
      exact .inr ⟨(Option.some.inj replaced).symm, by simpa using some_left⟩
  · obtain rfl := Option.some.inj replaced
    exact .inl hold

namespace Throughout

variable {P : Link.Position → Entry → Prop} {filters : Filters}

theorem empty : Throughout P {} := ⟨by simp, by simp⟩

theorem extend (h : filters.Throughout P) (some_new : entries ≠ [])
    (new : ∀ e ∈ entries, P (.filter category) e) :
    (filters.extend category entries).Throughout P := by
  constructor
  · intro row member
    rcases mem_extendRows member with old | ⟨old, rfl, -⟩
    · exact h.populated row old
    · exact List.append_ne_nil_of_right_ne_nil _ some_new
  · intro row member e he
    rcases mem_extendRows member with old | ⟨old, rfl, present⟩
    · exact h.choices row old e he
    · rcases List.mem_append.1 he with he | he
      · rcases present with rfl | present
        · cases he
        · exact h.choices _ present e he
      · exact new e he

theorem remove? (h : filters.Throughout P) {key : Facet.Key} {taken : Entry} {left : Filters}
    (removed : filters.remove? category key = some (taken, left)) : left.Throughout P := by
  obtain ⟨entries, rest, present, take, rows⟩ := remove?_eq_some_iff.1 removed
  obtain ⟨row, found, rfl⟩ := Option.map_eq_some_iff.1 present
  obtain ⟨hrow, rfl⟩ := Keyed.mem_of_lookup found
  constructor
  · intro r member
    rw [rows] at member
    rcases mem_replaceRows member with old | ⟨rfl, some_left⟩
    · exact h.populated r old
    · exact some_left
  · intro r member e he
    rw [rows] at member
    rcases mem_replaceRows member with old | ⟨rfl, -⟩
    · exact h.choices r old e he
    · exact h.choices row hrow e (subset_of_takeKey? take he)

end Throughout

end Filters

/-! ## Selections -/

namespace Selection

theorem mem_pushTo {entry : Entry} {n : Nat} {groups : List (List Entry)} {group : List Entry}
    (member : group ∈ pushTo entry n groups) :
    ∀ e ∈ group, e = entry ∨ ∃ g ∈ groups, e ∈ g := by
  induction n, groups using pushTo.induct with
  | case1 =>
      obtain rfl := List.mem_singleton.1 member
      exact fun e he => .inl (List.mem_singleton.1 he)
  | case2 first rest =>
      intro e he
      rcases List.mem_cons.1 member with rfl | member
      · rcases List.mem_append.1 he with he | he
        · exact .inr ⟨first, List.mem_cons_self, he⟩
        · exact .inl (List.mem_singleton.1 he)
      · exact .inr ⟨group, List.mem_cons_of_mem _ member, he⟩
  | case3 n ih =>
      intro e he
      rcases List.mem_cons.1 member with rfl | member
      · cases he
      · exact ih member e he
  | case4 n first rest ih =>
      intro e he
      rcases List.mem_cons.1 member with rfl | member
      · exact .inr ⟨group, List.mem_cons_self, he⟩
      · exact (ih member e he).imp_right fun ⟨g, hg, he⟩ => ⟨g, List.mem_cons_of_mem _ hg, he⟩

namespace Throughout

variable {P Q : Link.Position → Entry → Prop} {s : Selection}

theorem mono (h : s.Throughout P) (weaker : ∀ position e, P position e → Q position e) :
    s.Throughout Q :=
  ⟨fun group hgroup e he => weaker _ e (h.subjects group hgroup e he),
    h.filters.populated, fun row hrow e he => weaker _ e (h.filters.choices row hrow e he)⟩

/-- Settings do not matter. -/
theorem congr (h : s.Throughout P) {next : Selection} (groups : next.groups = s.groups)
    (filters : next.filters = s.filters) : next.Throughout P :=
  ⟨groups ▸ h.subjects, filters ▸ h.filters⟩

theorem append (h : s.Throughout P) {group : List Entry} (new : ∀ e ∈ group, P .subject e) :
    { s with groups := s.groups ++ [group] }.Throughout P := by
  refine ⟨fun g hg => ?_, h.filters⟩
  rcases List.mem_append.1 hg with hg | hg
  · exact h.subjects g hg
  · obtain rfl := List.mem_singleton.1 hg
    exact new

theorem extend (h : s.Throughout P) {category : String} {entries : List Entry}
    (some_new : entries ≠ []) (new : ∀ e ∈ entries, P (.filter category) e) :
    { s with filters := s.filters.extend category entries }.Throughout P :=
  ⟨h.subjects, h.filters.extend some_new new⟩

theorem addGroup (h : s.Throughout P) : s.addGroup.Throughout P := h.append (by simp)

theorem pushSubject (h : s.Throughout P) {entry : Entry} (new : P .subject entry) (group : Nat) :
    (s.pushSubject group entry).Throughout P := by
  refine ⟨fun g hg e he => ?_, h.filters⟩
  rcases mem_pushTo hg e he with rfl | ⟨old, hold, he⟩
  · exact new
  · exact h.subjects old hold e he

theorem addFilter (h : s.Throughout P) {category : String} {entry : Entry}
    (new : P (.filter category) entry) : (s.addFilter category entry).Throughout P :=
  h.extend (by simp) (by simpa using new)

theorem removeFilter (h : s.Throughout P) (category : String) (key : Facet.Key) :
    (s.removeFilter category key).2.Throughout P := by
  unfold Selection.removeFilter
  split
  · rename_i taken filters removed
    exact ⟨h.subjects, h.filters.remove? removed⟩
  · exact h

theorem setScope (h : s.Throughout P) {scope : Scope}
    (closed : ∀ e, P .subject e → P .subject (e.withScope scope)) (group entry : Nat) :
    (s.setScope group entry scope).2.Throughout P := by
  unfold Selection.setScope
  split
  · exact h
  · rename_i entries found
    split
    · refine ⟨fun g hg e he => ?_, h.filters⟩
      have old := h.subjects entries (List.mem_of_getElem? found)
      rcases List.mem_or_eq_of_mem_set hg with hg | rfl
      · exact h.subjects g hg e he
      · obtain ⟨i, hi, rfl⟩ := List.mem_iff_getElem.1 he
        rw [List.getElem_modify]
        have hmem := old _ (List.getElem_mem (by simpa using hi))
        split
        · exact closed _ hmem
        · exact hmem
    · exact h

theorem clear : s.clear.Throughout P := ⟨by simp [Selection.clear], Filters.Throughout.empty⟩

end Throughout

end Selection

end FacetedSearch
