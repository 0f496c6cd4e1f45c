/-
# FacetedSearch.Proofs.Link.Stale -- links to facets that are gone

A link outlives the catalog that it was made with.  Let one catalog extend another
(`Catalog.Extends`): whatever the smaller one finds, the larger one finds too.  Then what a text
reads as under the smaller catalog is what it reads as under the larger one, less the facets and the
categories that the smaller one does not have, and less the groups and categories that have no
entries left (`Selection.restrict`).  Nothing else changes: not the entries beside those, not the
other groups, not a setting, not the anchor.

The order of the categories may change, because a category that gets its first known entry later
comes later; so `decode_of_smaller` compares filters category by category.  If nothing is unknown,
the readings are equal.
-/
import FacetedSearch.Proofs.Link.Entries
import FacetedSearch.Proofs.Link.Parts

namespace FacetedSearch

set_option autoImplicit false

/-- Every look up that succeeds in the smaller catalog succeeds in the larger one, with the same
facet. -/
structure Catalog.Extends (larger smaller : Catalog) : Prop where
  subjects : ∀ key f, smaller.subject? key = some f → larger.subject? key = some f
  categories : ∀ id, (smaller.category? id).isSome → (larger.category? id).isSome
  choices : ∀ id key f, smaller.choice? id key = some f → larger.choice? id key = some f

/-- The catalog has the key of the entry at the position; a tag needs none. -/
def Entry.isKnown (catalog : Catalog) (position : Link.Position) : Entry → Bool
  | facet f _ => (Link.findFacet? catalog position f.key).isSome
  | custom _ => true

/-- The filters without categories and facets that the catalog does not have. -/
def Filters.restrict (catalog : Catalog) (filters : Filters) : Filters where
  rows :=
    ((filters.rows.filter fun row => (catalog.category? row.1).isSome).map fun row =>
      (row.1, row.2.filter (Entry.isKnown catalog (.filter row.1)))).filter
        fun row => !row.2.isEmpty
  nodup := by
    refine (List.filter_sublist.map Prod.fst).nodup ?_
    rw [List.map_map]
    exact (List.filter_sublist.map Prod.fst).nodup filters.nodup

/-- The selection without what the catalog does not have, and without groups and categories that
have no entries. -/
def Selection.restrict (catalog : Catalog) (s : Selection) : Selection :=
  { s with
    groups := (s.groups.map fun group => group.filter (Entry.isKnown catalog .subject)).filter
      fun group => !group.isEmpty
    filters := s.filters.restrict catalog }

/-- The catalog has all that is selected. -/
structure Selection.KnownTo (catalog : Catalog) (s : Selection) : Prop where
  subjects : ∀ group ∈ s.groups, ∀ e ∈ group, e.isKnown catalog .subject = true
  categories : ∀ row ∈ s.filters.rows, (catalog.category? row.1).isSome
  choices : ∀ row ∈ s.filters.rows, ∀ e ∈ row.2, e.isKnown catalog (.filter row.1) = true

/-! ## Restricted filters -/

namespace Filters

variable {catalog : Catalog} {filters : Filters} {category : String} {entries : List Entry}

theorem populated_restrict : (filters.restrict catalog).Populated := by
  intro row member
  simpa using (List.mem_filter.1 member).2

theorem mem_rows_restrict_iff :
    (category, entries) ∈ (filters.restrict catalog).rows ↔
      ∃ old, (category, old) ∈ filters.rows ∧ (catalog.category? category).isSome ∧
        old.filter (Entry.isKnown catalog (.filter category)) = entries ∧ entries ≠ [] := by
  simp only [restrict, List.mem_filter, List.mem_map, Prod.mk.injEq, Bool.not_eq_true',
    List.isEmpty_eq_false_iff]
  constructor
  · rintro ⟨⟨⟨name, old⟩, ⟨member, known⟩, rfl, kept⟩, some_left⟩
    exact ⟨old, member, known, kept, some_left⟩
  · rintro ⟨old, member, known, kept, some_left⟩
    exact ⟨⟨(category, old), ⟨member, known⟩, rfl, kept⟩, some_left⟩

theorem entriesOf_restrict :
    (filters.restrict catalog).entriesOf category =
      if (catalog.category? category).isSome then
        (filters.entriesOf category).filter (Entry.isKnown catalog (.filter category))
      else [] := by
  cases found : (filters.restrict catalog).get? category with
  | some entries =>
      obtain ⟨old, member, known, rfl, -⟩ := mem_rows_restrict_iff.1 (mem_rows_iff.2 found)
      rw [entriesOf, found, Option.getD_some, if_pos known, entriesOf_of_mem member]
  | none =>
      have empty : (filters.restrict catalog).entriesOf category = [] := by
        rw [entriesOf, found, Option.getD_none]
      rw [empty]
      split
      · rename_i known
        -- entries left of the category would be those of a row
        by_contra some_left
        cases old : filters.get? category with
        | none => simp [entriesOf, old] at some_left
        | some entries =>
            have left : entries.filter (Entry.isKnown catalog (.filter category)) ≠ [] := by
              rw [entriesOf, old, Option.getD_some] at some_left
              exact Ne.symm some_left
            have row := mem_rows_restrict_iff.2 ⟨entries, mem_rows_iff.2 old, known, rfl, left⟩
            rw [mem_rows_iff, found] at row
            cases row
      · rfl

end Filters

namespace Link

variable {larger smaller : Catalog} {format : Format} {position : Position}

/-! ## Entries -/

theorem findFacet?_of_smaller (hl : larger.Extends smaller) {key : Facet.Key} {f : Facet}
    (found : findFacet? smaller position key = some f) :
    findFacet? larger position key = some f := by
  cases position with
  | subject => exact hl.subjects key f found
  | filter category => exact hl.choices category key f found

/-- A facet found by the smaller catalog is one of the larger that the smaller knows. -/
theorem findFacet?_eq_filter (position : Position) (hl : larger.Extends smaller) (key : Facet.Key)
    (scope : Scope) :
    (findFacet? smaller position key).map (Entry.facet · scope) =
      ((findFacet? larger position key).map (Entry.facet · scope)).filter
        (Entry.isKnown smaller position) := by
  cases found : findFacet? smaller position key with
  | some f =>
      have known : (findFacet? smaller position f.key).isSome := by
        rw [key_of_findFacet? found, found]
        rfl
      simp [findFacet?_of_smaller hl found, Option.filter, Entry.isKnown, known]
  | none =>
      cases other : findFacet? larger position key with
      | none => rfl
      | some f =>
          have unknown : findFacet? smaller position f.key = none := by
            rw [key_of_findFacet? other, found]
          simp [Option.filter, Entry.isKnown, unknown]

theorem readToken_of_smaller (hl : larger.Extends smaller) (parameter : String)
    (fragment token : List Char) (scope : Scope) :
    (readToken smaller position parameter fragment token scope).toOption =
      (readToken larger position parameter fragment token scope).toOption.filter
        (Entry.isKnown smaller position) := by
  unfold readToken
  cases unbrace? token with
  | some inside =>
      simp only
      split <;> rfl
  | none =>
      cases named : Facet.Key.ofText? (String.ofList token) with
      | none => simp [named, Except.toOption]
      | some key =>
          have facets := findFacet?_eq_filter position hl key scope
          simp only [named, Option.bind_some]
          cases small : findFacet? smaller position key <;>
            cases large : findFacet? larger position key <;>
            (rw [small, large] at facets; exact facets)

/-- **A fragment is read alike** under both catalogs, unless it names a facet that is gone. -/
theorem readEntry_of_smaller (hl : larger.Extends smaller) (parameter : String)
    (fragment : List Char) :
    (format.readEntry smaller position parameter fragment).toOption =
      (format.readEntry larger position parameter fragment).toOption.filter
        (Entry.isKnown smaller position) := by
  unfold Format.readEntry
  split
  · rfl
  · split
    · rfl
    · exact readToken_of_smaller hl parameter fragment _ _

theorem found_of_smaller (hl : larger.Extends smaller) (p : Parameter) :
    format.found smaller position p =
      (format.found larger position p).filter (Entry.isKnown smaller position) := by
  simp only [Format.found, usable, Format.readEntries, List.filterMap_map, List.filter_filterMap]
  congr 1
  funext fragment
  exact readEntry_of_smaller hl p.name fragment

/-! ## Parameters -/

theorem groupsOf_of_smaller (hl : larger.Extends smaller) (p : Parameter) :
    format.groupsOf smaller p =
      ((format.groupsOf larger p).map fun group =>
        group.filter (Entry.isKnown smaller .subject)).filter fun group => !group.isEmpty := by
  simp only [Format.groupsOf, Format.purpose_eq_subjects_iff]
  split
  · rw [found_of_smaller hl]
    cases format.found larger .subject p <;> simp
  · rfl

theorem choicesOf_of_smaller (hl : larger.Extends smaller) (category : String) (p : Parameter) :
    format.choicesOf smaller category p =
      if (smaller.category? category).isSome then
        (format.choicesOf larger category p).filter (Entry.isKnown smaller (.filter category))
      else [] := by
  unfold Format.choicesOf
  by_cases same : p.name = category
  · subst same
    by_cases known : (smaller.category? p.name).isSome
    · have purpose : format.purpose smaller p.name = .category ↔
          format.purpose larger p.name = .category := by
        simp only [Format.purpose_eq_category_iff, known, hl.categories p.name known]
      simp only [purpose, true_and, known, if_true, found_of_smaller hl]
      split <;> rfl
    · have unused : format.purpose smaller p.name ≠ .category := fun used =>
        known (Format.purpose_eq_category_iff.1 used).2.2
      simp [unused, known]
  · simp [same]

theorem valueOf?_of_smaller (setting : Setting) (p : Parameter) :
    format.valueOf? smaller setting p = format.valueOf? larger setting p := by
  simp only [Format.valueOf?, Format.purpose_eq_setting_iff]

/-! ## Links -/

variable (link : Link)

theorem groups_of_smaller (hl : larger.Extends smaller) :
    (format.readLink smaller link).selection.groups =
      ((format.readLink larger link).selection.restrict smaller).groups := by
  simp only [Selection.restrict, Format.groups_readLink, List.map_flatMap, List.filter_flatMap]
  exact List.flatMap_congr fun p _ => groupsOf_of_smaller hl p

theorem entriesOf_of_smaller (hl : larger.Extends smaller) (category : String) :
    (format.readLink smaller link).selection.filters.entriesOf category =
      ((format.readLink larger link).selection.restrict smaller).filters.entriesOf category := by
  simp only [Selection.restrict, Filters.entriesOf_restrict, Format.entriesOf_readLink,
    List.filter_flatMap]
  split
  · rename_i known
    refine List.flatMap_congr fun p _ => ?_
    rw [choicesOf_of_smaller hl, if_pos known]
  · rename_i unknown
    rw [List.flatMap_eq_nil_iff]
    intro p _
    rw [choicesOf_of_smaller hl, if_neg unknown]

theorem value_of_smaller (setting : Setting) :
    (format.readLink smaller link).selection.value setting =
      (format.readLink larger link).selection.value setting := by
  simp only [Format.value_readLink]
  congr 3
  exact funext fun p => valueOf?_of_smaller setting p

theorem readLink_of_smaller (hl : larger.Extends smaller) :
    (format.readLink smaller link).selection.same
      ((format.readLink larger link).selection.restrict smaller) = true := by
  rw [Selection.same_iff]
  refine ⟨groups_of_smaller link hl, fun category => ?_, fun setting => ?_, ?_, ?_⟩
  · exact (Format.populated_readLink link).get?_congr Filters.populated_restrict
      (entriesOf_of_smaller link hl category)
  · rw [value_of_smaller]
    cases setting <;> rfl
  · simp only [Selection.restrict, Format.page_readLink]
  · simp only [Selection.restrict, Format.anchor_readLink]

/-! ### Nothing unknown -/

theorem groups_ne_nil : ∀ group ∈ (format.readLink larger link).selection.groups, group ≠ [] := by
  intro group member
  obtain ⟨_, -, -, populated⟩ := Format.exists_of_mem_groups link member
  exact populated

/-- A parameter adds the same entries under both catalogs if all that it adds is known. -/
theorem choicesOf_of_known (hl : larger.Extends smaller)
    (known : (format.readLink larger link).selection.KnownTo smaller) {p : Parameter}
    (member : p ∈ link.parameters) (category : String) :
    format.choicesOf smaller category p = format.choicesOf larger category p := by
  rw [choicesOf_of_smaller hl]
  cases added : format.choicesOf larger category p with
  | nil => simp
  | cons e rest =>
      have within : ∀ e ∈ format.choicesOf larger category p,
          e ∈ (format.readLink larger link).selection.filters.entriesOf category := by
        intro e he
        rw [Format.entriesOf_readLink]
        exact List.mem_flatMap.2 ⟨p, member, he⟩
      have some_entry :
          (format.readLink larger link).selection.filters.entriesOf category ≠ [] :=
        List.ne_nil_of_mem (within e (added ▸ List.mem_cons_self))
      obtain ⟨entries, found⟩ := Filters.mem_names_iff.1
        ((Format.populated_readLink link).mem_names_iff.2 some_entry)
      have row := Filters.mem_rows_iff.2 found
      have all_known : ∀ e ∈ format.choicesOf larger category p,
          e.isKnown smaller (.filter category) = true := by
        intro e he
        refine known.choices _ row e ?_
        have := within e he
        rwa [Filters.entriesOf, found, Option.getD_some] at this
      rw [if_pos (known.categories _ row), ← added, List.filter_eq_self.2 all_known]

theorem readLink_of_known (hl : larger.Extends smaller)
    (known : (format.readLink larger link).selection.KnownTo smaller) :
    (format.readLink smaller link).selection = (format.readLink larger link).selection := by
  have groups : ((format.readLink larger link).selection.restrict smaller).groups =
      (format.readLink larger link).selection.groups := by
    have same : ∀ group ∈ (format.readLink larger link).selection.groups,
        group.filter (Entry.isKnown smaller .subject) = id group := fun group member =>
      List.filter_eq_self.2 (known.subjects group member)
    simp only [Selection.restrict]
    rw [List.map_congr_left same, List.map_id, List.filter_eq_self]
    intro group member
    simpa using groups_ne_nil link group member
  refine Selection.ext_parts ((groups_of_smaller link hl).trans groups)
    (Filters.ext_parts ?_ fun category => ?_) (fun setting => ?_) ?_ ?_
  · rw [Format.names_readLink, Format.names_readLink]
    congr 1
    refine List.flatMap_congr fun p member => ?_
    rw [Format.namesOf, Format.namesOf, choicesOf_of_known link hl known member]
  · rw [Format.entriesOf_readLink, Format.entriesOf_readLink]
    exact List.flatMap_congr fun p member => choicesOf_of_known link hl known member category
  · rw [value_of_smaller]
  · rw [Format.page_readLink, Format.page_readLink]
  · rw [Format.anchor_readLink, Format.anchor_readLink]

/-- **Stale links degrade exactly.**  Under a smaller catalog a text reads as under a larger one, less
what the smaller one does not have; and as under the larger one if nothing is unknown. -/
theorem decode_of_smaller (hl : larger.Extends smaller) (hsmaller : smaller.isEmpty = false)
    (hlarger : larger.isEmpty = false) (format : Format) (text : String) :
    let read := (format.decode larger text).selection
    (format.decode smaller text).selection.same (read.restrict smaller) = true ∧
      (read.KnownTo smaller → (format.decode smaller text).selection = read) := by
  simp only [Format.decode_eq_readLink hsmaller, Format.decode_eq_readLink hlarger]
  exact ⟨readLink_of_smaller _ hl, readLink_of_known _ hl⟩

namespace Example

/-- A choice that the small catalog does not have. -/
def trial : Facet where
  key := ⟨"tri", none, none, none⟩

/-- The definitions of the small catalog with one more subject, one more choice and one more
category. -/
def extendedDefinitions : Definitions where
  subjects := [.node Catalog.Example.subject [], .node trial []]
  categories :=
    [{ id := "age", order := 1, choices := [.node trial []] },
      { id := "type", choices := [.node Catalog.Example.choice [], .node trial []] }]

def extended : Catalog where
  subjects :=
    { roots := [.node Catalog.Example.subject [], .node trial []]
      index := [Catalog.Example.subject, trial] }
  categories :=
    [⟨"type", {}, 0,
        { roots := [.node Catalog.Example.choice [], .node trial []]
          index := [Catalog.Example.choice, trial] }⟩,
      ⟨"age", {}, 1, { roots := [.node trial []], index := [trial] }⟩]

theorem build_extendedDefinitions : Catalog.build extendedDefinitions = .ok extended := by
  cbv

theorem extends_catalog : extended.Extends Catalog.Example.catalog where
  subjects key f found := by
    have found : [Catalog.Example.subject].find? (fun g => g.key == key) = some f := found
    have others : ([Catalog.Example.subject] ++ [trial]).find? (fun g => g.key == key) = some f := by
      rw [List.find?_append, found, Option.some_or]
    exact others
  categories id found := by
    by_cases h : id = "type"
    · subst h
      rfl
    · simp [Catalog.category?, Keyed.lookup, Catalog.Example.catalog, Ne.symm h] at found
  choices id key f found := by
    by_cases h : id = "type"
    · subst h
      have found : [Catalog.Example.choice].find? (fun g => g.key == key) = some f := found
      have others : ([Catalog.Example.choice] ++ [trial]).find? (fun g => g.key == key) = some f := by
        rw [List.find?_append, found, Option.some_or]
      exact others
    · simp [Catalog.choice?, Catalog.category?, Keyed.lookup, Catalog.Example.catalog, Ne.symm h]
        at found

/-- Facets that are gone stand beside others and alone; one category is gone, and the other gets its
first known entry after it. -/
def staleText : String :=
  "type=tri%23n&age=tri%23s&subject=tri%23b;;onc.1%23n&type=rev%23s&subject=tri%23n&pageSize=5#a"

end Example

theorem decode_of_smaller_of_stale :
    Catalog.build Catalog.Example.definitions = .ok Catalog.Example.catalog ∧
      Catalog.build Example.extendedDefinitions = .ok Example.extended ∧
      Example.extended.Extends Catalog.Example.catalog ∧ Catalog.Example.catalog.isEmpty = false ∧
      Example.extended.isEmpty = false ∧
      (({} : Format).decode Catalog.Example.catalog Example.staleText).selection.same
        ((({} : Format).decode Example.extended Example.staleText).selection.restrict
          Catalog.Example.catalog) = true ∧
      (({} : Format).decode Catalog.Example.catalog Example.staleText).selection =
        { groups := [[.facet Catalog.Example.subject .narrow]]
          filters :=
            { rows := [("type", [.facet Catalog.Example.choice .normal])]
              nodup := by simp }
          pageSize := 5
          anchor := some "a" } :=
  ⟨Catalog.Example.build_definitions, Example.build_extendedDefinitions, Example.extends_catalog,
    rfl, rfl, (decode_of_smaller Example.extends_catalog rfl rfl {} Example.staleText).1,
    by decide +kernel⟩

end Link

end FacetedSearch
