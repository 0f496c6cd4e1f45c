/-
# FacetedSearch.Proofs.Link.Sound -- selections that conventional links carry

The general condition for a round trip, `Format.Carries`, speaks of texts side by side.  For the
layout that sites use, with `;;` between entries and no scope code that ends in half of it
(`Format.Conventional`), a condition on each entry alone is enough: it is the catalog's or a tag
with a name, and the name does not hold `;;` (`Entry.Writable`).  The fragment of such an entry ends
clean whatever stands next to it, as its scope code does (`endsClean_entryChars_iff`), since each
character that writing adds in front of a `;` is not one.

`Selection.Sound` says this of a whole selection, in a form that adding, merging and leaving out
entries keep, and `Sound.carries` gives the round trip.
-/
import FacetedSearch.Proofs.Link.RoundTrip
import FacetedSearch.Proofs.Selection.Throughout

namespace FacetedSearch

set_option autoImplicit false

/-- Entries of the catalog can stand there. -/
def Link.Position.Known (catalog : Catalog) : Link.Position → Prop
  | .subject => True
  | .filter category => (catalog.category? category).isSome

/-- The entry can be written at a position, and is told apart from any neighbours. -/
structure Entry.Writable (catalog : Catalog) (position : Link.Position) (e : Entry) : Prop where
  known : position.Known catalog
  nameable : e.Nameable catalog position
  /-- The name does not hold the separator. -/
  apart : ¬ ";;".toList <:+: e.name.toList

/-- A sound selection: its entries can be written, each by itself, and its settings can be read. -/
structure Selection.Sound (catalog : Catalog) (s : Selection) : Prop where
  entries : s.Throughout (Entry.Writable catalog)
  pageSize_pos : 1 ≤ s.pageSize
  pageSize_lt : s.pageSize < UInt64.size
  pmids_apart : Text.Separable ";;".toList
    ((s.pmids.filter fun pmid => pmid != "").map String.toList)

namespace Link

/-- The layout has the usual names and separator, a page size that can be read, and no scope code
that ends in half a separator. -/
structure Format.Conventional (format : Format) : Prop where
  subjectName : format.subjectName = "subject"
  separator : format.separator = ";;"
  code_end : ∀ scope, (format.scopeCodes.code scope).toList.getLast? ≠ some ';'
  pageSize_pos : 1 ≤ format.defaultPageSize
  pageSize_lt : format.defaultPageSize < UInt64.size

theorem conventional_default : ({} : Format).Conventional where
  subjectName := rfl
  separator := rfl
  code_end scope := by cases scope <;> decide
  pageSize_pos := by decide
  pageSize_lt := by decide

variable {format : Format} {catalog : Catalog} {position : Position}

theorem Format.Conventional.separator_ne (conventional : format.Conventional) :
    format.separator ≠ "" := by
  rw [conventional.separator]
  decide

theorem namesApart_of_build {d : Definitions} (built : Catalog.build d = .ok catalog)
    (subjectName : format.subjectName = "subject") : NamesApart format catalog where
  setting_ne_subject setting := by
    rw [subjectName]
    cases setting <;> decide
  category?_subject := subjectName ▸ Catalog.category?_subject built
  category?_setting := Catalog.category?_setting built

theorem Format.Conventional.namesApart (conventional : format.Conventional) {d : Definitions}
    (built : Catalog.build d = .ok catalog) : NamesApart format catalog :=
  namesApart_of_build built conventional.subjectName

/-! ## Entries -/

theorem not_infix_name_of_wellFormed {key : Facet.Key} (wellFormed : key.WellFormed) :
    ¬ ";;".toList <:+: key.text.toList := by
  intro occurs
  have hmem : ';' ∈ key.chars := by
    have := occurs.subset (a := ';') (by decide)
    simpa [Facet.Key.text] using this
  rcases wellFormed.mem_chars hmem with hpoint | halphanum
  · exact absurd hpoint (by decide)
  · exact absurd halphanum (by decide)

/-- Braces, digits and spaces keep the name of a tag away from what is around it. -/
theorem not_infix_entryToken {e : Entry} (apart : ¬ ";;".toList <:+: e.name.toList) :
    ¬ ";;".toList <:+: entryToken position e := by
  cases e with
  | facet f scope => simpa [entryToken, Entry.name, Facet.Key.text] using apart
  | custom tag =>
      have hname : ¬ ";;".toList <:+: "\x7b\x7b".toList ++ tag.name.toList := by
        intro occurs
        have occurs : ";;".toList <:+: ['\x7b'] ++ '\x7b' :: tag.name.toList := occurs
        rcases (Text.infix_append_cons_iff (by decide)).1 occurs with h | h
        · exact absurd h (by decide)
        · exact apart h
      cases position with
      | filter category =>
          intro occurs
          rw [entryToken, tagToken] at occurs
          rcases (Text.infix_append_cons_iff (c := '\x7d') (by decide)).1 occurs with h | h
          · exact hname h
          · exact absurd h (by decide)
      | subject =>
          intro occurs
          rw [entryToken, tagToken, List.append_assoc] at occurs
          rcases (Text.infix_append_cons_iff (c := ' ') (by decide)).1 occurs with h | h
          · exact hname h
          · revert h
            cases tag.translated <;> decide

/-- The fragment of an entry does not hold the separator, since no scope code does. -/
theorem Format.not_infix_entryChars {e : Entry} (apart : ¬ ";;".toList <:+: e.name.toList) :
    ¬ ";;".toList <:+: format.entryChars position e := by
  rw [entryChars, Text.infix_append_cons_iff (by decide), not_or]
  exact ⟨not_infix_entryToken apart,
    format.scopeCodes.not_infix_code e.scope (d := ";;") (by decide)⟩

/-- The fragment of an entry ends as its scope code does. -/
theorem Format.getLast?_entryChars_iff {e : Entry} :
    (format.entryChars position e).getLast? = some ';' ↔
      (format.scopeCodes.code e.scope).toList.getLast? = some ';' := by
  have hlast : (format.entryChars position e).getLast? =
      some (((format.scopeCodes.code e.scope).toList.getLast?).getD '#') := by
    rw [entryChars, List.getLast?_append_cons, List.getLast?_cons]
  rw [hlast]
  cases (format.scopeCodes.code e.scope).toList.getLast? <;> simp

/-- **The fragment of an entry ends clean**, whatever follows it, if its scope code does. -/
theorem Format.endsClean_entryChars_iff {e : Entry} (apart : ¬ ";;".toList <:+: e.name.toList) :
    Text.EndsClean ";;".toList (format.entryChars position e) ↔
      (format.scopeCodes.code e.scope).toList.getLast? ≠ some ';' := by
  have absent : ¬ ";;".toList <:+: format.entryChars position e := format.not_infix_entryChars apart
  exact (Text.endsClean_doubled_iff _).trans
    ((and_iff_right absent).trans (not_congr format.getLast?_entryChars_iff))

theorem Format.Conventional.separable_entries (conventional : format.Conventional)
    {entries : List Entry} (writable : ∀ e ∈ entries, e.Writable catalog position) :
    Text.Separable format.separator.toList (entries.map (format.entryChars position)) := by
  rw [conventional.separator]
  refine Text.separable_of_forall (by decide) fun text htext => ?_
  obtain ⟨e, he, rfl⟩ := List.mem_map.1 htext
  exact (Format.endsClean_entryChars_iff (writable e he).apart).2 (conventional.code_end e.scope)

/-! ## Selections -/

/-- **Conventional links carry sound selections.** -/
theorem Format.Conventional.carries (conventional : format.Conventional) {s : Selection}
    (sound : s.Sound catalog) : format.Carries catalog s where
  subjects group hgroup e he := (sound.entries.subjects group hgroup e he).nameable
  categories row hrow := by
    obtain ⟨hmem, hne⟩ := List.mem_filter.1 hrow
    obtain ⟨e, he⟩ := List.exists_mem_of_ne_nil row.2 (by simpa using hne)
    exact (sound.entries.filters.choices row hmem e he).known
  choices row hrow e he :=
    (sound.entries.filters.choices row (List.mem_of_mem_filter hrow) e he).nameable
  pageSize_pos := sound.pageSize_pos
  pageSize_lt := sound.pageSize_lt
  subjects_apart group hgroup := conventional.separable_entries (sound.entries.subjects group hgroup)
  choices_apart row hrow :=
    conventional.separable_entries (sound.entries.filters.choices row (List.mem_of_mem_filter hrow))
  pmids_apart := by
    rw [conventional.separator]
    exact sound.pmids_apart

/-- A sound selection is read back from its link as what a link keeps of it. -/
theorem Format.Conventional.decode_encode (conventional : format.Conventional) {d : Definitions}
    (built : Catalog.build d = .ok catalog) (hne : catalog.isEmpty = false) {s : Selection}
    (sound : s.Sound catalog) : format.decode catalog (format.encode s) = ⟨s.kept, []⟩ :=
  decode_encode_of_carries conventional.separator_ne hne (conventional.namesApart built)
    (conventional.carries sound)

end Link

end FacetedSearch
