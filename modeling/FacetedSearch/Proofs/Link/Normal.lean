/-
# FacetedSearch.Proofs.Link.Normal -- what all readings have in common

Whatever a text is, and however links are laid out, the selection that it reads as is normal
(`Selection.Normal`): it has no groups and no categories without entries, its categories and facets
are the catalog's, its tags have names and are as links spell them, and its settings are values that
a link can set.  With a separator between entries, no name and no article id has it inside.

A selection is normal part by part.  An entry is one that some fragment spells
(`normal_of_mem_found`), and a fragment has no separator in it (`of_mem_fragments`); a setting has
the value it starts with or one that was read.  No part needs the layout to be a conventional one.
-/
import FacetedSearch.Proofs.Link.Decoded
import FacetedSearch.Proofs.Link.Spellings

namespace FacetedSearch

set_option autoImplicit false

/-- The entry is one that can be read at the position: a facet that the catalog has there by its
key, or a tag as links spell it. -/
inductive Entry.Normal (format : Link.Format) (catalog : Catalog) (position : Link.Position) :
    Entry → Prop
  | facet {f : Facet} {scope : Scope} (wellFormed : f.key.WellFormed)
      (found : Link.FacetAt catalog position f.key f) :
      Normal format catalog position (.facet f scope)
  | custom {tag : CustomTag} (named : tag.name ≠ "") (untyped : tag.typedName = none)
      (in_subject : tag.translated = true → position = .subject)
      (apart : format.separator ≠ "" → ¬format.separator.toList <:+: tag.name.toList) :
      Normal format catalog position (.custom tag)

/-- The selection is one that can be read. -/
structure Selection.Normal (format : Link.Format) (catalog : Catalog) (s : Selection) : Prop where
  groups : ∀ group ∈ s.groups, group ≠ []
  entries : s.Throughout (Entry.Normal format catalog)
  categories : ∀ row ∈ s.filters.rows, (catalog.category? row.1).isSome
  page : s.page = 1
  pageSize : s.pageSize = format.defaultPageSize ∨ 1 ≤ s.pageSize ∧ s.pageSize < UInt64.size
  pmids : "" ∉ s.pmids
  pmids_apart : format.separator ≠ "" → ∀ pmid ∈ s.pmids, ¬format.separator.toList <:+: pmid.toList
  anchor : s.anchor ≠ some ""

namespace Link

variable {format : Format} {catalog : Catalog} {position : Position} {fragment : List Char}
  {e : Entry}

/-! ## Entries -/

/-- **An entry that a fragment spells is normal**, if the fragment has no separator in it. -/
theorem normal_of_spelled (spelled : e.Spelled format catalog position fragment)
    (apart : format.separator ≠ "" → ¬format.separator.toList <:+: fragment) :
    e.Normal format catalog position := by
  cases e with
  | facet f scope =>
      obtain ⟨wellFormed, found⟩ := spelled.nameable
      exact .facet wellFormed (facetAt_iff.2 found)
  | custom tag =>
      have kept : tag.kept position = tag := Entry.custom.inj spelled.kept_eq
      have untyped : tag.typedName = none := (congrArg CustomTag.typedName kept).symm
      refine .custom spelled.nameable untyped (fun translated => ?_) fun separated occurs =>
        apart separated (occurs.trans spelled.name_occurs)
      rw [← kept] at translated
      cases position with
      | subject => rfl
      | filter category => cases translated

/-- A fragment of a value has characters, and no separator among them. -/
theorem of_mem_fragments {value : String} (member : fragment ∈ format.fragments value) :
    fragment ≠ [] ∧ (format.separator ≠ "" → ¬format.separator.toList <:+: fragment) := by
  obtain ⟨piece, populated⟩ := List.mem_filter.1 member
  refine ⟨by simpa using populated, fun separated => ?_⟩
  have some_char : format.separator.toList ≠ [] := by simpa using separated
  exact (Text.separable_splitOnText some_char value.toList).not_occurs some_char fragment piece

theorem normal_of_mem_found {p : Parameter} (member : e ∈ format.found catalog position p) :
    e.Normal format catalog position := by
  obtain ⟨fragment, piece, spelled⟩ := exists_spelled_of_mem_usable member
  exact normal_of_spelled spelled (of_mem_fragments piece).2

/-! ## Settings -/

/-- Article ids have characters, and no separator among them. -/
theorem of_mem_readPmids {value pmid : String} (member : pmid ∈ format.readPmids value) :
    pmid ≠ "" ∧ (format.separator ≠ "" → ¬format.separator.toList <:+: pmid.toList) := by
  obtain ⟨fragment, piece, rfl⟩ := List.mem_map.1 member
  obtain ⟨populated, apart⟩ := of_mem_fragments piece
  rw [String.toList_ofList]
  exact ⟨fun none => populated (String.ofList_eq_empty_iff.1 none), apart⟩

theorem of_mem_pmids_readLink (link : Link) {pmid : String}
    (member : pmid ∈ (format.readLink catalog link).selection.pmids) :
    pmid ≠ "" ∧ (format.separator ≠ "" → ¬format.separator.toList <:+: pmid.toList) := by
  rcases @Format.value_readLink_cases format catalog link .pmids with start | ⟨p, -, read⟩
  · have none : (format.readLink catalog link).selection.pmids = [] := start
    rw [none] at member
    cases member
  · have given : format.readPmids p.value = (format.readLink catalog link).selection.pmids :=
      Option.some.inj read
    exact of_mem_readPmids (given ▸ member)

theorem pageSize_readLink (link : Link) :
    let read := (format.readLink catalog link).selection
    read.pageSize = format.defaultPageSize ∨ 1 ≤ read.pageSize ∧ read.pageSize < UInt64.size := by
  rcases @Format.value_readLink_cases format catalog link .pageSize with start | ⟨p, -, read⟩
  · exact .inl start
  · exact .inr (readPageSize?_bounds read)

/-! ## Links -/

theorem throughout_readLink (link : Link) :
    (format.readLink catalog link).selection.Throughout (Entry.Normal format catalog) where
  subjects group member e he := by
    obtain ⟨p, -, rfl, -⟩ := Format.exists_of_mem_groups link member
    exact normal_of_mem_found he
  filters :=
    { populated := Format.populated_readLink link
      choices := fun row listed e he => by
        obtain ⟨p, -, -, given⟩ := Format.exists_of_mem_row link listed he
        exact normal_of_mem_found given }

theorem categories_readLink (link : Link) :
    ∀ row ∈ (format.readLink catalog link).selection.filters.rows,
      (catalog.category? row.1).isSome := by
  intro row listed
  obtain ⟨e, he⟩ := List.exists_mem_of_ne_nil _ (Format.populated_readLink link row listed)
  obtain ⟨p, -, serves, -⟩ := Format.exists_of_mem_row link listed he
  exact (Format.purpose_eq_category_iff.1 serves).2.2

theorem normal_readLink {link : Link} (anchored : link.anchor ≠ some "") :
    (format.readLink catalog link).selection.Normal format catalog where
  groups group member := by
    obtain ⟨p, -, -, populated⟩ := Format.exists_of_mem_groups link member
    exact populated
  entries := throughout_readLink link
  categories := categories_readLink link
  page := Format.page_readLink link
  pageSize := pageSize_readLink link
  pmids member := (of_mem_pmids_readLink link member).1 rfl
  pmids_apart separated pmid member := (of_mem_pmids_readLink link member).2 separated
  anchor := by rwa [Format.anchor_readLink]

/-- What a link starts from is normal too. -/
theorem normal_start (format : Format) (catalog : Catalog) :
    (format.start none).Normal format catalog where
  groups := by simp [Format.start]
  entries := ⟨by simp [Format.start], Filters.Throughout.empty⟩
  categories := by simp [Format.start]
  page := rfl
  pageSize := .inl rfl
  pmids := by simp [Format.start]
  pmids_apart := by simp [Format.start]
  anchor := by simp [Format.start]

/-- **Any text reads as a normal selection**, in any layout of links.  Without a catalog to look in
it says nothing. -/
theorem decode_normal (format : Format) (catalog : Catalog) (text : String) :
    (format.decode catalog text).selection.Normal format catalog ∧
      (catalog.isEmpty = true →
        format.decode catalog text = ⟨{ pageSize := format.defaultPageSize }, []⟩) := by
  cases empty : catalog.isEmpty with
  | true =>
      have start : format.decode catalog text = ⟨format.start none, []⟩ := by
        rw [Format.decode, empty]
        rfl
      rw [start]
      exact ⟨normal_start format catalog, fun _ => rfl⟩
  | false =>
      rw [Format.decode_eq_readLink empty]
      exact ⟨normal_readLink (anchor_ofChars text.toList), fun none => absurd none (by decide)⟩

namespace Example

/-- A group, a category, tags, article ids and an anchor, and fragments that are no entries. -/
def varied : String :=
  "subject=onc.1%23n;;bad;;\x7b\x7bx%201\x7d\x7d%23b&type=rev%23s;;\x7b\x7by 1\x7d\x7d%23n" ++
    "&subject=rev%23n&pmidai=1;;;;2&pageSize=7&sort=date#a%26"

end Example

theorem decode_normal_of_varied :
    let read := ({} : Format).decode Catalog.Example.catalog Example.varied
    read.selection.Normal {} Catalog.Example.catalog ∧
      read.selection =
        { groups := [[.facet Catalog.Example.subject .narrow, .custom ⟨"x", .broad, true, none⟩]]
          filters :=
            ⟨[("type", [.facet Catalog.Example.choice .normal,
              .custom ⟨"y 1", .narrow, false, none⟩])], by simp⟩
          sort := .mostRecent
          pageSize := 7
          pmids := ["1", "2"]
          anchor := some "a&" } ∧
      ({} : Catalog).isEmpty = true ∧
      ({} : Format).decode {} Example.varied = ⟨{ pageSize := 10 }, []⟩ :=
  ⟨(decode_normal {} Catalog.Example.catalog Example.varied).1, by decide +kernel, rfl,
    (decode_normal {} {} Example.varied).2 rfl⟩

-- Groups have the name of a setting, and nothing separates entries.
example :
    let format : Format := { subjectName := "pageSize", separator := "", defaultPageSize := 0 }
    format.decode Catalog.Example.catalog "pageSize=7&pmidai=ab&type=rev%23s#" =
      ⟨{ pageSize := 0, pmids := ["a", "b"] },
        [.unparsableFragment "pageSize" "7", .unparsableFragment "type" "r",
          .unparsableFragment "type" "e", .unparsableFragment "type" "v",
          .unknownScopeCode "type" "", .unparsableFragment "type" "s"]⟩ := by
  decide +kernel

end Link

end FacetedSearch
