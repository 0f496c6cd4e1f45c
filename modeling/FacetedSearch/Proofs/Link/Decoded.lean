/-
# FacetedSearch.Proofs.Link.Decoded -- what texts can read as

Any text reads as some selection.  `Selection.Settled` is what all these selections have in common,
whatever is malformed, repeated or unknown in the text: nothing in them is lost in a link
(`Settled.kept_eq`), and conventional links carry them (`Settled.sound`).  So a settled selection is
a fixed point of writing and reading, and one reading settles everything (`settled_decode`).

The changes that parameters make bring in settled entries only (`settled_of_readParameter`), and
making such a change keeps a selection settled (`Settled.apply`).  Names of tags hold no `;;`, for
they are parts of pieces of a text cut at `;;`, and the last article id alone may end in `;`.
-/
import FacetedSearch.Proofs.Link.Sound
import FacetedSearch.Proofs.Link.Spellings

namespace FacetedSearch

set_option autoImplicit false

/-- The entry can be written, and a link keeps all of it. -/
structure Entry.Settled (catalog : Catalog) (position : Link.Position) (e : Entry) : Prop where
  writable : e.Writable catalog position
  kept : e.kept position = e

/-- A selection that links carry as it is. -/
structure Selection.Settled (catalog : Catalog) (s : Selection) : Prop where
  groups : ∀ group ∈ s.groups, group ≠ []
  entries : s.Throughout (Entry.Settled catalog)
  page : s.page = 1
  pageSize_pos : 1 ≤ s.pageSize
  pageSize_lt : s.pageSize < UInt64.size
  pmids : "" ∉ s.pmids
  pmids_apart : Text.Separable ";;".toList (s.pmids.map String.toList)
  anchor : s.anchor ≠ some ""

/-- A change that brings in what links carry as it is. -/
def Link.Change.Settled (catalog : Catalog) : Change → Prop
  | addGroup entries => ∀ e ∈ entries, e.Settled catalog .subject
  | addFilters category entries => ∀ e ∈ entries, e.Settled catalog (.filter category)
  | setPageSize value => 1 ≤ value ∧ value < UInt64.size
  | setPmids value => "" ∉ value ∧ Text.Separable ";;".toList (value.map String.toList)
  | setAdvanced _ => True
  | setCollapsed _ => True
  | setSort _ => True

namespace Selection.Settled

variable {catalog : Catalog} {s : Selection}

/-! ## Settled selections -/

theorem filter_pmids (settled : s.Settled catalog) :
    s.pmids.filter (fun pmid => pmid != "") = s.pmids := by
  rw [List.filter_eq_self]
  intro pmid hpmid
  rw [bne_iff_ne]
  rintro rfl
  exact settled.pmids hpmid

theorem sound (settled : s.Settled catalog) : s.Sound catalog where
  entries := settled.entries.mono fun _ _ e => e.writable
  pageSize_pos := settled.pageSize_pos
  pageSize_lt := settled.pageSize_lt
  pmids_apart := settled.filter_pmids.symm ▸ settled.pmids_apart

theorem map_kept_eq {position : Link.Position} {entries : List Entry}
    (settled : ∀ e ∈ entries, e.Settled catalog position) :
    entries.map (Entry.kept position) = entries :=
  calc entries.map (Entry.kept position)
      = entries.map id := List.map_congr_left fun e he => (settled e he).kept
    _ = entries := List.map_id entries

/-- **Links keep all of a settled selection.** -/
theorem kept_eq (settled : s.Settled catalog) : s.kept = s := by
  have populated_groups : s.populatedGroups = s.groups := by
    rw [populatedGroups, List.filter_eq_self]
    intro group hgroup
    simpa using settled.groups group hgroup
  have populated_rows : s.filters.populated = s.filters.rows := by
    rw [Filters.populated, List.filter_eq_self]
    intro row hrow
    simpa using settled.entries.filters.populated row hrow
  have hgroups : s.kept.groups = s.groups :=
    calc s.kept.groups
        = s.groups.map fun group => group.map (Entry.kept .subject) := by
          rw [← populated_groups]; rfl
      _ = s.groups.map id := List.map_congr_left fun group hgroup =>
          map_kept_eq (settled.entries.subjects group hgroup)
      _ = s.groups := List.map_id s.groups
  have hrows : s.kept.filters.rows = s.filters.rows :=
    calc s.kept.filters.rows
        = s.filters.rows.map fun row => (row.1, row.2.map (Entry.kept (.filter row.1))) := by
          rw [← populated_rows]; rfl
      _ = s.filters.rows.map id := List.map_congr_left fun row hrow =>
          Prod.ext rfl (map_kept_eq (settled.entries.filters.choices row hrow))
      _ = s.filters.rows := List.map_id s.filters.rows
  have hanchor : Link.keptAnchor s.anchor = s.anchor := by
    have := settled.anchor
    cases hsome : s.anchor with
    | none => rfl
    | some anchor =>
        rw [hsome, ne_eq, Option.some.injEq] at this
        rw [Link.keptAnchor, if_neg this]
  exact Selection.ext hgroups (Filters.ext hrows) rfl rfl settled.page.symm rfl rfl
    settled.filter_pmids hanchor

/-! ## Changes -/

/-- A settled change keeps a selection settled. -/
theorem apply (settled : s.Settled catalog) {change : Link.Change}
    (brings : change.Settled catalog) : (change.apply s).Settled catalog := by
  cases change with
  | addGroup entries =>
      rw [Link.Change.apply]
      split
      · exact settled
      · rename_i some_new
        refine { settled with groups := fun group hgroup => ?_, entries := ?_ }
        · rcases List.mem_append.1 hgroup with old | new
          · exact settled.groups group old
          · obtain rfl := List.mem_singleton.1 new
            simpa using some_new
        · exact settled.entries.append brings
  | addFilters category entries =>
      rw [Link.Change.apply]
      split
      · exact settled
      · rename_i some_new
        exact { settled with entries := settled.entries.extend (by simpa using some_new) brings }
  | setAdvanced value => exact { settled with entries := settled.entries.congr rfl rfl }
  | setCollapsed value => exact { settled with entries := settled.entries.congr rfl rfl }
  | setSort value => exact { settled with entries := settled.entries.congr rfl rfl }
  | setPageSize value =>
      exact { settled with
        entries := settled.entries.congr rfl rfl
        pageSize_pos := brings.1
        pageSize_lt := brings.2 }
  | setPmids value =>
      exact { settled with
        entries := settled.entries.congr rfl rfl
        pmids := brings.1
        pmids_apart := brings.2 }

theorem foldl_apply (settled : s.Settled catalog) {changes : List Link.Change}
    (brings : ∀ change ∈ changes, change.Settled catalog) :
    (changes.foldl Link.Change.apply s).Settled catalog := by
  induction changes generalizing s with
  | nil => exact settled
  | cons change rest ih =>
      rw [List.foldl_cons]
      exact ih (settled.apply (brings change List.mem_cons_self)) fun c hc =>
        brings c (List.mem_cons_of_mem _ hc)

end Selection.Settled

namespace Link

variable {format : Format} {catalog : Catalog} {position : Position}

/-! ## Entries -/

/-- **An entry that a piece of a text cut at `;;` spells is settled.** -/
theorem settled_of_spelled {fragment : List Char} {e : Entry} (known : position.Known catalog)
    (apart : ¬ ";;".toList <:+: fragment)
    (spelled : e.Spelled format catalog position fragment) : e.Settled catalog position := by
  have name_apart : ¬ ";;".toList <:+: e.name.toList := by
    cases e with
    | facet f scope => exact not_infix_name_of_wellFormed spelled.nameable.1
    | custom tag => exact fun occurs => apart (occurs.trans spelled.name_occurs)
  exact ⟨⟨known, spelled.nameable, name_apart⟩, spelled.kept_eq⟩

/-! ## Parameters -/

theorem separable_fragments (separator : format.separator = ";;") (value : String) :
    Text.Separable ";;".toList (format.fragments value) := by
  rw [Format.fragments, separator]
  exact (Text.separable_splitOnText (by decide) _).sublist (by decide) List.filter_sublist

theorem settled_of_readEntries (separator : format.separator = ";;")
    (known : position.Known catalog) (p : Parameter) :
    ∀ e ∈ usable (format.readEntries catalog position p), e.Settled catalog position := by
  intro e he
  obtain ⟨fragment, hfragment, spelled⟩ := exists_spelled_of_mem_usable he
  have apart := (separable_fragments separator p.value).not_occurs (by decide) fragment hfragment
  exact settled_of_spelled known apart spelled

theorem readPageSize?_bounds {text : String} {n : Nat} (read : readPageSize? text = some n) :
    1 ≤ n ∧ n < UInt64.size := by
  obtain ⟨numeral, nonzero⟩ := Option.filter_eq_some_iff.1 read
  exact ⟨Nat.one_le_iff_ne_zero.2 (by simpa using nonzero), Text.lt_of_readNumeral? numeral⟩

theorem change?_scalarOutcome {α : Type} {p : Parameter} {toChange : α → Change}
    {value? : Option α} {change : Change}
    (makes : (scalarOutcome p toChange value?).change? = some change) :
    ∃ value, value? = some value ∧ toChange value = change := by
  cases value? with
  | none => cases makes
  | some value => exact ⟨value, rfl, Option.some.inj makes⟩

theorem settled_of_readSetting (separator : format.separator = ";;") {p : Parameter}
    {setting : Setting} {change : Change}
    (makes : (format.readSetting p setting).change? = some change) : change.Settled catalog := by
  cases setting with
  | advanced =>
      obtain ⟨value, -, rfl⟩ := change?_scalarOutcome makes
      trivial
  | collapsed =>
      obtain ⟨value, -, rfl⟩ := change?_scalarOutcome makes
      trivial
  | sort =>
      obtain ⟨value, -, rfl⟩ := change?_scalarOutcome makes
      trivial
  | pageSize =>
      obtain ⟨value, read, rfl⟩ := change?_scalarOutcome makes
      exact readPageSize?_bounds read
  | pmids =>
      obtain rfl := Option.some.inj makes
      refine ⟨fun hempty => ?_, ?_⟩
      · obtain ⟨fragment, hfragment, same⟩ := List.mem_map.1 hempty
        have populated := (List.mem_filter.1 hfragment).2
        simp_all
      · rw [Format.readPmids, List.map_map]
        simpa [Function.comp_def] using separable_fragments separator p.value

/-- **A parameter makes settled changes only.** -/
theorem settled_of_readParameter (separator : format.separator = ";;") {p : Parameter}
    {change : Change} (makes : (format.readParameter catalog p).change? = some change) :
    change.Settled catalog := by
  unfold Format.readParameter at makes
  split at makes
  · obtain rfl := Option.some.inj makes
    have known : Position.subject.Known catalog := trivial
    exact settled_of_readEntries separator known p
  · split at makes
    · exact settled_of_readSetting separator makes
    · split at makes
      · rename_i category found
        have known : (Position.filter p.name).Known catalog := Option.isSome_of_eq_some found
        obtain rfl := Option.some.inj makes
        rw [Catalog.id_of_category? found]
        exact settled_of_readEntries separator known p
      · cases makes

/-! ## Links -/

theorem anchor_ofChars (text : List Char) : (ofChars text).anchor ≠ some "" := by
  unfold ofChars
  simp only
  split
  · rename_i query anchor _
    by_cases empty : anchor = []
    · simp [empty]
    · simpa [empty] using component_ne_empty empty
  · simp

theorem settled_start (conventional : format.Conventional) {anchor : Option String}
    (populated : anchor ≠ some "") :
    ({ pageSize := format.defaultPageSize, anchor } : Selection).Settled catalog where
  groups := by simp
  entries := ⟨by simp, Filters.Throughout.empty⟩
  page := rfl
  pageSize_pos := conventional.pageSize_pos
  pageSize_lt := conventional.pageSize_lt
  pmids := by simp
  pmids_apart := trivial
  anchor := populated

/-- **Any text reads as a settled selection.** -/
theorem settled_decode (conventional : format.Conventional) (text : String) :
    (format.decode catalog text).selection.Settled catalog := by
  rw [Format.decode]
  split
  · exact settled_start conventional (by simp)
  · refine (settled_start conventional (anchor_ofChars text.toList)).foldl_apply ?_
    intro change makes
    obtain ⟨outcome, houtcome, hchange⟩ := List.mem_filterMap.1 makes
    obtain ⟨p, -, rfl⟩ := List.mem_map.1 houtcome
    exact settled_of_readParameter conventional.separator hchange

/-- **A reading is stable.**  Whatever a text reads as, empty catalog or not, the link of it reads
as the same, with nothing reported. -/
theorem decode_encode_decode {d : Definitions} (built : Catalog.build d = .ok catalog)
    (conventional : format.Conventional) (text : String) :
    let read := (format.decode catalog text).selection
    format.decode catalog (format.encode read) = ⟨read, []⟩ := by
  intro read
  have settled : read.Settled catalog := settled_decode conventional text
  cases hempty : catalog.isEmpty with
  | true => simp [read, Format.decode, hempty]
  | false =>
      rw [conventional.decode_encode built hempty settled.sound, settled.kept_eq]

namespace Example

/-- A layout whose codes hold characters that links escape. -/
def site : Format where
  scopeCodes :=
    { rows := [(.narrow, ";n"), (.normal, "1 "), (.broad, "%")]
      valid := by decide
      codes_nodup := by decide
      scopes_nodup := by decide
      complete := by intro scope; cases scope <;> decide }
  defaultPageSize := 25

theorem conventional_site : site.Conventional where
  subjectName := rfl
  separator := rfl
  code_end scope := by cases scope <;> decide
  pageSize_pos := by decide
  pageSize_lt := by decide

/-- A text in which parameters repeat, and escapes, fragments and names are malformed. -/
def text : String :=
  "?subject=\x7b\x7ba;b 1\x7d\x7d%23%25;;;;onc.01%23;n;;;\x7b\x7b\x7d\x7d%23;n&nope=%C3" ++
    "&type=\x7b\x7bx\x7d\x7d%231%20&subject=;;&pmidai=1;;;2;&type=rev%23;n&pageSize=%2B07#%C3"

def read : Selection where
  groups := [[.custom ⟨"a;b", .broad, true, none⟩, .facet Catalog.Example.subject .narrow]]
  filters :=
    { rows := [("type",
        [.custom ⟨"x", .normal, false, none⟩, .facet Catalog.Example.choice .narrow])]
      nodup := by simp }
  pageSize := 7
  pmids := ["1", ";2;"]
  anchor := some "\uFFFD"

end Example

theorem decode_encode_decode_of_malformed :
    Catalog.build Catalog.Example.definitions = .ok Catalog.Example.catalog ∧
      Example.site.Conventional ∧
      (Example.site.decode Catalog.Example.catalog Example.text).selection = Example.read ∧
      Example.site.decode Catalog.Example.catalog (Example.site.encode
        (Example.site.decode Catalog.Example.catalog Example.text).selection) =
        ⟨(Example.site.decode Catalog.Example.catalog Example.text).selection, []⟩ :=
  ⟨Catalog.Example.build_definitions, Example.conventional_site, by decide +kernel,
    decode_encode_decode Catalog.Example.build_definitions Example.conventional_site Example.text⟩

end Link

end FacetedSearch
