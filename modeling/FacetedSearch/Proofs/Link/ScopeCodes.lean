/-
# FacetedSearch.Proofs.Link.ScopeCodes -- scope codes that links can carry

A table of scope codes refuses the codes that hold the separator `;;`, and that is not all it takes.
In a value each code but the last has the separator behind it, and behind a code that ends in `;`
the cut comes one character early: the entry is left with another code, and the next one begins with
`;`, which no entry does (`readEntry_semicolon`).  So under an accepted table a group of subjects is
read back, with nothing reported, if and only if no member of it but the last has such a code
(`decode_encode_members_iff`).
-/
import FacetedSearch.Proofs.Link.Damage
import FacetedSearch.Proofs.Session.Invariant

namespace FacetedSearch

set_option autoImplicit false

/-- The selection of one group of facets. -/
def Selection.ofMembers (members : List (Facet × Scope)) : Selection where
  groups := [members.map fun member => .facet member.1 member.2]

/-- No member but the last has a scope whose code ends in half a separator. -/
def Scope.Codes.KeepApart (pairs : List (Scope × String)) (members : List (Facet × Scope)) : Prop :=
  ∀ member ∈ members.dropLast, ∀ pair ∈ pairs, pair.1 = member.2 →
    pair.2.toList.getLast? ≠ some ';'

theorem Scope.Codes.keepApart_iff {pairs : List (Scope × String)} {codes : Scope.Codes}
    (accepted : ofPairs pairs = .ok codes) {members : List (Facet × Scope)} :
    KeepApart pairs members ↔
      ∀ member ∈ members.dropLast, (codes.code member.2).toList.getLast? ≠ some ';' := by
  refine forall₂_congr fun member _ => ?_
  rw [← rows_of_ofPairs accepted]
  constructor
  · intro apart
    exact apart (member.2, codes.code member.2) (code_eq_iff.1 rfl) rfl
  · rintro ends pair hpair same
    have hcode : codes.code member.2 = pair.2 := code_eq_iff.2 (same ▸ hpair)
    exact hcode ▸ ends

namespace Link

variable {format : Format} {catalog : Catalog} {position : Position}

/-! ## Fragments -/

/-- **No entry begins with a semicolon.** -/
theorem Format.readEntry_semicolon (parameter : String) (rest : List Char) :
    ∃ report, format.readEntry catalog position parameter (';' :: rest) = .error report := by
  rcases spelled_or_refused format catalog position parameter (';' :: rest) with
    ⟨e, token, cut, spells⟩ | ⟨report, refused⟩
  · exfalso
    obtain ⟨tail, rfl⟩ : ∃ tail, token = ';' :: tail := by
      cases token with
      | nil => simp at cut
      | cons c tail => exact ⟨tail, by rw [(List.cons.inj cut).1]⟩
    -- neither a key nor a brace begins so
    cases spells with
    | facet names found =>
        have hmem := Facet.Key.mem_of_ofText? names (c := ';') (by simp)
        exact absurd hmem (by decide)
  · exact ⟨report, readEntry_of_refused refused⟩

theorem reports_ne_nil_of_mem {results : List (Except Diagnostic Entry)} {report : Diagnostic}
    (failed : .error report ∈ results) : reports results ≠ [] :=
  List.ne_nil_of_mem (List.mem_filterMap.2 ⟨_, failed, rfl⟩)

/-- The fragment of a facet begins with its key. -/
theorem Format.exists_entryChars_cons {f : Facet} (wellFormed : f.key.WellFormed) (scope : Scope) :
    ∃ d rest, d ≠ ';' ∧ format.entryChars position (.facet f scope) = d :: rest := by
  cases hchars : f.key.chars with
  | nil => exact ⟨'#', _, by decide, by rw [entryChars, entryToken, hchars]; rfl⟩
  | cons d tail =>
      refine ⟨d, _, ?_, by rw [entryChars, entryToken, hchars]; rfl⟩
      rintro rfl
      exact absurd (wellFormed.mem_chars (c := ';') (by simp [hchars])) (by decide)

/-! ## Groups of facets -/

section Members

variable {members : List (Facet × Scope)} (separator : format.separator = ";;")
  (wellKeyed : catalog.WellKeyed)
  (subjects : ∀ member ∈ members, catalog.subject? member.1.key = some member.1)

include wellKeyed subjects

theorem wellFormed_of_mem : ∀ member ∈ members, member.1.key.WellFormed := fun member hmember =>
  wellKeyed.subjects _ (Keyed.mem_of_lookup (subjects member hmember)).1

theorem apart_of_mem : ∀ member ∈ members,
    ¬ ";;".toList <:+: (Entry.facet member.1 member.2).name.toList := fun member hmember =>
  not_infix_name_of_wellFormed (wellFormed_of_mem wellKeyed subjects member hmember)

include separator

/-- **Behind a code that ends in half a separator** a fragment begins with the other half. -/
theorem exists_fragment_semicolon
    (half : ∃ member ∈ members.dropLast,
      (format.scopeCodes.code member.2).toList.getLast? = some ';') :
    ∃ rest, ';' :: rest ∈ format.fragments
      (format.entriesValue .subject (members.map fun member => .facet member.1 member.2)) := by
  have wellFormed := wellFormed_of_mem wellKeyed subjects
  have apart := apart_of_mem wellKeyed subjects
  have hpiece : ∃ rest, ';' :: rest ∈ Text.splitFrom [';', ';'] 0 ([';', ';'].intercalate
      ((members.map fun member => .facet member.1 member.2).map (format.entryChars .subject))) := by
    rw [List.map_map]
    refine Text.exists_piece_of_half ?_ ?_ ?_
    · intro text htext
      obtain ⟨member, hmember, rfl⟩ := List.mem_map.1 htext
      exact format.not_infix_entryChars (apart member hmember)
    · intro text htext
      obtain ⟨member, hmember, rfl⟩ := List.mem_map.1 htext
      exact Format.exists_entryChars_cons (wellFormed member hmember) member.2
    · obtain ⟨member, hmember, ends⟩ := half
      rw [← List.map_dropLast]
      exact ⟨_, List.mem_map_of_mem hmember, format.getLast?_entryChars_iff.2 ends⟩
  obtain ⟨rest, hpiece⟩ := hpiece
  refine ⟨rest, List.mem_filter.2 ⟨?_, rfl⟩⟩
  rw [Format.entriesValue, String.toList_ofList, separator]
  exact hpiece

theorem diagnostics_ne_nil_of_half (hne : catalog.isEmpty = false)
    (half : ∃ member ∈ members.dropLast,
      (format.scopeCodes.code member.2).toList.getLast? = some ';') :
    (format.decode catalog (format.encode (.ofMembers members))).diagnostics ≠ [] := by
  obtain ⟨rest, hfragment⟩ := exists_fragment_semicolon separator wellKeyed subjects half
  obtain ⟨report, hreport⟩ : ∃ report, format.readEntry catalog .subject format.subjectName
      (';' :: rest) = .error report := format.readEntry_semicolon _ rest
  have hresult : Except.error report ∈ format.readEntries catalog .subject ⟨format.subjectName,
      format.entriesValue .subject (members.map fun member => .facet member.1 member.2)⟩ :=
    hreport ▸ List.mem_map_of_mem hfragment
  obtain ⟨member, hmember, -⟩ := half
  have some_member : members ≠ [] := by
    rintro rfl
    simp at hmember
  rw [decode_encode_eq hne, Format.diagnostics_readLink, flatMap_parameters]
  simp [Selection.ofMembers, Selection.populatedGroups, some_member, readParameter_subject,
    reports_ne_nil_of_mem hresult]

/-- The separator keeps the members apart if no code but the last ends in half of it. -/
theorem separable_members (clean : ∀ member ∈ members.dropLast,
      (format.scopeCodes.code member.2).toList.getLast? ≠ some ';') :
    Text.Separable format.separator.toList
      ((members.map fun member => Entry.facet member.1 member.2).map
        (format.entryChars .subject)) := by
  have names := apart_of_mem wellKeyed subjects
  rw [separator, List.map_map]
  refine (Text.separable_iff (by decide)).2 ⟨?_, ?_⟩
  · rw [← List.map_dropLast]
    intro text htext
    obtain ⟨member, hmember, rfl⟩ := List.mem_map.1 htext
    exact (Format.endsClean_entryChars_iff (names member (List.dropLast_subset _ hmember))).2
      (clean member hmember)
  · intro text htext
    obtain ⟨member, hmember, rfl⟩ := List.mem_map.1 htext
    exact format.not_infix_entryChars (names member hmember)

theorem carries_ofMembers (clean : ∀ member ∈ members.dropLast,
      (format.scopeCodes.code member.2).toList.getLast? ≠ some ';') :
    format.Carries catalog (.ofMembers members) where
  subjects group hgroup e he := by
    obtain rfl := List.mem_singleton.1 hgroup
    obtain ⟨member, hmember, rfl⟩ := List.mem_map.1 he
    exact ⟨wellFormed_of_mem wellKeyed subjects member hmember, subjects member hmember⟩
  categories := by simp [Selection.ofMembers, Filters.populated]
  choices := by simp [Selection.ofMembers, Filters.populated]
  pageSize_pos := (by decide : 1 ≤ 10)
  pageSize_lt := (by decide : 10 < UInt64.size)
  subjects_apart group hgroup := by
    obtain rfl := List.mem_singleton.1 hgroup
    exact separable_members separator wellKeyed subjects clean
  choices_apart := by simp [Selection.ofMembers, Filters.populated]
  pmids_apart := trivial

/-- **A group is read back** if no member but the last has a code that ends in half a separator. -/
theorem decode_encode_of_clean (hne : catalog.isEmpty = false) (apart : NamesApart format catalog)
    (clean : ∀ member ∈ members.dropLast,
      (format.scopeCodes.code member.2).toList.getLast? ≠ some ';') (some_member : members ≠ []) :
    format.decode catalog (format.encode (.ofMembers members)) = ⟨.ofMembers members, []⟩ := by
  have kept : (Selection.ofMembers members).kept = .ofMembers members := by
    simp [Selection.ofMembers, Selection.kept, Selection.populatedGroups, some_member, Entry.kept,
      Filters.kept, Filters.populated, keptAnchor]
  rw [decode_encode_of_carries (by simp [separator]) hne apart
    (carries_ofMembers separator wellKeyed subjects clean), kept]

end Members

/-- **Accepted codes.**  Under a table that is accepted, a group of subjects is read back with
nothing reported if and only if no member of it but the last has a code that ends in `;`; then
nothing else is read either. -/
theorem decode_encode_members_iff {pairs : List (Scope × String)} {codes : Scope.Codes}
    (accepted : Scope.Codes.ofPairs pairs = .ok codes) {d : Definitions}
    (built : Catalog.build d = .ok catalog) (wellKeyed : catalog.WellKeyed)
    {members : List (Facet × Scope)} (some_member : members ≠ [])
    (subjects : ∀ member ∈ members, catalog.subject? member.1.key = some member.1) :
    let format : Format := { scopeCodes := codes }
    let read := format.decode catalog (format.encode (.ofMembers members))
    (((members.map fun member => .facet member.1 member.2) ∈ read.selection.groups ∧
        read.diagnostics = []) ↔ Scope.Codes.KeepApart pairs members) ∧
      (Scope.Codes.KeepApart pairs members → read = ⟨.ofMembers members, []⟩) := by
  intro format read
  have hne : catalog.isEmpty = false := by
    obtain ⟨member, hmember⟩ := List.exists_mem_of_ne_nil members some_member
    have found := (Keyed.mem_of_lookup (subjects member hmember)).1
    simp [Catalog.isEmpty, List.ne_nil_of_mem found]
  have separator : format.separator = ";;" := rfl
  have names : NamesApart format catalog := namesApart_of_build built rfl
  have clean : Scope.Codes.KeepApart pairs members → read = ⟨.ofMembers members, []⟩ := fun apart =>
    decode_encode_of_clean separator wellKeyed subjects hne names
      ((Scope.Codes.keepApart_iff accepted).1 apart) some_member
  have reported := diagnostics_ne_nil_of_half separator wellKeyed subjects hne
  refine ⟨⟨fun ⟨_, silent⟩ => ?_, fun apart => ?_⟩, clean⟩
  · rw [Scope.Codes.keepApart_iff accepted]
    intro member hmember half
    exact reported ⟨member, hmember, half⟩ silent
  · rw [clean apart]
    exact ⟨List.mem_singleton_self _, rfl⟩

namespace Example

/-- One code ends in half a separator. -/
def pairs : List (Scope × String) := [(.narrow, "a;"), (.normal, "s"), (.broad, "b")]

def codes : Scope.Codes where
  rows := pairs
  valid := by decide
  codes_nodup := by decide
  scopes_nodup := by decide
  complete scope := by cases scope <;> decide

theorem codes_accepted : Scope.Codes.ofPairs pairs = .ok codes := by rfl

end Example

/-- That code does no harm behind the last member. -/
theorem decode_encode_members_of_last :
    Scope.Codes.ofPairs Example.pairs = .ok Example.codes ∧
      Catalog.build Catalog.Example.definitions = .ok Catalog.Example.catalog ∧
      Catalog.Example.catalog.WellKeyed ∧
      let members := [(Catalog.Example.subject, Scope.broad), (Catalog.Example.subject, Scope.narrow)]
      let format : Format := { scopeCodes := Example.codes }
      Scope.Codes.KeepApart Example.pairs members ∧
        format.decode Catalog.Example.catalog (format.encode (.ofMembers members)) =
          ⟨.ofMembers members, []⟩ := by
  have apart : Scope.Codes.KeepApart Example.pairs
      [(Catalog.Example.subject, .broad), (Catalog.Example.subject, .narrow)] := by
    unfold Scope.Codes.KeepApart
    decide
  exact ⟨Example.codes_accepted, Catalog.Example.build_definitions,
    Session.Example.wellKeyed_catalog, apart,
    (decode_encode_members_iff Example.codes_accepted Catalog.Example.build_definitions
      Session.Example.wellKeyed_catalog (by simp) (by decide)).2 apart⟩

/-- In front of another member neither is read back. -/
theorem decode_encode_members_of_half :
    Scope.Codes.ofPairs Example.pairs = .ok Example.codes ∧
      Catalog.build Catalog.Example.definitions = .ok Catalog.Example.catalog ∧
      Catalog.Example.catalog.WellKeyed ∧
      let members := [(Catalog.Example.subject, Scope.narrow), (Catalog.Example.subject, Scope.normal)]
      let format : Format := { scopeCodes := Example.codes }
      (∀ member ∈ members, Catalog.Example.catalog.subject? member.1.key = some member.1) ∧
        format.decode Catalog.Example.catalog (format.encode (.ofMembers members)) =
          ⟨{}, [.unknownScopeCode "subject" "a", .unresolvableToken "subject" ";onc.1"]⟩ := by
  refine ⟨Example.codes_accepted, Catalog.Example.build_definitions,
    Session.Example.wellKeyed_catalog, by decide, ?_⟩
  rw [decode_encode_eq rfl]
  decide +kernel

end Link

end FacetedSearch
