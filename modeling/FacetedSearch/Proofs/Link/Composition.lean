/-
# FacetedSearch.Proofs.Link.Composition -- links put together from links

What a text reads as is made up of what its pieces read as, and of nothing else.  Two texts joined
by `&` read as the selections of both put together (`Decoded.Joined`): groups and entries one after
another, categories in the order of the first and then what is new in the second, and for each
setting the last value that the second sets it to, else that of the first (`Format.TakesLast`).  The
name of the subjects comes first: a setting that has it is none.  So two neighbouring pieces of
different names may change places (`decode_swap`), and an anchor changes the anchor only
(`readLink_anchor`).

The first character counts: one `?` in front of a text is no part of it, so no piece that comes to
stand there, or leaves that place, may begin with one.
-/
import FacetedSearch.Proofs.Link.Parameters
import FacetedSearch.Proofs.Link.Settings

namespace FacetedSearch

set_option autoImplicit false

namespace Link

/-! ## Joined links -/

variable {format : Format} {catalog : Catalog}

/-- A reading that puts two readings together, of which the later one has the parameters. -/
structure Decoded.Joined (format : Format) (later : List Parameter) (a b ab : Decoded) : Prop where
  groups : ab.selection.groups = a.selection.groups ++ b.selection.groups
  entries : ∀ category, ab.selection.filters.entriesOf category =
    a.selection.filters.entriesOf category ++ b.selection.filters.entriesOf category
  names : ab.selection.filters.names =
    a.selection.filters.names ++
      b.selection.filters.names.filter fun name => name ∉ a.selection.filters.names
  advanced : format.TakesLast .advanced a.selection.advanced later ab.selection.advanced
  sort : format.TakesLast .sort a.selection.sort later ab.selection.sort
  collapsed : format.TakesLast .collapsed a.selection.collapsed later ab.selection.collapsed
  pageSize : format.TakesLast .pageSize a.selection.pageSize later ab.selection.pageSize
  pmids : ab.selection.pmids =
    if ∃ p ∈ later, p.name = Setting.pmids.name ∧ p.name ≠ format.subjectName
    then b.selection.pmids else a.selection.pmids
  page : ab.selection.page = a.selection.page
  diagnostics : ab.diagnostics = a.diagnostics ++ b.diagnostics

theorem value_joined (setting : Setting) (xs ys : List Parameter) :
    (format.readLink catalog ⟨xs ++ ys, none⟩).selection.value setting =
      ((ys.filterMap (format.valueOf? catalog setting)).getLast?).getD
        ((format.readLink catalog ⟨xs, none⟩).selection.value setting) := by
  rw [Format.value_readLink, Format.value_readLink, List.filterMap_append, List.getLast?_append]
  cases (ys.filterMap (format.valueOf? catalog setting)).getLast? <;> rfl

theorem takesLast_joined (setting : Setting) (xs ys : List Parameter) :
    format.TakesLast setting ((format.readLink catalog ⟨xs, none⟩).selection.value setting) ys
      ((format.readLink catalog ⟨xs ++ ys, none⟩).selection.value setting) :=
  (Format.TakesLast.iff_getLast? catalog).2 (value_joined setting xs ys).symm

/-- Every parameter for the article ids sets them, so they stay as they were if there is none. -/
theorem getLast?_pmids_eq_none_iff (ps : List Parameter) :
    (ps.filterMap (format.valueOf? catalog .pmids)).getLast? = none ↔
      ¬∃ p ∈ ps, p.name = Setting.pmids.name ∧ p.name ≠ format.subjectName := by
  have unset (p : Parameter) : format.valueOf? catalog .pmids p = none ↔
      ¬(p.name = Setting.pmids.name ∧ p.name ≠ format.subjectName) := by
    rw [valueOf?_eq_none_iff]
    constructor
    · intro none ⟨name, no_subject⟩
      exact none _ ⟨name, no_subject, rfl⟩
    · intro absent value sets
      exact absent ⟨sets.name, sets.no_subject⟩
  simp only [List.getLast?_eq_none_iff, List.filterMap_eq_nil_iff, unset, not_exists, not_and]

/-- **Links with the parameters of two others** read as both readings put together. -/
theorem joined_readLink (format : Format) (catalog : Catalog) (xs ys : List Parameter) :
    Decoded.Joined format ys (format.readLink catalog ⟨xs, none⟩)
      (format.readLink catalog ⟨ys, none⟩) (format.readLink catalog ⟨xs ++ ys, none⟩) where
  groups := by simp only [Format.groups_readLink, List.flatMap_append]
  entries category := by simp only [Format.entriesOf_readLink, List.flatMap_append]
  names := by simp only [Format.names_readLink, List.flatMap_append, eraseDups_append_eq]
  advanced := takesLast_joined .advanced xs ys
  sort := takesLast_joined .sort xs ys
  collapsed := takesLast_joined .collapsed xs ys
  pageSize := takesLast_joined .pageSize xs ys
  pmids := by
    have both : (format.readLink catalog ⟨xs ++ ys, none⟩).selection.pmids =
        ((ys.filterMap (format.valueOf? catalog .pmids)).getLast?).getD
          (format.readLink catalog ⟨xs, none⟩).selection.pmids := value_joined .pmids xs ys
    have second : (format.readLink catalog ⟨ys, none⟩).selection.pmids =
        ((ys.filterMap (format.valueOf? catalog .pmids)).getLast?).getD [] :=
      Format.value_readLink ⟨ys, none⟩ .pmids
    rw [both, second]
    split
    · rename_i present
      cases last : (ys.filterMap (format.valueOf? catalog .pmids)).getLast? with
      | none => exact absurd present ((getLast?_pmids_eq_none_iff ys).1 last)
      | some pmids => rfl
    · rename_i absent
      rw [(getLast?_pmids_eq_none_iff ys).2 absent, Option.getD_none]
  page := by rw [Format.page_readLink, Format.page_readLink]
  diagnostics := by simp only [Format.diagnostics_readLink, List.flatMap_append]

/-! ## Neighbours -/

section Swap

variable {α β : Type}

theorem flatMap_swap {f : α → List β} {p q : α} (alone : f p = [] ∨ f q = []) (xs ys : List α) :
    (xs ++ p :: q :: ys).flatMap f = (xs ++ q :: p :: ys).flatMap f := by
  rcases alone with nothing | nothing <;> simp [nothing]

theorem filterMap_swap {f : α → Option β} {p q : α} (alone : f p = none ∨ f q = none)
    (xs ys : List α) : (xs ++ p :: q :: ys).filterMap f = (xs ++ q :: p :: ys).filterMap f := by
  rcases alone with nothing | nothing <;>
    simp only [List.filterMap_append, List.filterMap_cons, nothing]

end Swap

/-- Parameters of different names contribute to different parts. -/
theorem readLink_swap {p q : Parameter} (different : p.name ≠ q.name) (xs ys : List Parameter) :
    (format.readLink catalog ⟨xs ++ p :: q :: ys, none⟩).selection.same
      (format.readLink catalog ⟨xs ++ q :: p :: ys, none⟩).selection = true := by
  rw [Selection.same_iff]
  refine ⟨?_, fun category => ?_, fun setting => ?_, ?_, ?_⟩
  · rw [Format.groups_readLink, Format.groups_readLink]
    refine flatMap_swap ?_ xs ys
    unfold Format.groupsOf
    by_cases subject : format.purpose catalog p.name = .subjects
    · refine .inr (if_neg fun other => different ?_)
      rw [Format.purpose_eq_subjects_iff.1 subject, Format.purpose_eq_subjects_iff.1 other]
    · exact .inl (if_neg subject)
  · refine (Format.populated_readLink _).get?_congr (Format.populated_readLink _) ?_
    rw [Format.entriesOf_readLink, Format.entriesOf_readLink]
    refine flatMap_swap ?_ xs ys
    unfold Format.choicesOf
    by_cases same : p.name = category
    · exact .inr (if_neg fun other => different (same.trans other.1.symm))
    · exact .inl (if_neg fun this => same this.1)
  · rw [Format.value_readLink, Format.value_readLink]
    have alone : format.valueOf? catalog setting p = none ∨
        format.valueOf? catalog setting q = none := by
      unfold Format.valueOf?
      by_cases set : format.purpose catalog p.name = .setting setting
      · refine .inr (if_neg fun other => different ?_)
        rw [(Format.purpose_eq_setting_iff.1 set).2, (Format.purpose_eq_setting_iff.1 other).2]
      · exact .inl (if_neg set)
    rw [filterMap_swap alone xs ys]
  · rw [Format.page_readLink, Format.page_readLink]
  · rw [Format.anchor_readLink, Format.anchor_readLink]

/-- A piece of a text between `&`, without an anchor, that no mark stands in front of. -/
structure Piece (text : String) : Prop where
  ampersand : '&' ∉ text.toList
  hash : '#' ∉ text.toList
  mark : text.toList.head? ≠ some '?'

/-- The text of some pieces. -/
def joinPieces (pieces : List String) : String := "&".intercalate pieces

theorem head?_intercalate_pieces {pieces : List (List Char)}
    (plain : ∀ piece ∈ pieces, piece.head? ≠ some '?') :
    (['&'].intercalate pieces).head? ≠ some '?' := by
  match pieces with
  | [] => simp
  | [piece] => simpa using plain piece
  | piece :: next :: rest =>
      have first := plain piece List.mem_cons_self
      rw [List.intercalate_cons_cons]
      cases piece with
      | nil => simp
      | cons c chars => simpa using first

theorem ofChars_joinPieces {pieces : List String} (plain : ∀ piece ∈ pieces, Piece piece) :
    ofChars (joinPieces pieces).toList =
      ⟨((pieces.map String.toList).filter fun piece => !piece.isEmpty).map Parameter.ofPiece,
        none⟩ := by
  have hpiece : ∀ piece ∈ pieces.map String.toList,
      '&' ∉ piece ∧ '#' ∉ piece ∧ piece.head? ≠ some '?' := by
    intro piece member
    obtain ⟨text, htext, rfl⟩ := List.mem_map.1 member
    exact ⟨(plain text htext).ampersand, (plain text htext).hash, (plain text htext).mark⟩
  have chars : (joinPieces pieces).toList = ['&'].intercalate (pieces.map String.toList) := by
    rw [joinPieces, String.toList_intercalate]
    rfl
  have hash : '#' ∉ ['&'].intercalate (pieces.map String.toList) := by
    intro member
    rcases Text.mem_intercalate member with separator | ⟨piece, hmem, inside⟩
    · exact absurd separator (by decide)
    · exact (hpiece piece hmem).2.1 inside
  have mark := head?_intercalate_pieces fun piece member => (hpiece piece member).2.2
  rw [chars, ofChars_of_notMem hash, dropMark_of_head? mark,
    Parameter.ofChars_pieces fun piece member => (hpiece piece member).1]

/-- **Neighbours of different names may change places.** -/
theorem decode_swap (hne : catalog.isEmpty = false) {before after : List String} {p q : String}
    (plain : ∀ piece ∈ before ++ p :: q :: after, Piece piece)
    (different : (Parameter.ofPiece p.toList).name ≠ (Parameter.ofPiece q.toList).name) :
    (format.decode catalog (joinPieces (before ++ p :: q :: after))).selection.same
      (format.decode catalog (joinPieces (before ++ q :: p :: after))).selection = true := by
  have plain' : ∀ piece ∈ before ++ q :: p :: after, Piece piece := by
    intro piece member
    refine plain piece ?_
    simp only [List.mem_append, List.mem_cons] at member ⊢
    tauto
  rw [Format.decode_eq_readLink hne, Format.decode_eq_readLink hne, ofChars_joinPieces plain,
    ofChars_joinPieces plain']
  simp only [List.map_append, List.map_cons, List.filter_append]
  -- an empty piece is no parameter, so there is nothing to change places with
  by_cases hp : p.toList = []
  · simp only [hp, List.filter_cons, List.isEmpty_nil]
    simp [Selection.same_iff]
  · by_cases hq : q.toList = []
    · simp only [hq, List.filter_cons, List.isEmpty_nil]
      simp [Selection.same_iff]
    · rw [List.filter_cons_of_pos (by simpa using hp), List.filter_cons_of_pos (by simpa using hq),
        List.filter_cons_of_pos (by simpa using hq), List.filter_cons_of_pos (by simpa using hp)]
      simp only [List.map_cons]
      exact readLink_swap different _ _

/-! ## Anchors -/

/-- An anchor is the one thing that an anchor changes. -/
theorem readLink_anchor (link : Link) (anchor : Option String) :
    format.readLink catalog { link with anchor } =
      { format.readLink catalog link with
        selection := { (format.readLink catalog link).selection with anchor } } := by
  have selection : (format.readLink catalog { link with anchor }).selection =
      { (format.readLink catalog link).selection with anchor } := by
    refine Selection.ext_parts ?_ (Filters.ext_parts ?_ fun category => ?_) (fun setting => ?_) ?_ ?_
    · simp only [Format.groups_readLink]
    · simp only [Format.names_readLink]
    · simp only [Format.entriesOf_readLink]
    · have unchanged : ({ (format.readLink catalog link).selection with anchor } : Selection).value
          setting = (format.readLink catalog link).selection.value setting := by
        cases setting <;> rfl
      rw [unchanged, Format.value_readLink, Format.value_readLink]
      cases setting <;> rfl
    · simp only [Format.page_readLink]
    · rw [Format.anchor_readLink]
  have diagnostics : (format.readLink catalog { link with anchor }).diagnostics =
      (format.readLink catalog link).diagnostics := by
    simp only [Format.diagnostics_readLink]
  generalize format.readLink catalog { link with anchor } = moved at selection diagnostics
  obtain ⟨s, d⟩ := moved
  simp only at selection diagnostics
  rw [selection, diagnostics]

/-! ## The law -/

/-- **Reading is compositional.**  Texts joined by `&` read as both readings put together; pieces of
different names may change places; and an anchor behind a text is the one thing that it changes. -/
theorem decode_compositional (format : Format) {catalog : Catalog} (hne : catalog.isEmpty = false) :
    (∀ a b : String, '#' ∉ a.toList → '#' ∉ b.toList → b.toList.head? ≠ some '?' →
      Decoded.Joined format (ofChars b.toList).parameters (format.decode catalog a)
        (format.decode catalog b) (format.decode catalog (a ++ "&" ++ b))) ∧
    (∀ (before after : List String) (p q : String),
      (∀ piece ∈ before ++ p :: q :: after, Piece piece) →
      (Parameter.ofPiece p.toList).name ≠ (Parameter.ofPiece q.toList).name →
      (format.decode catalog (joinPieces (before ++ p :: q :: after))).selection.same
        (format.decode catalog (joinPieces (before ++ q :: p :: after))).selection = true) ∧
    ∀ a x : String, '#' ∉ a.toList →
      format.decode catalog (a ++ "#" ++ x) =
        { format.decode catalog a with
          selection := { (format.decode catalog a).selection with
            anchor := if x = "" then none else some (component x.toList) } } := by
  refine ⟨fun a b ha hb plain => ?_, fun before after p q => decode_swap hne, fun a x ha => ?_⟩
  · have chars : (a ++ "&" ++ b).toList = a.toList ++ '&' :: b.toList := by simp
    have joined := joined_readLink format catalog
      (ofChars a.toList).parameters (ofChars b.toList).parameters
    rw [Format.decode_eq_readLink hne, Format.decode_eq_readLink hne, Format.decode_eq_readLink hne,
      chars, ofChars_append ha hb plain]
    rwa [ofChars_of_notMem ha, ofChars_of_notMem hb] at joined ⊢
  · have chars : (a ++ "#" ++ x).toList = a.toList ++ '#' :: x.toList := by simp
    rw [Format.decode_eq_readLink hne, Format.decode_eq_readLink hne, chars, ofChars_anchor ha,
      readLink_anchor]
    simp

namespace Example

/-- A category comes first, and every setting is set. -/
def earlier : String :=
  "?type=rev%23n&pageSize=7&subject=onc.1%23n&pmidai=1;;2&advanced=true&sort=date&collapsed=true"

/-- All of it is repeated, and the sort method twice.  Its last value cannot be read, nor can those
for the page size and for whether the selection is folded away, and there are no article ids. -/
def later : String :=
  "subject=onc.1%23b&type=\x7b\x7bx\x7d\x7d%23s&pageSize=0&pmidai&advanced=false&sort=jour&sort=x" ++
    "&collapsed=no"

end Example

theorem decode_compositional_of_repeated :
    Catalog.Example.catalog.isEmpty = false ∧
      Decoded.Joined {} (ofChars Example.later.toList).parameters
        (({} : Format).decode Catalog.Example.catalog Example.earlier)
        (({} : Format).decode Catalog.Example.catalog Example.later)
        (({} : Format).decode Catalog.Example.catalog (Example.earlier ++ "&" ++ Example.later)) ∧
      ({} : Format).decode Catalog.Example.catalog (Example.earlier ++ "&" ++ Example.later) =
        ⟨{ groups :=
            [[.facet Catalog.Example.subject .narrow], [.facet Catalog.Example.subject .broad]]
           filters :=
            ⟨[("type",
              [.facet Catalog.Example.choice .narrow, .custom ⟨"x", .normal, false, none⟩])],
              by simp⟩
           sort := .journal
           collapsed := true
           pageSize := 7 },
          [.invalidScalar "pageSize" "0", .invalidScalar "sort" "x",
            .invalidScalar "collapsed" "no"]⟩ :=
  ⟨rfl, (decode_compositional {} rfl).1 _ _ (by decide +kernel) (by decide +kernel)
    (by decide +kernel), by decide +kernel⟩

end Link

end FacetedSearch
