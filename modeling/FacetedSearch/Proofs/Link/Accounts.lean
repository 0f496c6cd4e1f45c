/-
# FacetedSearch.Proofs.Link.Accounts -- everything in a text is accounted for

What stands between two `&` of a text is handled by itself (`Handled`), and says what becomes of all
of it:

* each fragment of a group or of a category is one entry there, or is reported once, with what could
  not be used of it (`Fate`);
* a setting takes the value that its text denotes, and nothing is reported, or it stays as it was and
  is reported once;
* anything else leaves the selection as it was and is reported once.

A reading handles the pieces one after another and does nothing else, so no piece is passed over and
none is reported twice (`decode_handles_pieces`).
-/
import FacetedSearch.Proofs.Link.Components
import FacetedSearch.Proofs.Link.Settings
import FacetedSearch.Proofs.Link.Spellings
import Mathlib.Data.List.TakeWhile

namespace FacetedSearch.Link

set_option autoImplicit false

/-! ## Fragments -/

/-- The report is on a fragment of a parameter: it has the name of the parameter, and the part of
the fragment that could not be used. -/
def ReportOn (format : Format) (parameter : String) (fragment : List Char) : Diagnostic → Prop
  | .unparsableFragment name text => name = parameter ∧ text.toList = fragment
  | .unknownScopeCode name code =>
      name = parameter ∧ format.scopeCodes.scope? code = none ∧
        ∃ token, Text.cutLast? '#' fragment = some (token, code.toList)
  | .unresolvableToken name token =>
      name = parameter ∧ ∃ code, Text.cutLast? '#' fragment = some (token.toList, code)
  | _ => False

/-- What becomes of a fragment: an entry in the scope that its code stands for, or a report. -/
def Fate (format : Format) (parameter : String) (fragment : List Char) :
    Except Diagnostic Entry → Prop
  | .ok e => ∃ token,
      Text.cutLast? '#' fragment = some (token, (format.scopeCodes.code e.scope).toList)
  | .error report => ReportOn format parameter fragment report

variable {format : Format} {catalog : Catalog} {position : Position}

/-- **A fragment is one entry or one report.** -/
theorem fate_readEntry (parameter : String) (fragment : List Char) :
    Fate format parameter fragment (format.readEntry catalog position parameter fragment) := by
  have cut (token : List Char) (scope : Scope) :=
    Text.cutLast?_append token (format.scopeCodes.hash_notMem_code scope)
  cases read : format.readEntry catalog position parameter fragment with
  | ok e =>
      obtain ⟨token, rfl, -⟩ := readEntry_eq_ok_iff.1 read
      exact ⟨token, cut token e.scope⟩
  | error report =>
      cases readEntry_eq_error_iff.1 read with
      | unmarked => exact ⟨rfl, String.toList_ofList⟩
      | @unknownCode token code same last unknown =>
          refine ⟨rfl, scope?_eq_none unknown, token, ?_⟩
          rw [same, String.toList_ofList, Text.cutLast?_append token last]
      | nameless => exact ⟨rfl, String.toList_ofList⟩
      | @unresolvable token scope same =>
          refine ⟨rfl, (format.scopeCodes.code scope).toList, ?_⟩
          rw [same, String.toList_ofList, cut token scope]

theorem fates_readEntries (p : Parameter) :
    List.Forall₂ (Fate format p.name) (format.fragments p.value)
      (format.readEntries catalog position p) := by
  rw [Format.readEntries, List.forall₂_map_right_iff, List.forall₂_same]
  exact fun fragment _ => fate_readEntry p.name fragment

/-! ## Parameters -/

/-- What a parameter makes of a selection, and what is reported of it. -/
inductive Handled (format : Format) (catalog : Catalog) (p : Parameter) (s : Selection) :
    Selection → List Diagnostic → Prop
  /-- One more group, of what its fragments give. -/
  | subjects {results : List (Except Diagnostic Entry)}
      (purpose : format.purpose catalog p.name = .subjects)
      (fates : List.Forall₂ (Fate format p.name) (format.fragments p.value) results) :
      Handled format catalog p s
        { s with groups := s.groups ++ [usable results].filter fun group => !group.isEmpty }
        (reports results)
  /-- More entries of the category, as its fragments give them. -/
  | category {results : List (Except Diagnostic Entry)}
      (purpose : format.purpose catalog p.name = .category)
      (fates : List.Forall₂ (Fate format p.name) (format.fragments p.value) results) :
      Handled format catalog p s
        { s with
          filters := if usable results = [] then s.filters else s.filters.extend p.name (usable results) }
        (reports results)
  /-- The setting has the value that the text denotes. -/
  | set {setting : Setting} {value : setting.Value}
      (purpose : format.purpose catalog p.name = .setting setting)
      (denotes : format.Denotes setting p.value value) :
      Handled format catalog p s ((setting.change value).apply s) []
  /-- The text denotes no value of the setting, which article ids always have. -/
  | invalid {setting : Setting} (purpose : format.purpose catalog p.name = .setting setting)
      (scalar : setting ≠ .pmids) (nothing : ∀ value, ¬ format.Denotes setting p.value value) :
      Handled format catalog p s s [.invalidScalar p.name p.value]
  | unknown (purpose : format.purpose catalog p.name = .nothing) :
      Handled format catalog p s s [.unknownParameter p.name]

/-- Parameters handled one after another. -/
inductive HandledAll (format : Format) (catalog : Catalog) :
    Selection → List Parameter → Selection → List Diagnostic → Prop
  | nil {s : Selection} : HandledAll format catalog s [] s []
  | cons {s t u : Selection} {p : Parameter} {rest : List Parameter} {first others : List Diagnostic}
      (head : Handled format catalog p s t first) (tail : HandledAll format catalog t rest u others) :
      HandledAll format catalog s (p :: rest) u (first ++ others)

/-- **A parameter is handled**: nothing of it is passed over or reported twice. -/
theorem handled_readParameter (p : Parameter) (s : Selection) :
    Handled format catalog p s ((format.readParameter catalog p).apply s)
      (format.readParameter catalog p).diagnostics := by
  rw [Format.readParameter_eq]
  cases purpose : format.purpose catalog p.name with
  | subjects =>
      have fates : List.Forall₂ (Fate format p.name) (format.fragments p.value)
          (format.readEntries catalog .subject p) := fates_readEntries p
      have handled := Handled.subjects (s := s) purpose fates
      convert handled using 1
      by_cases none : usable (format.readEntries catalog .subject p) = [] <;>
        simp [Outcome.apply, Change.apply, Format.found, none]
  | category =>
      have fates : List.Forall₂ (Fate format p.name) (format.fragments p.value)
          (format.readEntries catalog (.filter p.name) p) := fates_readEntries p
      have handled := Handled.category (s := s) purpose fates
      convert handled using 1
      simp only [Outcome.apply, Change.apply, Format.found, List.isEmpty_iff]
      split <;> rfl
  | setting setting =>
      simp only
      cases read : format.readValue? setting p.value with
      | some value => exact .set purpose (readValue?_eq_some_iff.1 read)
      | none =>
          refine .invalid purpose ?_ fun value denotes => ?_
          · rintro rfl
            cases read
          · rw [readValue?_eq_some_iff.2 denotes] at read
            cases read
  | nothing => exact .unknown purpose

theorem handledAll_parameters (ps : List Parameter) (s : Selection) :
    HandledAll format catalog s ps
      (ps.foldl (fun s p => (format.readParameter catalog p).apply s) s)
      (ps.flatMap fun p => (format.readParameter catalog p).diagnostics) := by
  induction ps generalizing s with
  | nil => exact .nil
  | cons p rest ih => exact .cons (handled_readParameter p s) (ih _)

/-! ## Texts -/

/-- The pieces of a text that are not empty, after a mark in front of it. -/
def fullPieces (text : List Char) : List (List Char) :=
  (pieces (dropMark text)).filter fun piece => !piece.isEmpty

theorem notMem_of_cutFirst?_eq_none {c : Char} {text : List Char}
    (uncut : Text.cutFirst? c text = none) : c ∉ text := by
  induction text with
  | nil => simp
  | cons x rest ih =>
      simp only [Text.cutFirst?] at uncut
      split at uncut
      · cases uncut
      · rename_i other
        simp [Ne.symm other, ih (Option.map_eq_none_iff.1 uncut)]

theorem query_eq_of_cutFirst? {text before after : List Char}
    (cut : Text.cutFirst? '#' text = some (before, after)) : query text = before := by
  obtain ⟨rfl, absent⟩ := Text.eq_of_cutFirst? cut
  rw [query, List.takeWhile_append_of_pos fun c hc => by
    rw [bne_iff_ne]
    rintro rfl
    exact absent hc]
  simp

theorem query_eq_self {text : List Char} (uncut : Text.cutFirst? '#' text = none) :
    query text = text := by
  refine List.takeWhile_eq_self_iff.2 fun c hc => ?_
  rw [bne_iff_ne]
  rintro rfl
  exact notMem_of_cutFirst?_eq_none uncut hc

/-- The parameters of a text are its pieces that are not empty. -/
theorem parameters_ofChars (text : List Char) :
    (ofChars text).parameters = (fullPieces text).map Parameter.ofPiece := by
  unfold ofChars fullPieces pieces
  simp only
  split
  · rename_i before after cut
    rw [query_eq_of_cutFirst? cut]
    rfl
  · rename_i uncut
    rw [query_eq_self uncut]
    rfl

/-- **Everything is accounted for.**  A reading handles the pieces of a text that are not empty, each
of them once and in order, from a selection without entries on. -/
theorem decode_handles_pieces (format : Format) (hne : catalog.isEmpty = false) (text : String) :
    let read := format.decode catalog text
    HandledAll format catalog (format.start read.selection.anchor)
      ((fullPieces text.toList).map Parameter.ofPiece) read.selection read.diagnostics := by
  intro read
  have hread : read = format.readLink catalog (ofChars text.toList) := Format.decode_eq_readLink hne text
  rw [hread, Format.anchor_readLink, Format.selection_readLink, Format.diagnostics_readLink,
    ← parameters_ofChars]
  exact handledAll_parameters _ _

namespace Example

/-- Fragments that can be used between some that cannot, each for another reason; settings that are
set, refused and never refused; an empty piece and an unknown one. -/
def mixed : String :=
  "?subject=onc.1%23n;;bad;;;;onc.9%23s;;\x7b\x7bx 1\x7d\x7d%23q&pageSize=%2B07&advanced=yes&&pmidai" ++
    "&type=\x7b\x7b\x7d\x7d%23s;;rev%23b&nope=1&sort=date#x"

end Example

theorem decode_handles_pieces_of_mixed :
    Catalog.Example.catalog.isEmpty = false ∧
      let read := ({} : Format).decode Catalog.Example.catalog Example.mixed
      HandledAll {} Catalog.Example.catalog (({} : Format).start read.selection.anchor)
          ((fullPieces Example.mixed.toList).map Parameter.ofPiece) read.selection read.diagnostics ∧
        read =
          ⟨{ groups := [[.facet Catalog.Example.subject .narrow]]
             filters := { rows := [("type", [.facet Catalog.Example.choice .broad])], nodup := by simp }
             sort := .mostRecent
             pageSize := 7
             anchor := some "x" },
            [.unparsableFragment "subject" "bad", .unresolvableToken "subject" "onc.9",
              .unknownScopeCode "subject" "q", .invalidScalar "advanced" "yes",
              .unparsableFragment "type" "\x7b\x7b\x7d\x7d#s", .unknownParameter "nope"]⟩ :=
  ⟨rfl, decode_handles_pieces {} rfl Example.mixed, by decide +kernel⟩

end FacetedSearch.Link
