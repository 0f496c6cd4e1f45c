/-
# FacetedSearch.Proofs.Session.Invariant -- what holds all through a session

A session offers the facets of its catalog and tags with names free of `;;`, and takes settings that
links can show (`Step.Allowed`); links may be any texts, and groups, keys and places in groups any
at all.  Then every selection that it comes to is sound (`sound_runAll`), because every kind of step
keeps a selection sound (`sound_run`).  In particular no category is left there without entries.

What a link does not keep of a sound selection shows in no link and in no query, so to reload is
safe at any time (`run_reload`), and to reload twice is to reload once (`run_reload_kept`).
-/
import FacetedSearch.Proofs.Link.Decoded
import FacetedSearch.Proofs.Selection.Parts
import FacetedSearch.Session

namespace FacetedSearch

set_option autoImplicit false

/-- Every facet of the catalog has a key that can be written. -/
structure Catalog.WellKeyed (catalog : Catalog) : Prop where
  subjects : ∀ f ∈ catalog.subjects.index, f.key.WellFormed
  choices : ∀ category ∈ catalog.categories, ∀ f ∈ category.choices.index, f.key.WellFormed

/-- What there is to select at a position: the facets that the catalog has there, and tags with
names free of `;;`. -/
def Entry.Offered (catalog : Catalog) (position : Link.Position) : Entry → Prop
  | facet f _ => Link.FacetAt catalog position f.key f
  | custom tag => tag.name ≠ "" ∧ ¬ ";;".toList <:+: tag.name.toList

/-- The step brings in what is offered, where it is offered, and settings that links can show. -/
def Session.Step.Allowed (catalog : Catalog) : Step → Prop
  | addGroup => True
  | pushSubject _ entry => entry.Offered catalog .subject
  | addFilter category entry =>
      (catalog.category? category).isSome ∧ entry.Offered catalog (.filter category)
  | removeFilter _ _ => True
  | setScope _ _ _ => True
  | configure settings =>
      (∀ n ∈ settings.pageSize?, 1 ≤ n ∧ n < UInt64.size) ∧
        ∀ pmids ∈ settings.pmids?, ∀ pmid ∈ pmids, ';' ∉ pmid.toList
  | clear => True
  | decode _ => True
  | reload => True

variable {catalog : Catalog}

/-! ## Entries -/

theorem Catalog.WellKeyed.wellFormed_of_facetAt (wellKeyed : catalog.WellKeyed)
    {position : Link.Position} {key : Facet.Key} {f : Facet}
    (found : Link.FacetAt catalog position key f) : f.key.WellFormed := by
  cases found with
  | subject found => exact wellKeyed.subjects f (Keyed.mem_of_lookup found).1
  | choice found =>
      obtain ⟨category, hcategory, hchoice⟩ := Option.bind_eq_some_iff.1 found
      exact wellKeyed.choices category (Keyed.mem_of_lookup hcategory).1 f
        (Keyed.mem_of_lookup hchoice).1

namespace Entry

variable {position : Link.Position} {e : Entry}

theorem Offered.writable (offered : e.Offered catalog position) (wellKeyed : catalog.WellKeyed)
    (known : position.Known catalog) : e.Writable catalog position := by
  cases e with
  | facet f scope =>
      have wellFormed := wellKeyed.wellFormed_of_facetAt offered
      exact ⟨known, ⟨wellFormed, Link.facetAt_iff.1 offered⟩,
        Link.not_infix_name_of_wellFormed wellFormed⟩
  | custom tag => exact ⟨known, offered.1, offered.2⟩

theorem Writable.offered (writable : e.Writable catalog position) : e.Offered catalog position := by
  cases e with
  | facet f scope => exact Link.facetAt_iff.2 writable.nameable.2
  | custom tag => exact ⟨writable.nameable, writable.apart⟩

theorem Writable.withScope (writable : e.Writable catalog position) (scope : Scope) :
    (e.withScope scope).Writable catalog position := by
  cases e with
  | facet f old => exact ⟨writable.known, writable.nameable, writable.apart⟩
  | custom tag => exact ⟨writable.known, writable.nameable, writable.apart⟩

end Entry

namespace Session

open Link (Format)

variable {s : Selection} {format : Format}

/-! ## Steps -/

theorem separable_of_notMem {pmids : List String} (plain : ∀ pmid ∈ pmids, ';' ∉ pmid.toList) :
    Text.Separable ";;".toList ((pmids.filter fun pmid => pmid != "").map String.toList) := by
  refine Text.separable_of_forall (by decide) fun text htext => ?_
  obtain ⟨pmid, hpmid, rfl⟩ := List.mem_map.1 htext
  have hhalf : ";;".toList.dropLast = [';'] := rfl
  have habsent := plain pmid (List.mem_of_mem_filter hpmid)
  rw [Text.endsClean_iff (by decide), hhalf]
  rintro ⟨before, after, occurs⟩
  -- the half of the separator behind the id is too short to hold it all
  have hcount := congrArg (List.count ';') occurs
  have hsep : List.count ';' ";;".toList = 2 := by decide
  simp only [List.count_append, hsep, List.count_eq_zero_of_not_mem habsent] at hcount
  simp at hcount
  omega

theorem sound_settings (sound : s.Sound catalog) {settings : Settings}
    (allowed : (Step.configure settings).Allowed catalog) : (settings.apply s).Sound catalog where
  entries := sound.entries.congr rfl rfl
  pageSize_pos := by
    cases h : settings.pageSize? with
    | none => simpa [Settings.apply, h] using sound.pageSize_pos
    | some n => simpa [Settings.apply, h] using (allowed.1 n h).1
  pageSize_lt := by
    cases h : settings.pageSize? with
    | none => simpa [Settings.apply, h] using sound.pageSize_lt
    | some n => simpa [Settings.apply, h] using (allowed.1 n h).2
  pmids_apart := by
    cases h : settings.pmids? with
    | none => simpa [Settings.apply, h] using sound.pmids_apart
    | some pmids => simpa [Settings.apply, h] using separable_of_notMem (allowed.2 pmids h)

/-- A change of entries alone leaves a selection sound if the entries can be written. -/
theorem sound_of_entries (sound : s.Sound catalog) {next : Selection}
    (entries : next.Throughout (Entry.Writable catalog)) (pageSize : next.pageSize = s.pageSize)
    (pmids : next.pmids = s.pmids) : next.Sound catalog where
  entries := entries
  pageSize_pos := pageSize ▸ sound.pageSize_pos
  pageSize_lt := pageSize ▸ sound.pageSize_lt
  pmids_apart := pmids ▸ sound.pmids_apart

theorem removeFilter_frame (s : Selection) (category : String) (key : Facet.Key) :
    ∃ filters, (s.removeFilter category key).2 = { s with filters } := by
  unfold Selection.removeFilter
  split
  · exact ⟨_, rfl⟩
  · exact ⟨s.filters, rfl⟩

theorem setScope_frame (s : Selection) (group entry : Nat) (scope : Scope) :
    ∃ groups, (s.setScope group entry scope).2 = { s with groups } := by
  unfold Selection.setScope
  split
  · exact ⟨s.groups, rfl⟩
  · split
    · exact ⟨_, rfl⟩
    · exact ⟨s.groups, rfl⟩

theorem sound_removeFilter (sound : s.Sound catalog) (category : String) (key : Facet.Key) :
    (s.removeFilter category key).2.Sound catalog := by
  have entries := sound.entries.removeFilter category key
  obtain ⟨filters, frame⟩ := removeFilter_frame s category key
  rw [frame] at entries ⊢
  exact sound_of_entries sound entries rfl rfl

theorem sound_setScope (sound : s.Sound catalog) (group entry : Nat) (scope : Scope) :
    (s.setScope group entry scope).2.Sound catalog := by
  have closed : ∀ e : Entry, e.Writable catalog .subject →
      (e.withScope scope).Writable catalog .subject := fun e he => he.withScope scope
  have entries := sound.entries.setScope closed group entry
  obtain ⟨groups, frame⟩ := setScope_frame s group entry scope
  rw [frame] at entries ⊢
  exact sound_of_entries sound entries rfl rfl

/-- **Every step that is allowed keeps a selection sound.** -/
theorem sound_run (conventional : format.Conventional) (wellKeyed : catalog.WellKeyed)
    (sound : s.Sound catalog) {step : Step} (allowed : step.Allowed catalog) :
    (step.run format catalog s).2.Sound catalog := by
  cases step with
  | addGroup => exact sound_of_entries sound sound.entries.addGroup rfl rfl
  | pushSubject group entry =>
      have new : entry.Writable catalog .subject := allowed.writable wellKeyed trivial
      exact sound_of_entries sound (sound.entries.pushSubject new group) rfl rfl
  | addFilter category entry =>
      have new : entry.Writable catalog (.filter category) :=
        allowed.2.writable wellKeyed allowed.1
      exact sound_of_entries sound (sound.entries.addFilter new) rfl rfl
  | removeFilter category key => exact sound_removeFilter sound category key
  | setScope group entry scope => exact sound_setScope sound group entry scope
  | configure settings => exact sound_settings sound allowed
  | clear =>
      exact
        { entries := Selection.Throughout.clear
          pageSize_pos := sound.pageSize_pos
          pageSize_lt := sound.pageSize_lt
          pmids_apart := trivial }
  | decode text => exact (Link.settled_decode conventional text).sound
  | reload => exact (Link.settled_decode conventional (format.encode s)).sound

theorem sound_start : ({} : Selection).Sound catalog where
  entries := ⟨by simp, Filters.Throughout.empty⟩
  pageSize_pos := by decide
  pageSize_lt := by decide
  pmids_apart := trivial

/-- **Every selection of a session is sound.** -/
theorem sound_runAll (conventional : format.Conventional) (wellKeyed : catalog.WellKeyed)
    (sound : s.Sound catalog) {steps : List Step} (allowed : ∀ step ∈ steps, step.Allowed catalog) :
    (runAll format catalog s steps).Sound catalog := by
  induction steps generalizing s with
  | nil => exact sound
  | cons step rest ih =>
      have first := sound_run conventional wellKeyed sound (allowed step List.mem_cons_self)
      exact ih first fun later hlater => allowed later (List.mem_cons_of_mem _ hlater)

end Session

/-! ## Reloading -/

namespace Session

variable {s : Selection} {d : Definitions}

theorem run_reload (built : Catalog.build d = .ok catalog) (hne : catalog.isEmpty = false)
    (sound : s.Sound catalog) :
    Step.reload.run {} catalog s = (.reloaded (s.kept.same s) [], s.kept) := by
  simp only [Step.run, Link.conventional_default.decode_encode built hne sound]

/-- A selection that a link gave reloads as it is. -/
theorem run_reload_kept (built : Catalog.build d = .ok catalog) (hne : catalog.isEmpty = false)
    (sound : s.Sound catalog) :
    Step.reload.run {} catalog s.kept = (.reloaded true [], s.kept) := by
  have settled : s.kept.Settled catalog := by
    have read : (({} : Link.Format).decode catalog (({} : Link.Format).encode s)).selection =
        s.kept := congrArg Link.Decoded.selection
      (Link.conventional_default.decode_encode built hne sound)
    exact read ▸ Link.settled_decode Link.conventional_default _
  rw [run_reload built hne settled.sound, settled.kept_eq, Selection.same_self]

/-- **All through a session** every category has entries, every facet is the catalog's, every tag has
a name free of `;;` and a page has results; and at any time to reload reports nothing and changes
neither the link nor the query nor what the query leaves out, and to reload again changes nothing. -/
theorem reload_reachable (built : Catalog.build d = .ok catalog) (hne : catalog.isEmpty = false)
    (wellKeyed : catalog.WellKeyed) {steps : List Step}
    (allowed : ∀ step ∈ steps, step.Allowed catalog) :
    let s := runAll {} catalog {} steps
    s.Throughout (Entry.Offered catalog) ∧ 1 ≤ s.pageSize ∧
      ∃ same next, Step.reload.run {} catalog s = (.reloaded same [], next) ∧
        ({} : Link.Format).encode next = ({} : Link.Format).encode s ∧
        (∀ glue, next.compileWithDiagnostics glue = s.compileWithDiagnostics glue) ∧
        Step.reload.run {} catalog next = (.reloaded true [], next) := by
  intro s
  have sound : s.Sound catalog :=
    sound_runAll Link.conventional_default wellKeyed sound_start allowed
  refine ⟨sound.entries.mono fun _ _ e => e.offered, sound.pageSize_pos, s.kept.same s, s.kept,
    run_reload built hne sound, s.encode_kept {}, s.compileWithDiagnostics_kept,
    run_reload_kept built hne sound⟩

namespace Example

/-- One step of each kind; the category goes with its only entry and comes back in a link, beside
fragments that are no entries. -/
def steps : List Step :=
  [.addGroup,
    .pushSubject 2 (.facet Catalog.Example.subject .normal),
    .pushSubject 0 (.custom ⟨"a;b\x7d\x7d 1", .normal, true, some "c"⟩),
    .addFilter "type" (.facet Catalog.Example.choice .normal),
    .removeFilter "type" ⟨"rev", none, none, none⟩,
    .setScope 2 0 .broad,
    .configure { pageSize? := some 50, pmids? := some ["", "7"], page? := some 4 },
    .reload,
    .clear,
    .decode "subject=onc.1%23b&type=rev%23s&pmidai=;7;&type=\x7b\x7bx;;y\x7d\x7d%23s"]

theorem allowed_steps : ∀ step ∈ steps, step.Allowed Catalog.Example.catalog := by
  simp only [steps, List.forall_mem_cons]
  refine ⟨trivial, .subject rfl, ⟨by decide, by decide⟩, ⟨rfl, .choice rfl⟩, trivial, trivial,
    ⟨?_, ?_⟩, trivial, trivial, trivial, by simp⟩
  · intro n hn
    obtain rfl := Option.some.inj hn
    decide
  · simp

theorem wellKeyed_catalog : Catalog.Example.catalog.WellKeyed where
  subjects := by decide
  choices := by decide

end Example

theorem reload_reachable_each_kind :
    (∀ step ∈ Example.steps, step.Allowed Catalog.Example.catalog) ∧
      let s := runAll {} Catalog.Example.catalog {} Example.steps
      s = { groups := [[.facet Catalog.Example.subject .broad]]
            filters := ⟨[("type", [.facet Catalog.Example.choice .normal])], by simp⟩
            pmids := [";7;"] } ∧
        s.Throughout (Entry.Offered Catalog.Example.catalog) ∧ 1 ≤ s.pageSize ∧
          ∃ same next, Step.reload.run {} Catalog.Example.catalog s = (.reloaded same [], next) ∧
            ({} : Link.Format).encode next = ({} : Link.Format).encode s ∧
            (∀ glue, next.compileWithDiagnostics glue = s.compileWithDiagnostics glue) ∧
            Step.reload.run {} Catalog.Example.catalog next = (.reloaded true [], next) :=
  ⟨Example.allowed_steps, by decide +kernel,
    reload_reachable Catalog.Example.build_definitions rfl Example.wellKeyed_catalog
      Example.allowed_steps⟩

end Session

end FacetedSearch
