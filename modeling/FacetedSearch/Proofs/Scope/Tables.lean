/-
# FacetedSearch.Proofs.Scope.Tables -- which pairs make up a table of codes

Pairs are taken one by one, and the first that breaks a rule is reported.  The rules themselves know
no order (`Acceptable`): each scope stands in one pair, no code in two, and every code may be one.
They are the pairs that a table is made of (`exists_ofPairs_iff`), and other pairs are refused with
the first problem among them (`ofPairs_eq_error_iff`), where a pair is only held against those
before it (`Problem`).

A table can also be kept as two maps that are filled side by side (`Maps.ofPairs`): a pair is put
into the one under its code and into the other under its scope, and refused if it took the place of
another.  Half of this is done before the second check, so what makes the maps inverse to each other
is that nothing is kept of refused pairs.  The table of one list of rows is these two maps
(`maps_ofPairs`).
-/
import FacetedSearch.Proofs.Runs
import FacetedSearch.Scope.Codes
import Mathlib.Data.List.Nodup
import Mathlib.Logic.Function.Basic

namespace FacetedSearch.Scope

set_option autoImplicit false

/-! ## Problems -/

/-- A text that is not empty and holds no delimiter. -/
structure Usable (code : String) : Prop where
  populated : code ≠ ""
  undelimited : ∀ d ∈ delimiters, ¬ d.toList <:+: code.toList

/-- What is wrong with a pair behind the earlier ones; the code comes first, then its uniqueness,
then that of the scope. -/
inductive Problem (earlier : List (Scope × String)) : Scope × String → CodesError → Prop
  | invalidCode {scope : Scope} {code : String} (unusable : ¬ Usable code) :
      Problem earlier (scope, code) (.invalidCode code scope)
  | duplicateCode {scope : Scope} {code : String} (usable : Usable code)
      (known : code ∈ earlier.map Prod.snd) : Problem earlier (scope, code) (.duplicateCode code)
  | duplicateScope {scope : Scope} {code : String} (usable : Usable code)
      (fresh : code ∉ earlier.map Prod.snd) (known : scope ∈ earlier.map Prod.fst) :
      Problem earlier (scope, code) (.duplicateScope scope)

/-- No pair has a problem with those before it. -/
def Harmless (pairs : List (Scope × String)) : Prop :=
  ∀ earlier row later error, pairs = earlier ++ row :: later → ¬ Problem earlier row error

/-- The problem of the first pair that has one; if none has, the first scope without a pair. -/
inductive FirstProblem (pairs : List (Scope × String)) : CodesError → Prop
  | atPair {earlier later : List (Scope × String)} {row : Scope × String} {error : CodesError}
      (cut : pairs = earlier ++ row :: later) (before : Harmless earlier)
      (problem : Problem earlier row error) : FirstProblem pairs error
  | missingScope {before after : List Scope} {scope : Scope} (harmless : Harmless pairs)
      (declared : Coded.all = before ++ scope :: after)
      (present : ∀ s ∈ before, s ∈ pairs.map Prod.fst) (absent : scope ∉ pairs.map Prod.fst) :
      FirstProblem pairs (.missingScope scope)

/-- Pairs that make up a table. -/
structure Acceptable (pairs : List (Scope × String)) : Prop where
  once : ∀ scope, (pairs.map Prod.fst).count scope = 1
  distinct : (pairs.map Prod.snd).Nodup
  usable : ∀ row ∈ pairs, Usable row.2

variable {pairs : List (Scope × String)} {row : Scope × String} {e : CodesError}

theorem isCode_iff {code : String} : isCode code = true ↔ Usable code := by
  simp only [isCode, Bool.and_eq_true, bne_iff_ne, List.all_eq_true, Bool.not_eq_true',
    ← Bool.not_eq_true, Text.containsText_iff]
  exact ⟨fun h => ⟨h.1, h.2⟩, fun h => ⟨h.populated, h.undelimited⟩⟩

instance (code : String) : Decidable (Usable code) := decidable_of_iff _ isCode_iff

instance (pairs : List (Scope × String)) : Decidable (Acceptable pairs) :=
  decidable_of_iff
    ((∀ scope ∈ (Coded.all : List Scope), (pairs.map Prod.fst).count scope = 1) ∧
      (pairs.map Prod.snd).Nodup ∧ ∀ row ∈ pairs, Usable row.2)
    ⟨fun h => ⟨fun scope => h.1 scope (Coded.mem_all scope), h.2.1, h.2.2⟩,
      fun h => ⟨fun scope _ => h.once scope, h.distinct, h.usable⟩⟩

theorem forall_not_problem_iff :
    (∀ error, ¬ Problem pairs row error) ↔
      Usable row.2 ∧ row.2 ∉ pairs.map Prod.snd ∧ row.1 ∉ pairs.map Prod.fst := by
  constructor
  · intro none
    have usable : Usable row.2 := by
      by_contra unusable
      exact none _ (.invalidCode unusable)
    have fresh : row.2 ∉ pairs.map Prod.snd := fun known => none _ (.duplicateCode usable known)
    exact ⟨usable, fresh, fun known => none _ (.duplicateScope usable fresh known)⟩
  · rintro ⟨usable, fresh, unknown⟩ error problem
    cases problem with
    | invalidCode unusable => exact unusable usable
    | duplicateCode _ known => exact fresh known
    | duplicateScope _ _ known => exact unknown known

theorem nodup_map_concat {α β : Type} {f : α → β} {rows : List α} {last : α} :
    ((rows ++ [last]).map f).Nodup ↔ f last ∉ rows.map f ∧ (rows.map f).Nodup := by
  rw [List.map_append, List.map_singleton, ← List.concat_eq_append, List.nodup_concat]

/-- The rules that pairs without a problem obey, whatever their order. -/
theorem harmless_iff :
    Harmless pairs ↔
      (∀ row ∈ pairs, Usable row.2) ∧ (pairs.map Prod.snd).Nodup ∧ (pairs.map Prod.fst).Nodup := by
  show FreeOf Problem pairs ↔ _
  induction pairs using List.reverseRecOn with
  | nil => simp [freeOf_nil]
  | append_singleton pairs row ih =>
      rw [freeOf_concat, ih, forall_not_problem_iff, nodup_map_concat, nodup_map_concat,
        List.forall_mem_append, List.forall_mem_singleton]
      tauto

/-! ## Taking the pairs one by one -/

namespace PartialCodes

variable {t : PartialCodes}

/-- A pair is refused for its problem. -/
theorem add_eq_error_iff : t.add row = .error e ↔ Problem t.rows row e := by
  obtain ⟨scope, code⟩ := row
  constructor
  · intro refused
    unfold add at refused
    split at refused
    · rename_i hcode
      obtain rfl := Except.error.inj refused
      refine .invalidCode fun usable => ?_
      rw [isCode_iff.2 usable] at hcode
      cases hcode
    · rename_i hcode
      have usable : Usable code := isCode_iff.1 (by simpa using hcode)
      split at refused
      · rename_i known
        obtain rfl := Except.error.inj refused
        exact .duplicateCode usable known
      · rename_i fresh
        split at refused
        · rename_i known
          obtain rfl := Except.error.inj refused
          exact .duplicateScope usable fresh known
        · cases refused
  · intro problem
    cases problem with
    | invalidCode unusable =>
        have hcode : isCode code = false := by simpa [← isCode_iff] using unusable
        rw [add, dif_pos hcode]
    | duplicateCode usable known =>
        have hcode : ¬ isCode code = false := by simp [isCode_iff.2 usable]
        rw [add, dif_neg hcode, dif_pos known]
    | duplicateScope usable fresh known =>
        have hcode : ¬ isCode code = false := by simp [isCode_iff.2 usable]
        rw [add, dif_neg hcode, dif_neg fresh, dif_pos known]

/-- The pairs are taken one by one, and the rows are those taken so far. -/
theorem taking : Taking add empty (fun t pairs => t.rows = pairs) Problem where
  start := rfl
  takes taken added := by rw [rows_of_add added, taken]
  refuses := by
    rintro t _ row e rfl
    exact add_eq_error_iff

theorem rows_of_foldlM_empty {u : PartialCodes} (added : pairs.foldlM add empty = .ok u) :
    u.rows = pairs := taking.taken_of_run added

theorem exists_foldlM_iff : (∃ u, pairs.foldlM add empty = .ok u) ↔ Harmless pairs :=
  taking.exists_run_iff

/-- Pairs are refused for the problem of the first of them that has one. -/
theorem foldlM_eq_error_iff :
    pairs.foldlM add empty = .error e ↔ ∃ earlier row later,
      pairs = earlier ++ row :: later ∧ Harmless earlier ∧ Problem earlier row e :=
  taking.run_eq_error_iff

theorem missing?_eq_some_iff {scope : Scope} :
    t.missing? = some scope ↔ scope ∉ t.rows.map Prod.fst ∧
      ∃ before after, Coded.all = before ++ scope :: after ∧
        ∀ s ∈ before, s ∈ t.rows.map Prod.fst := by
  rw [missing?, List.find?_eq_some_iff_append]
  simp only [Bool.not_eq_true', List.contains_eq_mem, decide_eq_false_iff_not, Bool.not_not,
    decide_eq_true_eq]

end PartialCodes

/-! ## Tables -/

namespace Codes

/-- Either a pair is refused, or a scope is missing, or the pairs make up a table. -/
theorem ofPairs_cases (pairs : List (Scope × String)) :
    (∃ error, pairs.foldlM PartialCodes.add PartialCodes.empty = .error error ∧
      ofPairs pairs = .error error) ∨
    (∃ u scope, pairs.foldlM PartialCodes.add PartialCodes.empty = .ok u ∧
      u.missing? = some scope ∧ ofPairs pairs = .error (.missingScope scope)) ∨
    ∃ t : Codes, pairs.foldlM PartialCodes.add PartialCodes.empty = .ok t.toPartialCodes ∧
      t.missing? = none ∧ ofPairs pairs = .ok t := by
  cases added : pairs.foldlM PartialCodes.add PartialCodes.empty with
  | error error =>
      refine .inl ⟨error, rfl, ?_⟩
      rw [ofPairs, added]
      rfl
  | ok u =>
      right
      simp only [ofPairs, added, bind, Except.bind]
      split
      · rename_i scope missing
        exact .inl ⟨u, scope, rfl, missing, rfl⟩
      · rename_i complete
        exact .inr ⟨_, rfl, complete, rfl⟩

/-- **Other pairs are refused with the first problem among them.** -/
theorem ofPairs_eq_error_iff : ofPairs pairs = .error e ↔ FirstProblem pairs e := by
  constructor
  · intro refused
    rcases ofPairs_cases pairs with ⟨error, added, result⟩ | ⟨u, scope, added, missing, result⟩ |
      ⟨t, -, -, result⟩
    · obtain rfl := Except.error.inj (result.symm.trans refused)
      obtain ⟨earlier, row, later, cut, before, problem⟩ := PartialCodes.foldlM_eq_error_iff.1 added
      exact .atPair cut before problem
    · obtain rfl := Except.error.inj (result.symm.trans refused)
      obtain ⟨absent, before, after, declared, present⟩ :=
        PartialCodes.missing?_eq_some_iff.1 missing
      rw [PartialCodes.rows_of_foldlM_empty added] at absent present
      exact .missingScope (PartialCodes.exists_foldlM_iff.1 ⟨u, added⟩) declared present absent
    · rw [result] at refused
      cases refused
  · intro problem
    cases problem with
    | atPair cut before problem =>
        have added := PartialCodes.foldlM_eq_error_iff.2 ⟨_, _, _, cut, before, problem⟩
        rw [ofPairs, added]
        rfl
    | missingScope harmless declared present absent =>
        obtain ⟨u, added⟩ := PartialCodes.exists_foldlM_iff.2 harmless
        have hrows := PartialCodes.rows_of_foldlM_empty added
        rcases ofPairs_cases pairs with ⟨error, refused, -⟩ | ⟨v, other, again, missing, result⟩ |
          ⟨t, again, -, -⟩
        · rw [added] at refused
          cases refused
        · obtain rfl := Except.ok.inj (added.symm.trans again)
          have first := PartialCodes.missing?_eq_some_iff.2
            ⟨hrows.symm ▸ absent, _, _, declared, hrows.symm ▸ present⟩
          rw [result, Option.some.inj (first.symm.trans missing)]
        · obtain rfl := Except.ok.inj (added.symm.trans again)
          exact absurd (t.complete _) (hrows.symm ▸ absent)

theorem acceptable_rows (t : Codes) : Acceptable t.rows where
  once scope := List.count_eq_one_of_mem t.scopes_nodup (t.complete scope)
  distinct := t.codes_nodup
  usable row member := isCode_iff.1 (t.valid row member)

/-- **The pairs that make up a table** are those that obey the rules. -/
theorem exists_ofPairs_iff : (∃ t, ofPairs pairs = .ok t) ↔ Acceptable pairs := by
  constructor
  · rintro ⟨t, accepted⟩
    rw [← rows_of_ofPairs accepted]
    exact t.acceptable_rows
  · intro acceptable
    have harmless : Harmless pairs := harmless_iff.2
      ⟨acceptable.usable, acceptable.distinct,
        List.nodup_iff_count_le_one.2 fun scope => Nat.le_of_eq (acceptable.once scope)⟩
    cases result : ofPairs pairs with
    | ok t => exact ⟨t, rfl⟩
    | error e =>
        exfalso
        cases ofPairs_eq_error_iff.1 result with
        | atPair cut _ problem => exact harmless _ _ _ _ cut problem
        | missingScope _ _ _ absent =>
            exact absent (List.count_pos_iff.1 (by rw [acceptable.once]; exact Nat.one_pos))

/-- A table is the one of its rows. -/
theorem ofPairs_rows (t : Codes) : ofPairs t.rows = .ok t := by
  obtain ⟨u, accepted⟩ := exists_ofPairs_iff.2 t.acceptable_rows
  obtain ⟨⟨rows, _, _, _⟩, _⟩ := t
  obtain ⟨⟨others, _, _, _⟩, _⟩ := u
  obtain rfl : others = rows := rows_of_ofPairs accepted
  exact accepted

end Codes

/-! ## Two maps -/

/-- A map from scopes and a map from codes. -/
structure Maps where
  toCode : Scope → Option String
  toScope : String → Option Scope

namespace Maps

def empty : Maps := ⟨fun _ => none, fun _ => none⟩

/-- Both maps with the pair, in the place of what they had there. -/
def put (m : Maps) (row : Scope × String) : Maps :=
  ⟨Function.update m.toCode row.1 (some row.2), Function.update m.toScope row.2 (some row.1)⟩

/-- Both maps with the pair, unless its code may not be one or something was in its place. -/
def insert (m : Maps) (row : Scope × String) : Except CodesError Maps :=
  if isCode row.2 = false then .error (.invalidCode row.2 row.1)
  else
    let half := { m with toScope := Function.update m.toScope row.2 (some row.1) }
    if (m.toScope row.2).isSome then .error (.duplicateCode row.2)
    else
      let whole := { half with toCode := Function.update half.toCode row.1 (some row.2) }
      if (half.toCode row.1).isSome then .error (.duplicateScope row.1)
      else .ok whole

/-- The maps, unless a scope is missing in them. -/
def checked (m : Maps) : Except CodesError Maps :=
  match (Coded.all : List Scope).find? fun scope => (m.toCode scope).isNone with
  | some scope => .error (.missingScope scope)
  | none => .ok m

/-- The maps of the pairs, or the first refusal. -/
def ofPairs (pairs : List (Scope × String)) : Except CodesError Maps :=
  pairs.foldlM insert empty >>= checked

/-- All pairs, put in without a check. -/
def collect (pairs : List (Scope × String)) : Maps := pairs.foldl put empty

/-- The code of a scope; one that the maps do not hold has the code of its own. -/
def code (m : Maps) (scope : Scope) : String := (m.toCode scope).getD (Coded.code scope)

theorem put_of_insert {m n : Maps} (inserted : m.insert row = .ok n) : n = m.put row := by
  simp only [insert] at inserted
  split_ifs at inserted
  exact (Except.ok.inj inserted).symm

/-- Where no pair is refused the checks change nothing. -/
theorem foldl_of_foldlM_insert {m n : Maps} (inserted : pairs.foldlM insert m = .ok n) :
    n = pairs.foldl put m := by
  induction pairs generalizing m with
  | nil => exact (Except.ok.inj inserted).symm
  | cons row rest ih =>
      rw [List.foldlM_cons] at inserted
      cases first : m.insert row with
      | error refusal =>
          rw [first] at inserted
          cases inserted
      | ok next =>
          rw [first] at inserted
          rw [List.foldl_cons, ← put_of_insert first]
          exact ih inserted

end Maps

/-- What a table gives for each key. -/
def PartialCodes.maps (t : PartialCodes) : Maps where
  toCode scope := (Keyed.lookup Prod.fst scope t.rows).map Prod.snd
  toScope code := (Keyed.lookup Prod.snd code t.rows).map Prod.fst

/-- A row with a new key is found under it, and every other row where it was found before. -/
theorem map_lookup_concat {α β γ : Type} [DecidableEq β] {key : α → β} {rows : List α} {last : α}
    (fresh : key last ∉ rows.map key) (read : α → γ) :
    (fun k => (Keyed.lookup key k (rows ++ [last])).map read) =
      Function.update (fun k => (Keyed.lookup key k rows).map read) (key last)
        (some (read last)) := by
  funext k
  rw [Keyed.lookup, List.find?_append, ← Keyed.lookup]
  by_cases here : k = key last
  · subst here
    rw [Keyed.lookup_eq_none_iff.2 fresh, Function.update_self]
    simp
  · rw [Function.update_of_ne here]
    simp [Ne.symm here]

namespace PartialCodes

variable {t u : PartialCodes}

theorem isSome_toCode_iff {scope : Scope} :
    (t.maps.toCode scope).isSome = true ↔ scope ∈ t.rows.map Prod.fst := by
  rw [maps, Option.isSome_map, Option.isSome_iff_ne_none, Ne, Keyed.lookup_eq_none_iff, not_not]

theorem find?_isNone_eq_missing? (t : PartialCodes) :
    ((Coded.all : List Scope).find? fun scope => (t.maps.toCode scope).isNone) = t.missing? := by
  have same : ∀ scope,
      (t.maps.toCode scope).isNone = !(t.rows.map Prod.fst).contains scope := by
    intro scope
    rw [← Option.not_isSome, Bool.eq_iff_iff]
    simp only [Bool.not_eq_true', Bool.eq_false_iff, Ne, isSome_toCode_iff, List.contains_iff_mem]
  simp only [missing?, same]

theorem checked_maps (t : PartialCodes) :
    t.maps.checked = match t.missing? with
      | some scope => .error (.missingScope scope)
      | none => .ok t.maps := by
  rw [Maps.checked, find?_isNone_eq_missing?]

theorem isSome_toScope_iff {code : String} :
    (t.maps.toScope code).isSome = true ↔ code ∈ t.rows.map Prod.snd := by
  rw [maps, Option.isSome_map, Option.isSome_iff_ne_none, Ne, Keyed.lookup_eq_none_iff, not_not]

theorem maps_of_rows (hrows : u.rows = t.rows ++ [row]) : u.maps = t.maps.put row := by
  have hcodes := u.codes_nodup
  have hscopes := u.scopes_nodup
  rw [hrows, nodup_map_concat] at hcodes hscopes
  simp only [maps, Maps.put, hrows, map_lookup_concat hcodes.1, map_lookup_concat hscopes.1]

/-- One more pair is refused by both, or goes into both. -/
theorem maps_add (t : PartialCodes) (row : Scope × String) :
    (t.add row).map maps = t.maps.insert row := by
  unfold add Maps.insert
  simp only [isSome_toCode_iff, isSome_toScope_iff]
  split_ifs
  · rfl
  · rfl
  · rfl
  · exact congrArg Except.ok (maps_of_rows rfl)

theorem maps_foldlM (t : PartialCodes) (pairs : List (Scope × String)) :
    (pairs.foldlM add t).map maps = pairs.foldlM Maps.insert t.maps := by
  induction pairs generalizing t with
  | nil => rfl
  | cons row rest ih =>
      rw [List.foldlM_cons, List.foldlM_cons, ← maps_add]
      cases t.add row with
      | error refusal => rfl
      | ok next => exact ih next

end PartialCodes

/-- **A table and two maps are made of the same pairs**, and others are refused for the same
reason. -/
theorem maps_ofPairs (pairs : List (Scope × String)) :
    Maps.ofPairs pairs = (Codes.ofPairs pairs).map fun t => t.maps := by
  have hmaps := PartialCodes.maps_foldlM PartialCodes.empty pairs
  have hempty : PartialCodes.empty.maps = Maps.empty := rfl
  rw [Maps.ofPairs, ← hempty, ← hmaps]
  rcases Codes.ofPairs_cases pairs with ⟨error, added, result⟩ |
    ⟨u, scope, added, missing, result⟩ | ⟨t, added, complete, result⟩
  · rw [added, result]
    rfl
  · rw [added, result]
    show u.maps.checked = .error (.missingScope scope)
    rw [PartialCodes.checked_maps, missing]
  · rw [added, result]
    show t.maps.checked = .ok t.maps
    rw [PartialCodes.checked_maps, complete]

/-- The table gives each scope the code of its pair, and each code its scope back.  As two maps it
holds every pair, and it holds a code for every scope. -/
structure Codes.Describes (t : Codes) (pairs : List (Scope × String)) : Prop where
  given : ∀ scope code, t.code scope = code ↔ (scope, code) ∈ pairs
  inverse : ∀ scope code, t.scope? code = some scope ↔ t.code scope = code
  collected : t.maps = Maps.collect pairs
  held : ∀ scope, t.maps.toCode scope = some (t.code scope)
  found : ∀ code, t.maps.toScope code = t.scope? code

theorem Codes.maps_eq_collect (t : Codes) : t.maps = Maps.collect t.rows := by
  rcases ofPairs_cases t.rows with ⟨error, -, result⟩ | ⟨u, scope, -, -, result⟩ |
    ⟨u, added, -, result⟩
  · rw [t.ofPairs_rows] at result
    cases result
  · rw [t.ofPairs_rows] at result
    cases result
  · obtain rfl := Except.ok.inj (t.ofPairs_rows.symm.trans result)
    have hmaps := PartialCodes.maps_foldlM PartialCodes.empty t.rows
    rw [added] at hmaps
    exact Maps.foldl_of_foldlM_insert hmaps.symm

theorem Codes.describes_rows (t : Codes) : t.Describes t.rows where
  given _ _ := code_eq_iff
  inverse _ _ := scope?_eq_some_iff
  collected := t.maps_eq_collect
  held scope := by
    have found := PartialCodes.isSome_toCode_iff.2 (t.complete scope)
    obtain ⟨code, hcode⟩ := Option.isSome_iff_exists.1 found
    have reads : t.code scope = t.maps.code scope := rfl
    rw [reads, Maps.code, hcode]
    rfl
  found _ := rfl

/-- **The pairs accepted are the tables in which code and scope determine each other.**  All other
pairs are refused with the first problem among them.  Two maps filled side by side accept the same
pairs and then hold them all, so the code that a scope has of its own never stands in for one that
is missing, and this is also true of the standard table. -/
theorem Codes.ofPairs_accepts_bijective (pairs : List (Scope × String)) :
    ((∃ t, ofPairs pairs = .ok t) ↔ Acceptable pairs) ∧
    (∀ e, ofPairs pairs = .error e ↔ FirstProblem pairs e) ∧
    (Maps.ofPairs pairs = (ofPairs pairs).map fun t => t.maps) ∧
    (∀ t, ofPairs pairs = .ok t → t.Describes pairs) ∧
    standard.Describes (Coded.all.map fun scope => (scope, Coded.code scope)) := by
  refine ⟨exists_ofPairs_iff, fun e => ofPairs_eq_error_iff, maps_ofPairs pairs, ?_,
    standard.describes_rows⟩
  intro t accepted
  have described := t.describes_rows
  rwa [rows_of_ofPairs accepted] at described

namespace Example

/-- Three codes, given in another order than the scopes have. -/
def accepted : List (Scope × String) := [(.broad, "1"), (.narrow, "ü;"), (.normal, "n")]

/-- A code that comes again, in front of a text that is none. -/
def refused : List (Scope × String) := [(.narrow, "1"), (.broad, "1"), (.normal, "a=b")]

end Example

theorem Codes.ofPairs_accepts_bijective_of_example :
    (∃ t, ofPairs Example.accepted = .ok t ∧ t.code .narrow = "ü;" ∧ t.scope? "n" = some .normal) ∧
      ofPairs Example.refused = .error (.duplicateCode "1") := by
  constructor
  · have table := ofPairs_accepts_bijective Example.accepted
    obtain ⟨t, accepted⟩ := table.1.2 (by decide)
    have described := table.2.2.2.1 t accepted
    exact ⟨t, accepted, (described.given .narrow "ü;").2 (by decide),
      (described.inverse .normal "n").2 ((described.given .normal "n").2 (by decide))⟩
  · have cut : Example.refused = [(.narrow, "1")] ++ (.broad, "1") :: [(.normal, "a=b")] := rfl
    have before : Harmless [(.narrow, "1")] := harmless_iff.2 (by decide)
    exact ((ofPairs_accepts_bijective Example.refused).2.1 _).2
      (.atPair cut before (.duplicateCode (by decide) (by decide)))

end FacetedSearch.Scope
