/-
# FacetedSearch.Scope.Codes -- the scope codes of a link format

A link marks the scope of an entry by a code.  A table of codes holds each scope once, its codes are
distinct, and no code is empty or holds one of the texts that delimit entries and parameters
(`Codes`).  So code and scope determine each other (`scope?_eq_some_iff`).  `Codes.ofPairs` builds a
table from pairs taken in order and refuses at the first pair that breaks a rule: its code, then the
code's uniqueness, then the scope's; a scope left without a code is refused last.
-/
import FacetedSearch.Keyed
import FacetedSearch.Scope.Basic
import FacetedSearch.Text.Pieces

namespace FacetedSearch.Scope

set_option autoImplicit false

/-- Texts that no code may hold. -/
def delimiters : List String := ["#", ";;", "&", "="]

/-- A text that may stand for a scope in a link. -/
def isCode (code : String) : Bool :=
  code != "" && delimiters.all fun d => !Text.containsText d.toList code.toList

/-- Why pairs give no table. -/
inductive CodesError
  /-- The text may not be a code. -/
  | invalidCode (code : String) (scope : Scope)
  /-- Two pairs have the code. -/
  | duplicateCode (code : String)
  /-- Two pairs have the scope. -/
  | duplicateScope (scope : Scope)
  /-- No pair has the scope. -/
  | missingScope (scope : Scope)
  deriving DecidableEq

/-- The wording of each refusal. -/
def CodesError.message : CodesError → String
  | invalidCode code scope =>
    "Invalid scope codes: invalid code '" ++ code ++ "' for " ++ scope.name
  | duplicateCode code => "Invalid scope codes: duplicate code '" ++ code ++ "'"
  | duplicateScope scope => "Invalid scope codes: duplicate scope " ++ scope.name
  | missingScope scope => "Invalid scope codes: missing code for " ++ scope.name

/-- Some scopes with their codes. -/
structure PartialCodes where
  /-- Each scope with its code. -/
  rows : List (Scope × String)
  /-- Every code may be one. -/
  valid : ∀ row ∈ rows, isCode row.2 = true
  /-- No two rows have one code. -/
  codes_nodup : (rows.map Prod.snd).Nodup
  /-- No two rows have one scope. -/
  scopes_nodup : (rows.map Prod.fst).Nodup

/-- Every scope with its code. -/
structure Codes extends PartialCodes where
  /-- No scope is left out. -/
  complete : ∀ scope, scope ∈ rows.map Prod.fst

namespace PartialCodes

/-- No scope has a code. -/
def empty : PartialCodes := ⟨[], by simp, by simp, by simp⟩

/-- One more row, unless it breaks a rule. -/
def add (t : PartialCodes) (row : Scope × String) : Except CodesError PartialCodes :=
  if hvalid : isCode row.2 = false then .error (.invalidCode row.2 row.1)
  else if hcode : row.2 ∈ t.rows.map Prod.snd then .error (.duplicateCode row.2)
  else if hscope : row.1 ∈ t.rows.map Prod.fst then .error (.duplicateScope row.1)
  else .ok
    { rows := t.rows ++ [row]
      valid := by
        intro r hr
        rcases List.mem_append.1 hr with hr | hr
        · exact t.valid r hr
        · rw [List.mem_singleton.1 hr]
          simpa using hvalid
      codes_nodup := by
        rw [List.map_append, List.nodup_append]
        refine ⟨t.codes_nodup, by simp, ?_⟩
        rintro a ha b hb rfl
        simp only [List.map_cons, List.map_nil, List.mem_singleton] at hb
        exact hcode (hb ▸ ha)
      scopes_nodup := by
        rw [List.map_append, List.nodup_append]
        refine ⟨t.scopes_nodup, by simp, ?_⟩
        rintro a ha b hb rfl
        simp only [List.map_cons, List.map_nil, List.mem_singleton] at hb
        exact hscope (hb ▸ ha) }

/-- The first scope without a code. -/
def missing? (t : PartialCodes) : Option Scope :=
  (Coded.all : List Scope).find? fun scope => !(t.rows.map Prod.fst).contains scope

theorem rows_of_add {t u : PartialCodes} {row : Scope × String} (added : t.add row = .ok u) :
    u.rows = t.rows ++ [row] := by
  unfold add at added
  split at added
  · cases added
  · split at added
    · cases added
    · split at added
      · cases added
      · rw [← Except.ok.inj added]

theorem rows_of_foldlM_add {t u : PartialCodes} {pairs : List (Scope × String)}
    (added : pairs.foldlM add t = .ok u) : u.rows = t.rows ++ pairs := by
  induction pairs generalizing t with
  | nil => simp [← Except.ok.inj added]
  | cons row rest ih =>
    rw [List.foldlM_cons] at added
    cases first : t.add row with
    | error refusal => simp [first, bind, Except.bind] at added
    | ok next =>
      rw [first] at added
      rw [ih added, rows_of_add first, List.append_assoc, List.singleton_append]

end PartialCodes

namespace Codes

/-- The table of the pairs, or the first refusal. -/
def ofPairs (pairs : List (Scope × String)) : Except CodesError Codes := do
  let t ← pairs.foldlM PartialCodes.add PartialCodes.empty
  match h : t.missing? with
  | some scope => .error (.missingScope scope)
  | none =>
    .ok
      { t with
        complete := by
          intro scope
          have hall := List.find?_eq_none.1 h scope (Coded.mem_all scope)
          simpa using hall }

/-- Each scope with the code of its own. -/
def standard : Codes where
  rows := (Coded.all : List Scope).map fun scope => (scope, Coded.code scope)
  valid := by decide
  codes_nodup := by decide
  scopes_nodup := by decide
  complete := by intro scope; cases scope <;> decide

/-- A table has the pairs that it was made of. -/
theorem rows_of_ofPairs {pairs : List (Scope × String)} {t : Codes}
    (accepted : ofPairs pairs = .ok t) : t.rows = pairs := by
  simp only [ofPairs] at accepted
  cases added : pairs.foldlM PartialCodes.add PartialCodes.empty with
  | error refusal => simp [added, bind, Except.bind] at accepted
  | ok u =>
    simp only [added, bind, Except.bind] at accepted
    split at accepted
    · cases accepted
    · rw [← Except.ok.inj accepted]
      exact PartialCodes.rows_of_foldlM_add added

def code (t : Codes) (scope : Scope) : String :=
  ((Keyed.lookup Prod.fst scope t.rows).map Prod.snd).getD (Coded.code scope)

def scope? (t : Codes) (code : String) : Option Scope :=
  (Keyed.lookup Prod.snd code t.rows).map Prod.fst

theorem code_eq_iff {t : Codes} {scope : Scope} {code : String} :
    t.code scope = code ↔ (scope, code) ∈ t.rows := by
  obtain ⟨row, hrow, hscope⟩ := List.mem_map.1 (t.complete scope)
  have hlookup : Keyed.lookup Prod.fst scope t.rows = some row :=
    (Keyed.lookup_eq_some_iff t.scopes_nodup).2 ⟨hrow, hscope⟩
  have hcode : t.code scope = row.2 := by simp [Codes.code, hlookup]
  rw [hcode]
  constructor
  · rintro rfl
    rwa [← hscope]
  · intro hmem
    have hother := (Keyed.lookup_eq_some_iff t.scopes_nodup).2 ⟨hmem, rfl⟩
    rw [hlookup] at hother
    rw [Option.some.inj hother]

/-- Code and scope determine each other. -/
theorem scope?_eq_some_iff {t : Codes} {scope : Scope} {code : String} :
    t.scope? code = some scope ↔ t.code scope = code := by
  rw [code_eq_iff, scope?, Option.map_eq_some_iff]
  constructor
  · rintro ⟨row, hrow, rfl⟩
    obtain ⟨hmem, rfl⟩ := Keyed.mem_of_lookup hrow
    exact hmem
  · intro hmem
    exact ⟨(scope, code), (Keyed.lookup_eq_some_iff t.codes_nodup).2 ⟨hmem, rfl⟩, rfl⟩

theorem isCode_code (t : Codes) (scope : Scope) : isCode (t.code scope) = true :=
  t.valid _ (code_eq_iff.1 rfl)

theorem not_infix_code (t : Codes) (scope : Scope) {d : String} (h : d ∈ delimiters) :
    ¬ d.toList <:+: (t.code scope).toList := by
  have hcode := t.isCode_code scope
  simp only [isCode, Bool.and_eq_true, List.all_eq_true] at hcode
  rw [← Text.containsText_iff]
  simpa using hcode.2 d h

/-- No code holds the character that stands before it. -/
theorem hash_notMem_code (t : Codes) (scope : Scope) : '#' ∉ (t.code scope).toList := by
  intro hmem
  obtain ⟨before, after, heq⟩ := List.append_of_mem hmem
  exact t.not_infix_code scope (d := "#") (by decide) ⟨before, after, by simp [heq]⟩

end Codes

end FacetedSearch.Scope
