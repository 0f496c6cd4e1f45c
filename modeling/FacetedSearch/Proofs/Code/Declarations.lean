/-
# FacetedSearch.Proofs.Code.Declarations -- which declarations give a table

The rules for declared variants know no order (`Acceptable`): none carries fields, every code may be
one and stands once, and at most one variant is the default.  Variants are taken one by one, and a
variant is only held against those before it (`Offence`), so declarations are refused for the first
offence among them (`Table.ofDeclarations_eq_error_iff`).

Declarations that obey the rules give the table that has them all (`Table.collect`).  A code is read
by the first row that has it; since codes are distinct, that is the row of its variant
(`Table.ofCode?_collect`).
-/
import FacetedSearch.Code.Declaration
import FacetedSearch.Keyed
import FacetedSearch.Proofs.Runs
import FacetedSearch.Scope.Basic
import Mathlib.Data.List.Nodup
import Mathlib.Tactic.MkIffOfInductiveProp

namespace FacetedSearch.Code

set_option autoImplicit false

/-! ## Offences -/

/-- What is wrong with a variant behind the earlier ones; of several offences the first counts. -/
inductive Offence (earlier : List Declaration) (d : Declaration) : DeclarationError → Prop
  | fields (carries : d.hasFields = true) : Offence earlier d .fields
  | emptyCode (plain : d.hasFields = false) (empty : d.code = "") :
      Offence earlier d (.emptyCode d.name)
  | duplicateCode (plain : d.hasFields = false) (populated : d.code ≠ "")
      (known : ∃ other ∈ earlier, other.code = d.code) : Offence earlier d (.duplicateCode d.code)
  | secondDefault (plain : d.hasFields = false) (populated : d.code ≠ "")
      (fresh : ∀ other ∈ earlier, other.code ≠ d.code) (marked : d.isDefault = true)
      (another : ∃ other ∈ earlier, other.isDefault = true) : Offence earlier d .secondDefault

/-- Variants that make up a table. -/
@[mk_iff]
structure Acceptable (ds : List Declaration) : Prop where
  plain : ∀ d ∈ ds, d.hasFields = false
  populated : ∀ d ∈ ds, d.code ≠ ""
  distinct : (ds.map Declaration.code).Nodup
  oneDefault : ds.countP Declaration.isDefault ≤ 1

variable {ds : List Declaration} {d : Declaration} {e : DeclarationError}

instance (ds : List Declaration) : Decidable (Acceptable ds) :=
  decidable_of_iff' _ (acceptable_iff ds)

theorem forall_not_offence_iff :
    (∀ e, ¬Offence ds d e) ↔
      d.hasFields = false ∧ d.code ≠ "" ∧ (∀ other ∈ ds, other.code ≠ d.code) ∧
        (d.isDefault = true → ∀ other ∈ ds, other.isDefault = false) := by
  constructor
  · intro none
    have plain : d.hasFields = false := by
      by_contra carries
      exact none _ (.fields (by simpa using carries))
    have populated : d.code ≠ "" := fun empty => none _ (.emptyCode plain empty)
    have fresh : ∀ other ∈ ds, other.code ≠ d.code := fun other member same =>
      none _ (.duplicateCode plain populated ⟨other, member, same⟩)
    refine ⟨plain, populated, fresh, fun marked other member => ?_⟩
    by_contra another
    exact none _
      (.secondDefault plain populated fresh marked ⟨other, member, by simpa using another⟩)
  · rintro ⟨plain, populated, fresh, single⟩ e offence
    cases offence with
    | fields carries => rw [plain] at carries; cases carries
    | emptyCode _ empty => exact populated empty
    | duplicateCode _ _ known =>
        obtain ⟨other, member, same⟩ := known
        exact fresh other member same
    | secondDefault _ _ _ marked another =>
        obtain ⟨other, member, also⟩ := another
        rw [single marked other member] at also
        cases also

theorem countP_isDefault_concat_le_one_iff :
    (ds ++ [d]).countP Declaration.isDefault ≤ 1 ↔ ds.countP Declaration.isDefault ≤ 1 ∧
      (d.isDefault = true → ∀ other ∈ ds, other.isDefault = false) := by
  rw [List.countP_append, List.countP_singleton]
  cases d.isDefault with
  | false => simp
  | true =>
      have none : ds.countP Declaration.isDefault = 0 ↔ ∀ other ∈ ds, other.isDefault = false := by
        simp [List.countP_eq_zero]
      simp only [if_true, true_imp_iff, ← none]
      omega

/-- No variant offends if and only if all of them obey the rules. -/
theorem freeOf_offence_iff : FreeOf Offence ds ↔ Acceptable ds := by
  induction ds using List.reverseRecOn with
  | nil => simp [freeOf_nil, acceptable_iff]
  | append_singleton ds d ih =>
      have distinct : ((ds ++ [d]).map Declaration.code).Nodup ↔
          (ds.map Declaration.code).Nodup ∧ ∀ other ∈ ds, other.code ≠ d.code := by
        rw [List.map_append, List.map_singleton, ← List.concat_eq_append, List.nodup_concat,
          List.mem_map]
        push Not
        exact And.comm
      rw [freeOf_concat, ih, forall_not_offence_iff, acceptable_iff, acceptable_iff, distinct,
        countP_isDefault_concat_le_one_iff, List.forall_mem_append, List.forall_mem_append,
        List.forall_mem_singleton, List.forall_mem_singleton]
      tauto

namespace Table

variable {t u : Table}

/-- The table that has all the variants. -/
def collect (ds : List Declaration) : Table where
  rows := ds.map fun d => (d.name, d.code)
  default? := (ds.find? Declaration.isDefault).map Declaration.name

theorem codes_collect (ds : List Declaration) : (collect ds).codes = ds.map Declaration.code := by
  rw [codes, collect, List.map_map]
  rfl

theorem mem_codes_collect_iff {code : String} :
    code ∈ (collect ds).codes ↔ ∃ d ∈ ds, d.code = code := by
  rw [codes_collect, List.mem_map]

theorem isSome_default?_collect_iff :
    (collect ds).default?.isSome = true ↔ ∃ d ∈ ds, d.isDefault = true := by
  rw [collect, Option.isSome_map, List.find?_isSome]

/-- A variant is refused for its offence. -/
theorem add_collect_eq_error_iff : (collect ds).add d = .error e ↔ Offence ds d e := by
  constructor
  · intro refused
    unfold add at refused
    split at refused
    · rename_i carries
      obtain rfl := Except.error.inj refused
      exact .fields carries
    · rename_i plain
      have plain : d.hasFields = false := by simpa using plain
      split at refused
      · rename_i empty
        obtain rfl := Except.error.inj refused
        exact .emptyCode plain empty
      · rename_i populated
        split at refused
        · rename_i known
          obtain rfl := Except.error.inj refused
          exact .duplicateCode plain populated (mem_codes_collect_iff.1 known)
        · rename_i fresh
          have fresh : ∀ other ∈ ds, other.code ≠ d.code := fun other member same =>
            fresh (mem_codes_collect_iff.2 ⟨other, member, same⟩)
          split at refused
          · rename_i second
            obtain ⟨marked, another⟩ := Bool.and_eq_true_iff.1 second
            obtain rfl := Except.error.inj refused
            exact .secondDefault plain populated fresh marked
              (isSome_default?_collect_iff.1 another)
          · cases refused
  · intro offence
    cases offence with
    | fields carries => rw [add, if_pos carries]
    | emptyCode plain empty => rw [add, if_neg (by simp [plain]), if_pos empty]
    | duplicateCode plain populated known =>
        rw [add, if_neg (by simp [plain]), if_neg populated,
          if_pos (mem_codes_collect_iff.2 known)]
    | secondDefault plain populated fresh marked another =>
        have fresh : d.code ∉ (collect ds).codes := fun known =>
          have ⟨other, member, same⟩ := mem_codes_collect_iff.1 known
          fresh other member same
        have second : (d.isDefault && (collect ds).default?.isSome) = true :=
          Bool.and_eq_true_iff.2 ⟨marked, isSome_default?_collect_iff.2 another⟩
        rw [add, if_neg (by simp [plain]), if_neg populated, if_neg fresh, if_pos second]

theorem collect_concat (ds : List Declaration) (d : Declaration) :
    collect (ds ++ [d]) =
      { rows := (collect ds).rows ++ [(d.name, d.code)]
        default? := (collect ds).default?.or (if d.isDefault then some d.name else none) } := by
  have last : ([d].find? Declaration.isDefault).map Declaration.name =
      if d.isDefault then some d.name else none := by
    cases marked : d.isDefault <;> simp [marked]
  simp only [collect, List.map_append, List.map_singleton, List.find?_append, Option.map_or, last]

theorem eq_collect_of_add (added : (collect ds).add d = .ok u) : u = collect (ds ++ [d]) := by
  simp only [add] at added
  split_ifs at added with _ _ _ second marked
  · have first : (collect ds).default? = none := by simpa [marked] using second
    rw [← Except.ok.inj added, collect_concat, first, if_pos marked, Option.none_or]
  · rw [← Except.ok.inj added, collect_concat, if_neg marked, Option.or_none]

theorem taking : Taking add {} (fun t ds => t = collect ds) Offence where
  start := rfl
  takes := by
    rintro _ ds d u rfl added
    exact eq_collect_of_add added
  refuses := by
    rintro _ ds d e rfl
    exact add_collect_eq_error_iff

/-- **Other declarations are refused with the first offence among them.** -/
theorem ofDeclarations_eq_error_iff : ofDeclarations ds = .error e ↔ FirstOf Offence ds e :=
  taking.run_eq_error_iff

/-- **The declarations that give a table** are those that obey the rules, and it has them all. -/
theorem ofDeclarations_eq_ok_iff : ofDeclarations ds = .ok t ↔ Acceptable ds ∧ t = collect ds := by
  rw [← freeOf_offence_iff, ← taking.exists_run_iff]
  constructor
  · intro accepted
    exact ⟨⟨t, accepted⟩, taking.taken_of_run accepted⟩
  · rintro ⟨⟨u, accepted⟩, rfl⟩
    exact taking.taken_of_run accepted ▸ accepted

/-! ## The table -/

/-- With distinct codes, a code is read as the variant that has it. -/
theorem ofCode?_collect (distinct : (ds.map Declaration.code).Nodup) {code name : String} :
    (collect ds).ofCode? code = some name ↔ ∃ d ∈ ds, d.name = name ∧ d.code = code := by
  have codes : ((collect ds).rows.map Prod.snd).Nodup := by
    rw [← codes, codes_collect]
    exact distinct
  rw [ofCode?, Option.map_eq_some_iff]
  constructor
  · rintro ⟨row, found, rfl⟩
    obtain ⟨member, rfl⟩ := Keyed.mem_of_lookup found
    obtain ⟨d, hd, rfl⟩ := List.mem_map.1 member
    exact ⟨d, hd, rfl, rfl⟩
  · rintro ⟨d, member, rfl, rfl⟩
    have row : (d.name, d.code) ∈ (collect ds).rows := List.mem_map.2 ⟨d, member, rfl⟩
    exact ⟨_, (Keyed.lookup_eq_some_iff codes).2 ⟨row, rfl⟩, rfl⟩

/-- The default is the variant that is marked, as only one is. -/
theorem default?_collect (oneDefault : ds.countP Declaration.isDefault ≤ 1) {name : String} :
    (collect ds).default? = some name ↔ ∃ d ∈ ds, d.isDefault = true ∧ d.name = name := by
  rw [collect, Option.map_eq_some_iff]
  constructor
  · rintro ⟨d, found, rfl⟩
    exact ⟨d, List.mem_of_find?_eq_some found, List.find?_some found, rfl⟩
  · rintro ⟨d, member, marked, rfl⟩
    refine ⟨d, ?_, rfl⟩
    obtain ⟨before, after, cut⟩ := List.append_of_mem (List.mem_filter.2 ⟨member, marked⟩)
    rw [List.countP_eq_length_filter, cut, List.length_append, List.length_cons] at oneDefault
    obtain rfl : before = [] := List.length_eq_zero_iff.1 (by omega)
    rw [← List.head?_filter, cut]
    rfl

/-- The table has the variants in their order with their codes, the variant marked as the default
and no other, and reads each code as its variant. -/
structure Describes (t : Table) (ds : List Declaration) : Prop where
  rows : t.rows = ds.map fun d => (d.name, d.code)
  default : ∀ name, t.default? = some name ↔ ∃ d ∈ ds, d.isDefault = true ∧ d.name = name
  noDefault : t.default? = none ↔ ∀ d ∈ ds, d.isDefault = false
  read : ∀ code name, t.ofCode? code = some name ↔ ∃ d ∈ ds, d.name = name ∧ d.code = code
  inverse : (ds.map Declaration.name).Nodup →
    ∀ d ∈ ds, ∀ code, t.ofCode? code = some d.name ↔ code = d.code

theorem describes_collect (acceptable : Acceptable ds) : (collect ds).Describes ds where
  rows := rfl
  default name := default?_collect acceptable.oneDefault
  noDefault := by simp [collect]
  read code name := ofCode?_collect acceptable.distinct
  inverse names d member code := by
    rw [ofCode?_collect acceptable.distinct]
    constructor
    · rintro ⟨other, hother, same, rfl⟩
      rw [List.inj_on_of_nodup_map names hother member same]
    · rintro rfl
      exact ⟨d, member, rfl, rfl⟩

/-- **Declarations give a bijective table or their first offence.** -/
theorem ofDeclarations_tabulates (ds : List Declaration) :
    ((∃ t, ofDeclarations ds = .ok t) ↔ Acceptable ds) ∧
    (∀ t, ofDeclarations ds = .ok t → t.Describes ds) ∧
    ∀ e, ofDeclarations ds = .error e ↔ FirstOf Offence ds e := by
  refine ⟨?_, ?_, fun e => ofDeclarations_eq_error_iff⟩
  · simp only [ofDeclarations_eq_ok_iff, exists_and_left, exists_eq, and_true]
  · intro t accepted
    obtain ⟨acceptable, rfl⟩ := ofDeclarations_eq_ok_iff.1 accepted
    exact describes_collect acceptable

/-- Declared with these codes and this default, scopes have the codes and the default they have. -/
example :
    ofDeclarations
        [{ name := "Narrow", rename := some "n" },
          { name := "Normal", rename := some "s", isDefault := true },
          { name := "Broad", rename := some "b" }] =
      .ok
        { rows := ["Narrow", "Normal", "Broad"].zip ((Coded.all : List Scope).map Coded.code)
          default? := some "Normal" } := by
  rfl

namespace Example

/-- A code from a name, a code in place of one, and the last variant as the default. -/
def accepted : List Declaration :=
  [{ name := "ByAge" }, { name := "Journal", rename := some "jour" },
    { name := "Title", rename := some "by-title", isDefault := true }]

/-- The code of the first name again, where there is a second default too, in front of fields. -/
def refused : List Declaration :=
  [{ name := "ByAge", isDefault := true },
    { name := "Newest", rename := some "by-age", isDefault := true },
    { name := "Within", hasFields := true }]

theorem kebab_byAge : kebab "ByAge" = "by-age" := by decide +kernel

theorem codes_accepted : accepted.map Declaration.code = ["by-age", "jour", "by-title"] := by
  show [kebab "ByAge", "jour", "by-title"] = _
  rw [kebab_byAge]

end Example

theorem ofDeclarations_tabulates_of_renamed :
    (∃ t, ofDeclarations Example.accepted = .ok t ∧ t.default? = some "Title" ∧
        t.ofCode? "by-age" = some "ByAge") ∧
      ofDeclarations Example.refused = .error (.duplicateCode "by-age") := by
  constructor
  · have tabulated := ofDeclarations_tabulates Example.accepted
    have populated : ∀ code ∈ Example.accepted.map Declaration.code, code ≠ "" := by
      rw [Example.codes_accepted]
      decide
    have distinct : (Example.accepted.map Declaration.code).Nodup := by
      rw [Example.codes_accepted]
      decide
    obtain ⟨t, accepted⟩ := tabulated.1.2
      ⟨by decide, fun d member => populated d.code (List.mem_map_of_mem member), distinct,
        by decide⟩
    have described := tabulated.2.1 t accepted
    have names : (Example.accepted.map Declaration.name).Nodup := by decide
    exact ⟨t, accepted, (described.default "Title").2 (by decide),
      (described.inverse names { name := "ByAge" } (by decide) "by-age").2
        Example.kebab_byAge.symm⟩
  · refine ((ofDeclarations_tabulates Example.refused).2.2 _).2
      ⟨[{ name := "ByAge", isDefault := true }], _, _, rfl, ?_, ?_⟩
    · have code : Declaration.code { name := "ByAge", isDefault := true } = "by-age" :=
        Example.kebab_byAge
      exact freeOf_offence_iff.2
        ⟨by decide, by simp [code], List.nodup_singleton _, by decide⟩
    · exact .duplicateCode rfl (by decide) ⟨_, List.mem_singleton_self _, Example.kebab_byAge⟩

end Table

end FacetedSearch.Code
