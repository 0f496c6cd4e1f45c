/-
# FacetedSearch.Proofs.Query.Skipping -- entries without a text are skipped

An entry may have nothing to search for in its scope: no texts, or blank ones only.  Such an entry
is reported and left out.  What is left (`Selection.usable`) has no such entries, and no groups and
categories without entries.

The query is that of what is left, but for one case.  Whether a group stands beside others is read
off the selection and not off what is left of it, so a group can be put in parentheses that it would
not need.  A group of several entries is in parentheses anyway and one without operators never is;
so this takes a single entry with operators that is all that is left (`Selection.LeavesAlone`).
-/
import FacetedSearch.Proofs.Query.Reading

namespace FacetedSearch

set_option autoImplicit false

/-! ## What is left -/

/-- The earliest search text of the entry in its scope that is not blank. -/
def Entry.leadingText? (e : Entry) : Option String :=
  (e.texts?.getD []).find? fun text => !Text.isBlank text.toList

/-- The entry has a search text in its scope that is not blank. -/
def Entry.isUsable (e : Entry) : Bool := e.leadingText?.isSome

/-- The filters without entries that have no text, and without categories that have no entries. -/
def Filters.usable (filters : Filters) : Filters where
  rows := (filters.rows.map fun row => (row.1, row.2.filter Entry.isUsable)).filter
    fun row => !row.2.isEmpty
  nodup := by
    refine (List.filter_sublist.map Prod.fst).nodup ?_
    rw [List.map_map]
    exact filters.nodup

/-- The selection without entries that have no text, and without groups and categories that have no
entries. -/
def Selection.usable (s : Selection) : Selection :=
  { s with
    groups := (s.groups.map fun group => group.filter Entry.isUsable).filter
      fun group => !group.isEmpty
    filters := s.filters.usable }

/-- The entry is all that is left, has an operator in its first text, and did not stand alone
before. -/
structure Selection.LeavesAlone (s : Selection) (e : Entry) : Prop where
  groups : s.usable.groups = [[e]]
  filters : s.usable.filters.rows = []
  operators : ∃ text, e.leadingText? = some text ∧ Text.hasOperators text.toList = true
  besideOthers : 2 ≤ s.populatedGroups.length ∨ s.filters.populated ≠ []

namespace Query

variable {e : Entry} {o : Operand} {entries : List Entry}

/-! ## Operands -/

theorem head?_usableTexts (e : Entry) :
    (usableTexts e).head? = e.leadingText?.map String.toList := by
  rw [usableTexts, List.head?_filter, List.find?_map]
  rfl

/-- The entries that have no text are those that resolve to nothing. -/
theorem isSome_ofEntry? (e : Entry) : (Operand.ofEntry? e).isSome = e.isUsable := by
  have first := congrArg Option.isSome (head?_usableTexts e)
  rw [Option.isSome_map] at first
  rw [Operand.ofEntry?, Entry.isUsable, ← first]
  cases usableTexts e <;> rfl

theorem reportsOn_eq (entries : List Entry) :
    reportsOn entries =
      (entries.filter fun e => !e.isUsable).map fun e => .malformedEntry e.name e.scope := by
  rw [reportsOn]
  refine congrArg _ (List.filter_congr fun e _ => ?_)
  rw [← isSome_ofEntry?, Option.not_isSome]

theorem exists_ofEntry? (usable : e.isUsable = true) : ∃ o, Operand.ofEntry? e = some o := by
  rw [← isSome_ofEntry?] at usable
  exact Option.isSome_iff_exists.1 usable

theorem exists_of_ofEntry? (made : Operand.ofEntry? e = some o) :
    ∃ first rest, usableTexts e = first :: rest ∧
      o = ⟨" OR ".toList.intercalate (first :: rest), Text.hasOperators first⟩ := by
  rw [Operand.ofEntry?] at made
  cases texts : usableTexts e with
  | nil =>
      rw [texts] at made
      cases made
  | cons first rest =>
      rw [texts] at made
      exact ⟨first, rest, rfl, (Option.some.inj made).symm⟩

/-- An operand has the operators of the first text of its entry. -/
theorem hasOperators_iff (made : Operand.ofEntry? e = some o) :
    o.hasOperators = true ↔
      ∃ text, e.leadingText? = some text ∧ Text.hasOperators text.toList = true := by
  obtain ⟨first, rest, texts, rfl⟩ := exists_of_ofEntry? made
  have leads := head?_usableTexts e
  rw [texts] at leads
  obtain ⟨text, found, rfl⟩ := Option.map_eq_some_iff.1 leads.symm
  simp [found]

theorem hasOperators_text (made : Operand.ofEntry? e = some o) (operators : o.hasOperators = true) :
    Text.hasOperators o.text = true := by
  obtain ⟨first, rest, -, rfl⟩ := exists_of_ofEntry? made
  exact hasOperators_intercalate operators rest

/-! ## Groups -/

/-- The operands of some entries are those of the entries with a text. -/
theorem filterMap_ofEntry?_filter (entries : List Entry) :
    (entries.filter Entry.isUsable).filterMap Operand.ofEntry? =
      entries.filterMap Operand.ofEntry? := by
  rw [List.filterMap_filter]
  refine List.filterMap_congr fun e _ => ?_
  split
  · rfl
  · rename_i unusable
    rw [← isSome_ofEntry?, Option.not_isSome_iff_eq_none] at unusable
    exact unusable.symm

/-- A group contributes what its entries with a text contribute. -/
theorem contribution?_filter (besideOthers : Bool) (entries : List Entry) :
    contribution? besideOthers (entries.filter Entry.isUsable) =
      contribution? besideOthers entries := by
  rw [contribution?, contribution?, filterMap_ofEntry?_filter]

/-- Groups without entries contribute nothing. -/
theorem filterMap_populated (besideOthers : Bool) (groups : List (List Entry)) :
    (groups.filter fun group => !group.isEmpty).filterMap (contribution? besideOthers) =
      groups.filterMap (contribution? besideOthers) := by
  rw [List.filterMap_filter]
  refine List.filterMap_congr fun group _ => ?_
  cases group with
  | nil => simp [contribution?, groupText, wrapIf]
  | cons e rest => rfl

theorem filterMap_usable (besideOthers : Bool) (groups : List (List Entry)) :
    ((groups.map fun group => group.filter Entry.isUsable).filter
        fun group => !group.isEmpty).filterMap (contribution? besideOthers) =
      groups.filterMap (contribution? besideOthers) := by
  rw [filterMap_populated, List.filterMap_map]
  exact List.filterMap_congr fun group _ => contribution?_filter besideOthers group

/-- It makes no difference to a group what it stands beside, unless it has one operand and that has
operators. -/
theorem contribution?_besideOthers
    (plain : ∀ o, entries.filterMap Operand.ofEntry? = [o] → o.hasOperators = false)
    (besideOthers : Bool) : contribution? besideOthers entries = contribution? false entries := by
  have text : groupText besideOthers (entries.filterMap Operand.ofEntry?) =
      groupText false (entries.filterMap Operand.ofEntry?) := by
    cases operands : entries.filterMap Operand.ofEntry? with
    | nil => simp [groupText]
    | cons first rest =>
        cases rest with
        | nil =>
            rw [groupText_single, groupText_single, plain first operands, Bool.and_false,
              Bool.and_false]
        | cons second rest => simp [groupText]
  rw [contribution?, contribution?, text]

/-- Where no entry is skipped, a single operand comes from a single entry. -/
theorem exists_eq_singleton (usable : ∀ e ∈ entries, e.isUsable = true)
    (single : entries.filterMap Operand.ofEntry? = [o]) :
    ∃ e, entries = [e] ∧ Operand.ofEntry? e = some o := by
  cases entries with
  | nil => cases single
  | cons e rest =>
      obtain ⟨first, made⟩ := exists_ofEntry? (usable e List.mem_cons_self)
      rw [List.filterMap_cons_some made] at single
      obtain ⟨rfl, none⟩ := List.cons.inj single
      cases rest with
      | nil => exact ⟨e, rfl, made⟩
      | cons next rest =>
          obtain ⟨second, made⟩ :=
            exists_ofEntry? (usable next (List.mem_cons_of_mem _ List.mem_cons_self))
          rw [List.filterMap_cons_some made] at none
          cases none

/-- One operand with operators contributes its text, in parentheses if it stands beside others. -/
theorem contribution?_operators (made : Operand.ofEntry? e = some o)
    (operators : o.hasOperators = true) (besideOthers : Bool) :
    contribution? besideOthers [e] = some (wrapIf besideOthers o.text) := by
  have single : [e].filterMap Operand.ofEntry? = [o] := by simp [made]
  have differs {text : List Char} (plain : Text.hasOperators text = false) : o.text ≠ text := by
    rintro rfl
    rw [hasOperators_text made operators] at plain
    cases plain
  rw [contribution?_operand single (differs (by decide)) (differs (by decide)), operators,
    Bool.and_true]

end Query

namespace Selection

variable {s : Selection} {e : Entry} {glue : FilterGlue}

/-! ## Selections -/

theorem populatedGroups_usable (s : Selection) : s.usable.populatedGroups = s.usable.groups := by
  rw [populatedGroups, List.filter_eq_self]
  exact fun group member => (List.mem_filter.1 member).2

theorem populated_usable (s : Selection) :
    s.usable.filters.populated = s.usable.filters.rows := by
  rw [Filters.populated, List.filter_eq_self]
  exact fun row member => (List.mem_filter.1 member).2

theorem isCombined_usable_iff :
    s.usable.isCombined = true ↔ 2 ≤ s.usable.groups.length ∨ s.usable.filters.rows ≠ [] := by
  rw [isCombined_iff, populatedGroups_usable, populated_usable]

theorem populated_of_filter {entries : List Entry}
    (populated : (!(entries.filter Entry.isUsable).isEmpty) = true) :
    (!entries.isEmpty) = true := by
  cases entries with
  | nil => exact populated
  | cons e rest => rfl

/-- Nothing gets combined by skipping. -/
theorem isCombined_of_usable (combined : s.usable.isCombined = true) : s.isCombined = true := by
  have groups : s.usable.groups.length ≤ s.populatedGroups.length := by
    simp only [usable, populatedGroups, ← List.countP_eq_length_filter, List.countP_map]
    exact List.countP_mono_left fun group _ => populated_of_filter
  have rows : s.usable.filters.rows.length ≤ s.filters.populated.length := by
    simp only [usable, Filters.usable, Filters.populated, ← List.countP_eq_length_filter,
      List.countP_map]
    exact List.countP_mono_left fun row _ => populated_of_filter
  rw [isCombined_usable_iff] at combined
  rw [isCombined_iff]
  refine combined.imp (fun several => Nat.le_trans several groups) fun some_row => ?_
  rw [← List.length_pos_iff] at some_row ⊢
  exact Nat.lt_of_lt_of_le some_row rows

/-- With the same said of whether they stand beside others, the groups left contribute the same. -/
theorem filterMap_groups_usable (besideOthers : Bool) :
    s.usable.groups.filterMap (Query.contribution? besideOthers) =
      s.populatedGroups.filterMap (Query.contribution? besideOthers) := by
  rw [usable, Query.filterMap_usable, populatedGroups, Query.filterMap_populated]

theorem groupTexts_usable (s : Selection) :
    s.usable.groupTexts = s.usable.groups.filterMap (Query.contribution? s.usable.isCombined) := by
  rw [groupTexts, populatedGroups_usable]

theorem map_snd_populated (filters : Filters) :
    filters.populated.map Prod.snd =
      (filters.rows.map Prod.snd).filter fun entries => !entries.isEmpty := by
  rw [List.filter_map]
  rfl

/-- The categories left contribute the same. -/
theorem filterTexts_usable (s : Selection) : s.usable.filterTexts = s.filterTexts := by
  have texts (s : Selection) : s.filterTexts =
      (s.filters.rows.map Prod.snd).filterMap (Query.contribution? true) := by
    rw [← Query.filterMap_populated, ← map_snd_populated, List.filterMap_map]
    rfl
  have left : s.usable.filters.rows.map Prod.snd =
      ((s.filters.rows.map Prod.snd).map fun entries => entries.filter Entry.isUsable).filter
        fun entries => !entries.isEmpty := by
    simp only [usable, Filters.usable, List.filter_map, List.map_map]
    rfl
  rw [texts, texts, left, Query.filterMap_usable]

theorem isUsable_of_mem_group {group : List Entry} (member : group ∈ s.usable.groups) :
    ∀ e ∈ group, e.isUsable = true := by
  obtain ⟨old, -, rfl⟩ := List.mem_map.1 (List.mem_filter.1 member).1
  exact fun e he => (List.mem_filter.1 he).2

theorem isUsable_of_mem_row {row : String × List Entry} (member : row ∈ s.usable.filters.rows) :
    ∀ e ∈ row.2, e.isUsable = true := by
  obtain ⟨old, -, rfl⟩ := List.mem_map.1 (List.mem_filter.1 member).1
  exact fun e he => (List.mem_filter.1 he).2

/-! ## Reports -/

theorem entries_eq (s : Selection) :
    s.entries = s.groups.flatten ++ s.filters.rows.flatMap Prod.snd := by
  have rows : s.filters.populated.flatMap Prod.snd = s.filters.rows.flatMap Prod.snd := by
    rw [List.flatMap_def, List.flatMap_def, map_snd_populated, List.flatten_filter_not_isEmpty]
  rw [entries, populatedGroups, List.flatten_filter_not_isEmpty]
  exact congrArg (s.groups.flatten ++ ·) rows

theorem compileDiagnostics_eq (glue : FilterGlue) (s : Selection) :
    s.compileDiagnostics glue =
      ((s.groups.flatten ++ s.filters.rows.flatMap Prod.snd).filter fun e => !e.isUsable).map
        fun e => .malformedEntry e.name e.scope := by
  rw [compileDiagnostics, compileWithDiagnostics_eq, entries_eq]
  exact Query.reportsOn_eq _

theorem compileDiagnostics_usable (glue : FilterGlue) (s : Selection) :
    s.usable.compileDiagnostics glue = [] := by
  rw [compileDiagnostics_eq, List.map_eq_nil_iff, List.filter_eq_nil_iff]
  intro e member
  have isUsable : e.isUsable = true := by
    rcases List.mem_append.1 member with member | member
    · obtain ⟨group, listed, member⟩ := List.mem_flatten.1 member
      exact isUsable_of_mem_group listed e member
    · obtain ⟨row, listed, member⟩ := List.mem_flatMap.1 member
      exact isUsable_of_mem_row listed e member
  simp [isUsable]

/-! ## Queries -/

theorem compile_of_groupTexts (same : s.groupTexts = s.usable.groupTexts) :
    s.compile glue = s.usable.compile glue := by
  rw [compile_eq_foldl, compile_eq_foldl, same, filterTexts_usable]

/-- An entry that is left alone stood beside others before. -/
theorem LeavesAlone.isCombined (alone : s.LeavesAlone e) :
    s.isCombined = true ∧ s.usable.isCombined = false := by
  refine ⟨isCombined_iff.2 alone.besideOthers, Bool.eq_false_iff.2 fun combined => ?_⟩
  rw [isCombined_usable_iff, alone.groups, alone.filters] at combined
  simp at combined

theorem LeavesAlone.compile_eq (alone : s.LeavesAlone e) :
    s.compile glue = "(" ++ s.usable.compile glue ++ ")" := by
  have isUsable : e.isUsable = true :=
    isUsable_of_mem_group (alone.groups ▸ List.mem_cons_self) e List.mem_cons_self
  obtain ⟨o, made⟩ := Query.exists_ofEntry? isUsable
  have operators := (Query.hasOperators_iff made).2 alone.operators
  have before : s.groupTexts = ['(' :: o.text ++ [')']] := by
    rw [groupTexts, ← filterMap_groups_usable, alone.groups, alone.isCombined.1,
      List.filterMap_cons_some (Query.contribution?_operators made operators true)]
    rfl
  have after : s.usable.groupTexts = [o.text] := by
    rw [groupTexts_usable, alone.groups, alone.isCombined.2,
      List.filterMap_cons_some (Query.contribution?_operators made operators false)]
    rfl
  have none : s.usable.filterTexts = [] := by
    rw [filterTexts, populated_usable, alone.filters]
    rfl
  rw [compile_eq_foldl, compile_eq_foldl, ← filterTexts_usable, none, before, after,
    List.foldl_nil, List.foldl_nil, List.intercalate_singleton, List.intercalate_singleton,
    List.cons_append, ← List.singleton_append, String.ofList_append, String.ofList_append,
    String.append_assoc]

/-- Where a group left does not stand beside others any more, an only operand with operators comes
from an entry that is left alone. -/
theorem exists_leavesAlone (before : s.isCombined = true) (after : s.usable.isCombined = false)
    {group : List Entry} (member : group ∈ s.usable.groups) {o : Query.Operand}
    (single : group.filterMap Query.Operand.ofEntry? = [o]) (operators : o.hasOperators = true) :
    ∃ e, s.LeavesAlone e := by
  obtain ⟨e, rfl, made⟩ := Query.exists_eq_singleton (isUsable_of_mem_group member) single
  obtain ⟨few, rows⟩ := not_or.1 (mt isCombined_usable_iff.2 (Bool.eq_false_iff.1 after))
  obtain ⟨only, groups⟩ := List.length_eq_one_iff.1
    (Nat.le_antisymm (Nat.le_of_lt_succ (Nat.lt_of_not_le few)) (List.length_pos_of_mem member))
  rw [groups, List.mem_singleton] at member
  exact ⟨e,
    { groups := groups.trans (member ▸ rfl)
      filters := not_ne_iff.1 rows
      operators := (Query.hasOperators_iff made).1 operators
      besideOthers := isCombined_iff.1 before }⟩

theorem compile_of_not_leavesAlone (crowded : ¬∃ e, s.LeavesAlone e) :
    s.compile glue = s.usable.compile glue := by
  refine compile_of_groupTexts ?_
  rw [groupTexts, ← filterMap_groups_usable, groupTexts_usable]
  by_cases same : s.isCombined = s.usable.isCombined
  · rw [same]
  · have after : s.usable.isCombined = false :=
      Bool.eq_false_iff.2 fun combined => same ((isCombined_of_usable combined).trans combined.symm)
    have before : s.isCombined = true := by
      rw [after, Bool.not_eq_false] at same
      exact same
    rw [after]
    refine List.filterMap_congr fun group member => ?_
    refine Query.contribution?_besideOthers (fun o single => ?_) s.isCombined
    exact Bool.eq_false_iff.2 fun operators =>
      crowded (exists_leavesAlone before after member single operators)

/-- **Entries without a text are reported, each once and in sequence, and skipped.**  The query is
that of what is left, in parentheses if that is an entry with operators that stood beside others. -/
theorem compile_skips_unusable (glue : FilterGlue) (s : Selection) :
    s.compileDiagnostics glue =
        ((s.groups.flatten ++ s.filters.rows.flatMap Prod.snd).filter fun e => !e.isUsable).map
          (fun e => .malformedEntry e.name e.scope) ∧
      s.usable.compileDiagnostics glue = [] ∧
      ((∃ e, s.LeavesAlone e) → s.compile glue = "(" ++ s.usable.compile glue ++ ")") ∧
      ((¬∃ e, s.LeavesAlone e) → s.compile glue = s.usable.compile glue) :=
  ⟨s.compileDiagnostics_eq glue, s.compileDiagnostics_usable glue,
    fun ⟨_, alone⟩ => alone.compile_eq, compile_of_not_leavesAlone⟩

namespace Example

/-- A tag that is searched as typed. -/
def plainTag (name : String) : Entry := .custom ⟨name, .normal, false, none⟩

/-- A tag in a scope in which it has no text. -/
def broadTag : Entry := .custom ⟨"z", .broad, false, none⟩

/-- One tag is left of two groups. -/
def crowded : Selection where
  groups := [[broadTag], [plainTag "x AND y", plainTag " "]]

/-- Two tags are left of two groups. -/
def sparse : Selection where
  groups := [[broadTag, plainTag "w"], [plainTag "x AND y"]]

theorem leavesAlone_crowded : crowded.LeavesAlone (plainTag "x AND y") where
  groups := by decide
  filters := by decide
  operators := ⟨"x AND y", by decide, by decide⟩
  besideOthers := by decide

theorem not_leavesAlone_sparse : ¬∃ e, sparse.LeavesAlone e := by
  rintro ⟨e, alone⟩
  have two : sparse.usable.groups.length = 2 := by decide
  rw [alone.groups] at two
  cases two

end Example

theorem compile_skips_unusable_of_tags :
    (∃ e, Example.crowded.LeavesAlone e) ∧ (¬∃ e, Example.sparse.LeavesAlone e) ∧
      Example.crowded.compile .unconditional = "(x AND y)" ∧
      Example.sparse.compile .unconditional = "w AND (x AND y)" :=
  ⟨⟨_, Example.leavesAlone_crowded⟩, Example.not_leavesAlone_sparse,
    ((compile_skips_unusable _ _).2.2.1 ⟨_, Example.leavesAlone_crowded⟩).trans (by decide),
    ((compile_skips_unusable _ _).2.2.2 Example.not_leavesAlone_sparse).trans (by decide)⟩

end Selection

end FacetedSearch
