/-
# FacetedSearch.Proofs.Query.Glue -- what the glue of the filter categories changes

A group or a category contributes to a query if two of its entries have a text, or if one has and
this is not an empty pair of parentheses (`Query.contributes`).  Nothing that contributes is empty.
So between terms a query is what the groups and the categories contribute, joined by ` AND `, and a
category finds a text before it unless it is the first to contribute.  The other way of attaching
puts ` AND ` in front of that one too, and does nothing else:

* `contribution?_eq`: entries contribute their text, or nothing;
* `queryChars_unconditional`: the same query, behind an ` AND ` if categories contribute and no
  group does;
* `glue_differs_by_one_and`: both of these for whole compilations, with one account of what they
  report.
-/
import FacetedSearch.Proofs.Query.Skipping

namespace FacetedSearch

set_option autoImplicit false

namespace Query

/-- Some entries contribute to a query: at least two of them have a text, or one has, and its texts
joined are not an empty pair of parentheses. -/
def contributes (entries : List Entry) : Bool :=
  match entries.filter Entry.isUsable with
  | [] => false
  | [e] => " OR ".toList.intercalate (usableTexts e) != ['(', ')']
  | _ :: _ :: _ => true

/-- The first search text of the entry has an operator. -/
def leadsWithOperators (e : Entry) : Bool := (usableTexts e).head?.any Text.hasOperators

/-- The operand of an entry that has a text. -/
def operand (e : Entry) : Operand where
  text := " OR ".toList.intercalate (usableTexts e)
  hasOperators := leadsWithOperators e

/-- The text of some entries, which stand beside others or alone. -/
def textOf (besideOthers : Bool) (entries : List Entry) : List Char :=
  groupText besideOthers (entries.filterMap Operand.ofEntry?)

end Query

namespace Selection

/-- The groups that contribute, in order. -/
def contributingGroups (s : Selection) : List (List Entry) :=
  s.populatedGroups.filter Query.contributes

/-- The entries of the categories that contribute, in order. -/
def contributingCategories (s : Selection) : List (List Entry) :=
  (s.filters.populated.map Prod.snd).filter Query.contributes

end Selection

/-! ## Contributions -/

namespace Query

variable {entries : List Entry}

theorem ofEntry?_of_isUsable {e : Entry} (usable : e.isUsable = true) :
    Operand.ofEntry? e = some (operand e) := by
  obtain ⟨o, made⟩ := exists_ofEntry? usable
  obtain ⟨first, rest, found, rfl⟩ := exists_of_ofEntry? made
  rw [made, operand, leadsWithOperators, found]
  rfl

/-- The operands of some entries are those of the entries with a text. -/
theorem operands_eq (entries : List Entry) :
    entries.filterMap Operand.ofEntry? = (entries.filter Entry.isUsable).map operand := by
  rw [← filterMap_ofEntry?_filter, ← List.filterMap_eq_map]
  exact List.filterMap_congr fun e member => ofEntry?_of_isUsable (List.mem_filter.1 member).2

theorem text_ne_nil {e : Entry} {o : Operand} (made : Operand.ofEntry? e = some o) :
    o.text ≠ [] := by
  obtain ⟨first, rest, texts, rfl⟩ := exists_of_ofEntry? made
  have member : first ∈ usableTexts e := texts ▸ List.mem_cons_self
  exact intercalate_ne_nil _ (ne_nil_of_mem_usableTexts member) rest

/-- An empty pair of parentheses has no operators, so it stays as it is. -/
theorem hasOperators_eq_false {e : Entry} {o : Operand} (made : Operand.ofEntry? e = some o)
    (empty : o.text = ['(', ')']) : o.hasOperators = false := by
  refine Bool.eq_false_iff.2 fun operators => ?_
  have inside := hasOperators_text made operators
  rw [empty] at inside
  exact absurd inside (by decide)

/-- One operand contributes unless it is an empty pair of parentheses. -/
theorem contribution?_of_single {e : Entry} (single : entries.filter Entry.isUsable = [e])
    (besideOthers : Bool) :
    contribution? besideOthers entries =
      if " OR ".toList.intercalate (usableTexts e) = ['(', ')'] then none
      else some (textOf besideOthers entries) := by
  have usable : e.isUsable = true := by
    have member : e ∈ entries.filter Entry.isUsable := single ▸ List.mem_singleton_self e
    exact (List.mem_filter.1 member).2
  have made := ofEntry?_of_isUsable usable
  have operands : entries.filterMap Operand.ofEntry? = [operand e] := by
    rw [operands_eq, single, List.map_singleton]
  have text : (operand e).text = " OR ".toList.intercalate (usableTexts e) := rfl
  rw [← text]
  split
  · rename_i empty
    rw [contribution?, operands, groupText_single, hasOperators_eq_false made empty, Bool.and_false,
      empty]
    rfl
  · rename_i proper
    rw [contribution?_operand operands (text_ne_nil made) proper, textOf, operands,
      groupText_single]

/-- Several operands contribute, for ` OR ` stands between them. -/
theorem contribution?_of_several {e f : Entry} {rest : List Entry}
    (several : entries.filter Entry.isUsable = e :: f :: rest) (besideOthers : Bool) :
    contribution? besideOthers entries = some (textOf besideOthers entries) := by
  have operands : entries.filterMap Operand.ofEntry? =
      operand e :: operand f :: rest.map operand := by
    rw [operands_eq, several, List.map_cons, List.map_cons]
  have two : 2 ≤ (operand e :: operand f :: rest.map operand).length := by simp
  have text := groupText_of_several two besideOthers
  rw [contribution?_eq_some, textOf]
  · rw [operands, text]
    exact List.cons_ne_nil _ _
  · rw [operands, text]
    intro empty
    have length := congrArg List.length empty
    have joint : " OR ".toList.length = 4 := rfl
    rw [List.map_cons, List.map_cons, List.intercalate_cons_cons] at length
    simp only [List.length_cons, List.length_append, List.length_nil, joint] at length
    omega

/-- **Entries contribute their text**, or nothing if they come to nothing. -/
theorem contribution?_eq (besideOthers : Bool) (entries : List Entry) :
    contribution? besideOthers entries =
      if contributes entries then some (textOf besideOthers entries) else none := by
  cases usable : entries.filter Entry.isUsable with
  | nil =>
      have nothing : contributes entries = false := by rw [contributes, usable]
      rw [nothing, contribution?, operands_eq, usable]
      simp [groupText, wrapIf]
  | cons e rest =>
      cases rest with
      | nil =>
          have one : contributes entries =
              (" OR ".toList.intercalate (usableTexts e) != ['(', ')']) := by
            rw [contributes, usable]
          rw [one, contribution?_of_single usable]
          simp only [bne_iff_ne, ne_eq, ite_not]
      | cons f rest =>
          have all : contributes entries = true := by rw [contributes, usable]
          rw [all, contribution?_of_several usable]
          rfl

/-- What some groups contribute is the texts of those that do. -/
theorem filterMap_contribution? (besideOthers : Bool) (groups : List (List Entry)) :
    groups.filterMap (contribution? besideOthers) =
      (groups.filter contributes).map (textOf besideOthers) := by
  rw [← List.filterMap_eq_map, List.filterMap_filter]
  refine List.filterMap_congr fun group _ => ?_
  rw [contribution?_eq]
  rfl

end Query

namespace FilterGlue

/-- Attached unconditionally, texts come behind an ` AND `. -/
theorem foldl_attach_unconditional {more : List (List Char)} (some_more : more ≠ [])
    (query : List Char) :
    more.foldl unconditional.attach query =
      query ++ " AND ".toList ++ " AND ".toList.intercalate more := by
  induction more generalizing query with
  | nil => exact absurd rfl some_more
  | cons text rest ih =>
      cases rest with
      | nil =>
          rw [List.intercalate_singleton]
          rfl
      | cons next rest =>
          rw [List.foldl_cons, ih (by simp), List.intercalate_cons_cons]
          simp only [attach, List.append_assoc]

end FilterGlue

/-! ## Queries -/

namespace Selection

variable {s : Selection}

theorem groupTexts_eq (s : Selection) :
    s.groupTexts = s.contributingGroups.map (Query.textOf s.isCombined) :=
  Query.filterMap_contribution? s.isCombined s.populatedGroups

theorem filterTexts_eq (s : Selection) :
    s.filterTexts = s.contributingCategories.map (Query.textOf true) := by
  rw [contributingCategories, ← Query.filterMap_contribution?, List.filterMap_map]
  rfl

theorem groupTexts_eq_nil_iff : s.groupTexts = [] ↔ s.contributingGroups = [] := by
  rw [groupTexts_eq, List.map_eq_nil_iff]

theorem filterTexts_eq_nil_iff : s.filterTexts = [] ↔ s.contributingCategories = [] := by
  rw [filterTexts_eq, List.map_eq_nil_iff]

/-- A query between terms is empty if nothing contributes. -/
theorem queryChars_betweenTerms_eq_nil_iff :
    s.queryChars .betweenTerms = [] ↔ s.groupTexts = [] ∧ s.filterTexts = [] := by
  rw [queryChars_betweenTerms, ← List.append_eq_nil_iff]
  constructor
  · intro empty
    cases texts : s.groupTexts ++ s.filterTexts with
    | nil => rfl
    | cons first rest =>
        have populated : first ≠ [] := ne_nil_of_mem_texts first (texts ▸ List.mem_cons_self)
        rw [texts] at empty
        exact absurd empty (Query.intercalate_ne_nil _ populated rest)
  · intro none
    rw [none, List.intercalate_nil]

/-- **Attached unconditionally**, the first text is behind an ` AND ` too if it is a category's. -/
theorem queryChars_unconditional (s : Selection) :
    s.queryChars .unconditional =
      (if s.groupTexts = [] ∧ s.filterTexts ≠ [] then " AND ".toList else []) ++
        s.queryChars .betweenTerms := by
  rw [queryChars_betweenTerms, queryChars_eq]
  by_cases categories : s.filterTexts = []
  · simp [categories]
  · rw [FilterGlue.foldl_attach_unconditional categories]
    by_cases groups : s.groupTexts = []
    · simp [groups, categories]
    · simp [groups, Text.intercalate_append _ groups categories]

/-- **The glue makes a difference of one ` AND `.**  Between terms a query is the texts of the
groups and categories that contribute, joined; unconditionally it has an ` AND ` in front if
categories contribute and no group does.  What is reported is the same. -/
theorem glue_differs_by_one_and (s : Selection) :
    let texts := s.contributingGroups.map (Query.textOf s.isCombined) ++
      s.contributingCategories.map (Query.textOf true)
    (s.compile .betweenTerms).toList = " AND ".toList.intercalate texts ∧
      (∀ text ∈ texts, text ≠ []) ∧
      (s.compile .betweenTerms = "" ↔ s.contributingGroups = [] ∧ s.contributingCategories = []) ∧
      s.compile .unconditional =
        (if s.contributingGroups = [] ∧ s.contributingCategories ≠ [] then " AND " else "") ++
          s.compile .betweenTerms ∧
      ∀ glue, s.compileWithDiagnostics glue =
        (s.compile glue, (s.entries.filter fun e => !e.isUsable).map fun e =>
          .malformedEntry e.name e.scope) := by
  intro texts
  have joined : texts = s.groupTexts ++ s.filterTexts := by
    rw [groupTexts_eq, filterTexts_eq]
  refine ⟨?_, ?_, ?_, ?_, fun glue => ?_⟩
  · rw [joined, toList_compile, queryChars_betweenTerms]
  · rw [joined]
    exact ne_nil_of_mem_texts
  · rw [← groupTexts_eq_nil_iff, ← filterTexts_eq_nil_iff, ← queryChars_betweenTerms_eq_nil_iff,
      ← toList_compile]
    exact String.toList_eq_nil_iff.symm
  · have leads : (s.groupTexts = [] ∧ s.filterTexts ≠ []) ↔
        (s.contributingGroups = [] ∧ s.contributingCategories ≠ []) :=
      and_congr groupTexts_eq_nil_iff (not_congr filterTexts_eq_nil_iff)
    rw [← String.toList_inj, String.toList_append, toList_compile, toList_compile,
      queryChars_unconditional]
    simp only [leads]
    split <;> rfl
  · rw [compileWithDiagnostics_eq, Query.reportsOn_eq]

namespace Example

/-- No group contributes, and the first category does not either. -/
def degenerate : Selection where
  groups := [[plainTag "()"], [broadTag]]
  filters := ⟨[("a", [plainTag "()"]), ("b", [plainTag "x OR y"]), ("c", [plainTag "z"])], by simp⟩

end Example

theorem glue_differs_by_one_and_of_degenerate :
    Example.degenerate.compile .betweenTerms = "(x OR y) AND z" ∧
      Example.degenerate.compile .unconditional = " AND (x OR y) AND z" ∧
      ∀ glue, (Example.degenerate.compileWithDiagnostics glue).2 =
        [.malformedEntry Example.broadTag.name .broad] := by
  obtain ⟨joined, -, -, front, reports⟩ := glue_differs_by_one_and Example.degenerate
  have between : Example.degenerate.compile .betweenTerms = "(x OR y) AND z" :=
    String.toList_inj.1 (joined.trans (by decide))
  have skipped : Example.degenerate.entries.filter (fun e => !e.isUsable) =
      [Example.broadTag] := by decide
  refine ⟨between, ?_, fun glue => ?_⟩
  · rw [front, between]
    decide
  · rw [reports, skipped]
    rfl

end Selection

end FacetedSearch
