/-
# FacetedSearch.Proofs.Selection.Removals -- what is taken from a category

Filters are cut in front of and behind a category, and its entries in front of and behind the
earliest facet with a key (`Filters.get?_eq_some_iff_cut`, `Filters.takeKey?_eq_some_iff`).  To
remove is to close both cuts without that entry; a category that has no other goes with it
(`Removes`).  This says all that a removal does, and when there is one
(`removeFilter_eq_some_iff`, `removeFilter_eq_none_iff`), so it undoes the addition of a facet with
a new key (`removeFilter_addFilter`), and removals in a row take all facets with the key in their
order (`removals_eq`).
-/
import FacetedSearch.Proofs.Selection.Parts
import Mathlib.Data.List.Nodup

namespace FacetedSearch

set_option autoImplicit false

/-! ## Entries -/

/-- Entries without a key are not facets with the key; tags have none. -/
theorem Entry.forall_key?_ne_iff {key : Facet.Key} {entries : List Entry} :
    (∀ e ∈ entries, e.key? ≠ some key) ↔ ∀ f scope, facet f scope ∈ entries → f.key ≠ key := by
  constructor
  · intro none f scope member same
    exact none _ member (congrArg some same)
  · intro none e member matching
    cases e with
    | facet f scope => exact none f scope member (Option.some.inj matching)
    | custom tag => cases matching

namespace Filters

variable {filters : Filters} {category : String} {entries left : List Entry}
  {before after : List (String × List Entry)}

/-- The row of a category, which does not stand there without entries. -/
def rowOf (category : String) (entries : List Entry) : List (String × List Entry) :=
  if entries = [] then [] else [(category, entries)]

/-- Filters are cut at a category that stands there. -/
theorem get?_eq_some_iff_cut :
    filters.get? category = some entries ↔
      ∃ before after, filters.rows = before ++ (category, entries) :: after := by
  rw [← mem_rows_iff, List.mem_iff_append]

/-- No other row has the category at the cut. -/
theorem ne_of_cut (cut : filters.rows = before ++ (category, entries) :: after) :
    ∀ row ∈ before ++ after, row.1 ≠ category := by
  have nodup := filters.nodup
  rw [cut, List.map_append, List.map_cons, List.nodup_middle, List.nodup_cons, ← List.map_append]
    at nodup
  rintro row member rfl
  exact nodup.1 (List.mem_map.2 ⟨row, member, rfl⟩)

theorem replaceRows_append :
    replaceRows category left (before ++ after) =
      replaceRows category left before ++ replaceRows category left after :=
  List.filterMap_append

theorem replaceRows_cons_self (rest : List (String × List Entry)) :
    replaceRows category left ((category, entries) :: rest) =
      rowOf category left ++ replaceRows category left rest := by
  cases left <;> simp [replaceRows, rowOf]

theorem replaceRows_of_ne {rows : List (String × List Entry)}
    (others : ∀ row ∈ rows, row.1 ≠ category) : replaceRows category left rows = rows := by
  induction rows with
  | nil => rfl
  | cons row rest ih =>
      obtain ⟨other, others⟩ := List.forall_mem_cons.1 others
      have kept := ih others
      rw [replaceRows] at kept ⊢
      rw [List.filterMap_cons, if_neg other, kept]

theorem replaceRows_cut (cut : filters.rows = before ++ (category, entries) :: after) :
    replaceRows category left filters.rows = before ++ (rowOf category left ++ after) := by
  obtain ⟨earlier, later⟩ := List.forall_mem_append.1 (ne_of_cut cut)
  rw [cut, replaceRows_append, replaceRows_cons_self, replaceRows_of_ne earlier,
    replaceRows_of_ne later]

theorem extendRows_cut (others : ∀ row ∈ before, row.1 ≠ category) (new : List Entry) :
    extendRows category new (before ++ (category, entries) :: after) =
      before ++ (category, entries ++ new) :: after := by
  induction before with
  | nil => simp [extendRows]
  | cons row rest ih =>
      obtain ⟨other, others⟩ := List.forall_mem_cons.1 others
      rw [List.cons_append, extendRows, if_neg other, ih others, List.cons_append]

/-- After a removal the category has the entries that are left. -/
theorem entriesOf_of_rows (others : ∀ row ∈ before ++ after, row.1 ≠ category)
    (rows : filters.rows = before ++ (rowOf category entries ++ after)) :
    filters.entriesOf category = entries := by
  by_cases none : entries = []
  · subst none
    cases found : filters.get? category with
    | none => rw [entriesOf, found, Option.getD_none]
    | some entries =>
        have member := mem_rows_iff.2 found
        rw [rows, rowOf, if_pos rfl, List.nil_append] at member
        exact absurd rfl (others _ member)
  · have cut : filters.rows = before ++ (category, entries) :: after := by
      rw [rows, rowOf, if_neg none, List.singleton_append]
    rw [entriesOf, get?_eq_some_iff_cut.2 ⟨before, after, cut⟩, Option.getD_some]

end Filters

/-! ## Selections -/

namespace Selection

variable {s t : Selection} {category : String} {key : Facet.Key} {taken : Entry}

/-- The entry is the earliest facet of the category with the key, and the other selection lacks just
this entry.  Where it was the only one of its category, the category is not there any more. -/
inductive Removes (s : Selection) (category : String) (key : Facet.Key) :
    Entry → Selection → Prop
  | intro {before after : List (String × List Entry)} {earlier later : List Entry} {taken : Entry}
      {filters : Filters} (matching : taken.key? = some key)
      (earliest : ∀ e ∈ earlier, e.key? ≠ some key)
      (cut : s.filters.rows = before ++ (category, earlier ++ taken :: later) :: after)
      (closed : filters.rows = before ++ (Filters.rowOf category (earlier ++ later) ++ after)) :
      Removes s category key taken { s with filters }

/-- **What is removed and what is left** when there is something to remove. -/
theorem removeFilter_eq_some_iff :
    s.removeFilter category key = (some taken, t) ↔ s.Removes category key taken t := by
  constructor
  · intro removed
    rw [removeFilter] at removed
    split at removed
    · rename_i first filters found
      obtain ⟨same, rfl⟩ := Prod.mk.inj removed
      obtain rfl := Option.some.inj same
      obtain ⟨entries, left, present, take, rows⟩ := Filters.remove?_eq_some_iff.1 found
      obtain ⟨before, after, cut⟩ := Filters.get?_eq_some_iff_cut.1 present
      obtain ⟨earlier, later, rfl, rfl, matching, earliest⟩ := Filters.takeKey?_eq_some_iff.1 take
      exact .intro matching earliest cut (rows.trans (Filters.replaceRows_cut cut))
    · cases removed
  · intro removes
    cases removes with
    | @intro before after earlier later taken filters matching earliest cut closed =>
        have present := Filters.get?_eq_some_iff_cut.2 ⟨before, after, cut⟩
        have take := Filters.takeKey?_eq_some_iff.2 ⟨earlier, later, rfl, rfl, matching, earliest⟩
        have rows := closed.trans (Filters.replaceRows_cut cut).symm
        rw [removeFilter, Filters.remove?_eq_some_iff.2 ⟨_, _, present, take, rows⟩]

theorem removeFilter_of_none (none : (s.removeFilter category key).1 = none) :
    s.removeFilter category key = (.none, s) := by
  rw [removeFilter] at none ⊢
  split at none
  · cases none
  · rfl

/-- **There is nothing to remove** where the category is absent or has no facet with the key. -/
theorem removeFilter_eq_none_iff :
    (s.removeFilter category key).1 = none ↔ s.filters.get? category = none ∨
      ∃ entries, s.filters.get? category = some entries ∧
        ∀ f scope, .facet f scope ∈ entries → f.key ≠ key := by
  simp only [← Entry.forall_key?_ne_iff, ← Filters.takeKey?_eq_none_iff,
    ← Filters.remove?_eq_none_iff]
  rw [removeFilter]
  cases s.filters.remove? category key <;> simp

theorem setScope_of_false {group entry : Nat} {scope : Scope}
    (absent : (s.setScope group entry scope).1 = false) :
    (s.setScope group entry scope).2 = s := by
  rw [setScope] at absent ⊢
  split at absent
  · rfl
  · split at absent
    · cases absent
    · rename_i beyond
      rw [if_neg beyond]

/-! ### After an addition -/

/-- **A removal undoes an addition**, if no category is without entries and the key is new. -/
theorem removeFilter_addFilter (populated : s.filters.Populated) {f : Facet} (scope : Scope)
    (new : ∀ g other, .facet g other ∈ s.filters.entriesOf category → g.key ≠ f.key) :
    (s.addFilter category (.facet f scope)).removeFilter category f.key =
      (some (.facet f scope), s) := by
  have added : (s.addFilter category (.facet f scope)).filters.rows =
      Filters.extendRows category [.facet f scope] s.filters.rows := rfl
  rw [removeFilter_eq_some_iff]
  cases present : s.filters.get? category with
  | none =>
      have absent : category ∉ s.filters.names := by
        rw [Filters.mem_names_iff, present]
        simp
      rw [Filters.extendRows_of_notMem absent] at added
      have cut : (s.addFilter category (.facet f scope)).filters.rows =
          s.filters.rows ++ (category, [] ++ .facet f scope :: []) :: [] := added
      have closed :
          s.filters.rows = s.filters.rows ++ (Filters.rowOf category ([] ++ []) ++ []) := by
        simp [Filters.rowOf]
      exact .intro rfl (by simp) cut closed
  | some entries =>
      obtain ⟨before, after, cut⟩ := Filters.get?_eq_some_iff_cut.1 present
      have others := (List.forall_mem_append.1 (Filters.ne_of_cut cut)).1
      have some_entry : entries ≠ [] := populated _ (Filters.mem_rows_iff.2 present)
      have earliest : ∀ e ∈ entries, e.key? ≠ some f.key := by
        rw [Entry.forall_key?_ne_iff]
        rwa [Filters.entriesOf, present, Option.getD_some] at new
      rw [cut, Filters.extendRows_cut others] at added
      have closed :
          s.filters.rows = before ++ (Filters.rowOf category (entries ++ []) ++ after) := by
        rw [cut, List.append_nil, Filters.rowOf, if_neg some_entry, List.singleton_append]
      exact .intro rfl earliest added closed

/-! ### In a row -/

/-- What removals in a row give, one after another. -/
def removals (category : String) (key : Facet.Key) : Nat → Selection → List (Option Entry)
  | 0, _ => []
  | n + 1, s =>
    (s.removeFilter category key).1 :: removals category key n (s.removeFilter category key).2

/-- The facets of a category with a key. -/
def facetsWith (s : Selection) (category : String) (key : Facet.Key) : List Entry :=
  (s.filters.entriesOf category).filter fun e => e.key? = some key

theorem Removes.facetsWith_eq (removes : s.Removes category key taken t) :
    s.facetsWith category key = taken :: t.facetsWith category key := by
  cases removes with
  | @intro before after earlier later taken filters matching earliest cut closed =>
      have present := Filters.get?_eq_some_iff_cut.2 ⟨before, after, cut⟩
      have left := Filters.entriesOf_of_rows (Filters.ne_of_cut cut) closed
      have none : (earlier.filter fun e => e.key? = some key) = [] :=
        List.filter_eq_nil_iff.2 fun e member => by simpa using earliest e member
      rw [facetsWith, facetsWith, Filters.entriesOf, present, left]
      simp [none, matching]

theorem facetsWith_eq_nil (none : (s.removeFilter category key).1 = none) :
    s.facetsWith category key = [] := by
  rcases removeFilter_eq_none_iff.1 none with absent | ⟨entries, present, others⟩
  · rw [facetsWith, Filters.entriesOf, absent]
    rfl
  · rw [facetsWith, Filters.entriesOf, present, Option.getD_some, List.filter_eq_nil_iff]
    intro e member
    simpa using Entry.forall_key?_ne_iff.2 others e member

/-- **Removals in a row** give the facets with the key in their order, and then nothing. -/
theorem removals_eq (s : Selection) (category : String) (key : Facet.Key) (n : Nat) :
    removals category key n s =
      ((s.facetsWith category key).take n).map some ++
        List.replicate (n - (s.facetsWith category key).length) none := by
  induction n generalizing s with
  | zero => simp [removals]
  | succ n ih =>
      rw [removals, ih]
      cases removed : s.removeFilter category key with
      | mk taken? t =>
          cases taken? with
          | none =>
              have none : (s.removeFilter category key).1 = none := by rw [removed]
              obtain rfl : s = t :=
                congrArg Prod.snd ((removeFilter_of_none none).symm.trans removed)
              simp [facetsWith_eq_nil none, List.replicate_succ]
          | some taken =>
              rw [(removeFilter_eq_some_iff.1 removed).facetsWith_eq]
              simp

/-- **Removing is exact.**  It takes the earliest facet with the key out of the category, and with
it a category that it leaves without entries, and changes nothing else; where there is no such facet
it gives nothing and changes nothing, as setting the scope of no entry does.  It undoes the addition
of a facet with a new key, wherever the category stands or did not stand, and can be done as often
as the category has facets with the key. -/
theorem removeFilter_exact (s : Selection) (category : String) (key : Facet.Key) :
    (∀ taken t, s.removeFilter category key = (some taken, t) ↔ s.Removes category key taken t) ∧
    ((s.removeFilter category key).1 = none ↔ s.filters.get? category = none ∨
      ∃ entries, s.filters.get? category = some entries ∧
        ∀ f scope, .facet f scope ∈ entries → f.key ≠ key) ∧
    ((s.removeFilter category key).1 = none → (s.removeFilter category key).2 = s) ∧
    (∀ group entry scope, (s.setScope group entry scope).1 = false →
      (s.setScope group entry scope).2 = s) ∧
    (s.filters.Populated → ∀ f scope,
      (∀ g other, .facet g other ∈ s.filters.entriesOf category → g.key ≠ f.key) →
        (s.addFilter category (.facet f scope)).removeFilter category f.key =
          (some (.facet f scope), s)) ∧
    ∀ n, removals category key n s =
      ((s.facetsWith category key).take n).map some ++
        List.replicate (n - (s.facetsWith category key).length) none := by
  refine ⟨fun taken t => removeFilter_eq_some_iff, removeFilter_eq_none_iff, ?_, ?_, ?_,
    removals_eq s category key⟩
  · intro none
    rw [removeFilter_of_none none]
  · intro group entry scope absent
    exact setScope_of_false absent
  · intro populated f scope new
    exact removeFilter_addFilter populated scope new

namespace Example

def review : Facet := { key := ⟨"rev", none, none, none⟩ }

def german : Facet := { key := ⟨"lang", some 1, none, none⟩ }

/-- One facet twice in a category, around a tag that bears the name of its key. -/
def narrowed : Selection where
  filters := (({} : Filters).extend "type"
    [.facet review .normal, .custom { name := "rev" }, .facet review .broad]).extend "language"
    [.facet german .normal]

end Example

open Example in
theorem removeFilter_exact_of_repeated :
    (narrowed.removeFilter "language" german.key).1 = some (.facet german .normal) ∧
      (narrowed.removeFilter "language" german.key).2.filters.names = ["type"] ∧
      (narrowed.addFilter "type" (.facet german .broad)).removeFilter "type" german.key =
        (some (.facet german .broad), narrowed) ∧
      removals "type" review.key 3 narrowed =
        [some (.facet review .normal), some (.facet review .broad), none] := by
  have language := removeFilter_exact narrowed "language" german.key
  have type := removeFilter_exact narrowed "type" review.key
  obtain ⟨t, removed, names⟩ : ∃ t,
      narrowed.removeFilter "language" german.key = (some (.facet german .normal), t) ∧
        t.filters.names = ["type"] := by
    have closed : (({} : Filters).extend "type"
        [.facet review .normal, .custom { name := "rev" }, .facet review .broad]).rows =
        narrowed.filters.rows.dropLast ++ (Filters.rowOf "language" ([] ++ []) ++ []) := rfl
    exact ⟨_, (language.1 _ _).2 (.intro rfl (by simp) rfl closed), rfl⟩
  have new : ∀ g other, .facet g other ∈ narrowed.filters.entriesOf "type" → g.key ≠ german.key :=
    Entry.forall_key?_ne_iff.1 (by decide)
  have populated : ∀ row ∈ narrowed.filters.rows, row.2 ≠ [] := by decide
  exact ⟨by rw [removed], by rw [removed, names], type.2.2.2.2.1 populated german .broad new,
    type.2.2.2.2.2 3⟩

end Selection

end FacetedSearch
