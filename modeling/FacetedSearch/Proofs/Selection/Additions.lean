/-
# FacetedSearch.Proofs.Selection.Additions -- what entries added one after another come to

An addition pushes an entry to a group or adds one to a category, and concerns nothing else.  After
any additions a group has the entries that it had and those pushed to it (`group_addAll`), so has a
category (`entriesOf_addAll`), both in the order of the additions.  Groups are made up to the
largest number among them (`length_groups_addAll`) and categories follow the old ones in the order
in which they first come up (`names_addAll`); the rest stays (`settings_addAll`).

These parts are all of a selection, so how additions to different places interleave does not matter
(`addAll_gathers`).
-/
import FacetedSearch.Proofs.Runs
import FacetedSearch.Proofs.Selection.Parts
import Mathlib.Order.Nat
import Mathlib.Tactic.Push

namespace FacetedSearch

set_option autoImplicit false

/-- An entry to add, and where. -/
inductive Addition
  /-- To the subject group of a number. -/
  | subject (group : Nat) (entry : Entry)
  /-- To a filter category. -/
  | choice (category : String) (entry : Entry)

namespace Addition

def apply (s : Selection) : Addition → Selection
  | subject group entry => s.pushSubject group entry
  | choice category entry => s.addFilter category entry

/-- The group that gets the entry. -/
def group? : Addition → Option Nat
  | subject group _ => some group
  | choice _ _ => none

/-- The category that gets the entry. -/
def category? : Addition → Option String
  | subject _ _ => none
  | choice category _ => some category

/-- What a group gets. -/
def toGroup (number : Nat) : Addition → List Entry
  | subject group entry => if group = number then [entry] else []
  | choice _ _ => []

/-- What a category gets. -/
def toCategory (name : String) : Addition → List Entry
  | subject _ _ => []
  | choice category entry => if category = name then [entry] else []

end Addition

open Addition (toGroup toCategory)

namespace Selection

/-- The selection after some additions. -/
def addAll (s : Selection) (additions : List Addition) : Selection :=
  additions.foldl Addition.apply s

/-- The entries of the group of a number, none if there is no such group. -/
def group (s : Selection) (number : Nat) : List Entry := s.groups[number]?.getD []

/-- All of a selection but its entries. -/
def settings (s : Selection) : Selection := { s with groups := [], filters := {} }

/-- One more than the largest number of a group among additions, zero if no group gets any. -/
def groupsReached (additions : List Addition) : Nat :=
  ((additions.filterMap Addition.group?).max?).elim 0 (· + 1)

/-- The categories that additions bring to a selection, in the order of their first entries. -/
def newCategories (s : Selection) (additions : List Addition) : List String :=
  ((additions.filterMap Addition.category?).filter fun name => name ∉ s.filters.names).eraseDups

variable {s t : Selection} {additions : List Addition}

/-! ## One entry more -/

/-- Groups are made up to the number, and the group of the number gets the entry at its end. -/
theorem pushTo_eq_modify (entry : Entry) (number : Nat) (groups : List (List Entry)) :
    pushTo entry number groups =
      (groups ++ List.replicate (number + 1 - groups.length) []).modify number (· ++ [entry]) := by
  induction number, groups using pushTo.induct with
  | case1 => rfl
  | case2 group rest => simp [pushTo]
  | case3 n ih =>
      rw [pushTo, ih]
      simp [List.replicate_succ]
  | case4 n group rest ih =>
      rw [pushTo, ih]
      simp

theorem length_pushTo (entry : Entry) (number : Nat) (groups : List (List Entry)) :
    (pushTo entry number groups).length = max groups.length (number + 1) := by
  rw [pushTo_eq_modify, List.length_modify, List.length_append, List.length_replicate]
  omega

theorem group_pushSubject (s : Selection) (group number : Nat) (entry : Entry) :
    (s.pushSubject group entry).group number =
      s.group number ++ if group = number then [entry] else [] := by
  have made : ∀ k, (s.groups ++ List.replicate k [])[number]?.getD [] = s.group number := by
    intro k
    rw [Selection.group, List.getElem?_append]
    split
    · rfl
    · rename_i beyond
      rw [List.getElem?_eq_none (Nat.le_of_not_lt beyond), List.getElem?_replicate]
      split <;> rfl
  rw [Selection.group, pushSubject, pushTo_eq_modify, List.getElem?_modify]
  by_cases here : group = number
  · subst here
    have within : group < (s.groups ++ List.replicate (group + 1 - s.groups.length) []).length := by
      rw [List.length_append, List.length_replicate]
      omega
    rw [← made (group + 1 - s.groups.length), List.getElem?_eq_getElem within]
    simp
  · simp [here, made]

/-! ## One addition -/

theorem group_apply (s : Selection) (number : Nat) (a : Addition) :
    (a.apply s).group number = s.group number ++ a.toGroup number := by
  cases a with
  | subject group entry => exact group_pushSubject s group number entry
  | choice category entry => exact (List.append_nil _).symm

theorem entriesOf_apply (s : Selection) (name : String) (a : Addition) :
    (a.apply s).filters.entriesOf name = s.filters.entriesOf name ++ a.toCategory name := by
  cases a with
  | subject group entry => exact (List.append_nil _).symm
  | choice category entry => exact Filters.entriesOf_extend s.filters category name [entry]

theorem names_apply (s : Selection) (a : Addition) :
    (a.apply s).filters.names =
      s.filters.names ++ a.category?.toList.filter fun name => name ∉ s.filters.names := by
  cases a with
  | subject group entry => exact (List.append_nil _).symm
  | choice category entry =>
      show (s.filters.extend category [entry]).names = _
      rw [Filters.names_extend]
      by_cases present : category ∈ s.filters.names <;> simp [Addition.category?, present]

theorem settings_apply (s : Selection) (a : Addition) : (a.apply s).settings = s.settings := by
  cases a <;> rfl

theorem length_groups_apply_le_iff (s : Selection) (a : Addition) (n : Nat) :
    (a.apply s).groups.length ≤ n ↔
      s.groups.length ≤ n ∧ ∀ number, a.toGroup number ≠ [] → number < n := by
  cases a with
  | subject group entry =>
      show (pushTo entry group s.groups).length ≤ n ↔ _
      rw [length_pushTo, Nat.max_le]
      refine and_congr_right fun _ => ⟨?_, fun below => below group (by simp [toGroup])⟩
      intro within number gets
      by_cases here : group = number
      · exact here ▸ within
      · exact absurd (if_neg here) gets
  | choice category entry => simp [Addition.apply, addFilter, toGroup]

/-! ## All additions -/

/-- **A group has its old entries** and, behind them, those that were pushed to it. -/
theorem group_addAll (s : Selection) (additions : List Addition) (number : Nat) :
    (s.addAll additions).group number = s.group number ++ additions.flatMap (toGroup number) :=
  foldl_append_part (fun t => t.group number) (fun t a => group_apply t number a) additions s

/-- **A category has its old entries** and, behind them, those that were added to it. -/
theorem entriesOf_addAll (s : Selection) (additions : List Addition) (name : String) :
    (s.addAll additions).filters.entriesOf name =
      s.filters.entriesOf name ++ additions.flatMap (toCategory name) :=
  foldl_append_part (fun t => t.filters.entriesOf name) (fun t a => entriesOf_apply t name a)
    additions s

theorem settings_addAll (s : Selection) (additions : List Addition) :
    (s.addAll additions).settings = s.settings := by
  have kept := foldl_last_part settings (fun _ => none) settings_apply additions s
  rwa [List.filterMap_none] at kept

/-- **New categories stand behind the old ones**, in the order in which they first come up. -/
theorem names_addAll (s : Selection) (additions : List Addition) :
    (s.addAll additions).filters.names = s.filters.names ++ s.newCategories additions := by
  have old : s.filters.names.eraseDups = s.filters.names := eraseDups_of_nodup s.filters.nodup
  have noted : (s.addAll additions).filters.names =
      (s.filters.names ++ additions.filterMap Addition.category?).eraseDups := by
    induction additions using List.reverseRecOn with
    | nil => simp [addAll, old]
    | append_singleton additions a ih =>
        have last : [a].filterMap Addition.category? = a.category?.toList := by cases a <;> rfl
        have once : a.category?.toList.eraseDups = a.category?.toList := by cases a <;> rfl
        rw [addAll] at ih ⊢
        rw [List.foldl_append, List.foldl_cons, List.foldl_nil, names_apply, ih,
          List.filterMap_append, last, ← List.append_assoc,
          eraseDups_append_eq _ a.category?.toList, once]
  rw [noted, eraseDups_append_eq, old, newCategories, eraseDups_filter]

theorem length_groups_addAll_le_iff (s : Selection) (additions : List Addition) (n : Nat) :
    (s.addAll additions).groups.length ≤ n ↔
      s.groups.length ≤ n ∧ ∀ number, additions.flatMap (toGroup number) ≠ [] → number < n := by
  induction additions generalizing s with
  | nil => simp [addAll]
  | cons a rest ih =>
      have first : s.addAll (a :: rest) = (a.apply s).addAll rest := rfl
      rw [first, ih, length_groups_apply_le_iff, and_assoc, ← forall_and]
      simp only [List.flatMap_cons, Ne, List.append_eq_nil_iff, not_and_or, or_imp]

theorem groupsReached_le_iff (additions : List Addition) (n : Nat) :
    groupsReached additions ≤ n ↔
      ∀ number, additions.flatMap (toGroup number) ≠ [] → number < n := by
  have reached : ∀ number, additions.flatMap (toGroup number) ≠ [] ↔
      number ∈ additions.filterMap Addition.group? := by
    intro number
    rw [Ne, List.flatMap_eq_nil_iff, List.mem_filterMap]
    push Not
    refine exists_congr fun a => and_congr_right fun _ => ?_
    cases a <;> simp [toGroup, Addition.group?]
  simp only [reached, groupsReached]
  cases largest : (additions.filterMap Addition.group?).max? with
  | none => simp [List.max?_eq_none_iff.1 largest]
  | some m =>
      obtain ⟨member, upper⟩ := List.max?_eq_some_iff.1 largest
      exact ⟨fun small number h => Nat.lt_of_le_of_lt (upper number h) small, fun h => h m member⟩

/-- **Groups are made up to the largest number** among the additions. -/
theorem length_groups_addAll (s : Selection) (additions : List Addition) :
    (s.addAll additions).groups.length = max s.groups.length (groupsReached additions) := by
  refine eq_of_forall_ge_iff fun n => ?_
  rw [length_groups_addAll_le_iff, Nat.max_le, groupsReached_le_iff]

/-- What is left of a selection and additions to it once their order is forgotten: each group and
each category with the old entries and the new ones, as many groups as it takes, the categories in
the order in which they came up, and all the rest of the selection. -/
structure Gathers (s : Selection) (additions : List Addition) (t : Selection) : Prop where
  length_groups : t.groups.length = max s.groups.length (groupsReached additions)
  group : ∀ number, t.group number = s.group number ++ additions.flatMap (toGroup number)
  names : t.filters.names = s.filters.names ++ s.newCategories additions
  entriesOf : ∀ name,
    t.filters.entriesOf name = s.filters.entriesOf name ++ additions.flatMap (toCategory name)
  settings : t.settings = s.settings

theorem gathers_addAll (s : Selection) (additions : List Addition) :
    s.Gathers additions (s.addAll additions) where
  length_groups := length_groups_addAll s additions
  group := group_addAll s additions
  names := names_addAll s additions
  entriesOf := entriesOf_addAll s additions
  settings := settings_addAll s additions

theorem eq_of_parts (length : s.groups.length = t.groups.length)
    (group : ∀ number, s.group number = t.group number)
    (names : s.filters.names = t.filters.names)
    (entries : ∀ name, s.filters.entriesOf name = t.filters.entriesOf name)
    (settings : s.settings = t.settings) : s = t := by
  have groups : s.groups = t.groups := by
    refine List.ext_getElem length fun number hs ht => ?_
    have same := group number
    rwa [Selection.group, Selection.group, List.getElem?_eq_getElem hs,
      List.getElem?_eq_getElem ht] at same
  have filters : s.filters = t.filters := Filters.ext_parts names entries
  calc s = { s.settings with groups := s.groups, filters := s.filters } := rfl
    _ = { t.settings with groups := t.groups, filters := t.filters } := by
        rw [settings, groups, filters]
    _ = t := rfl

/-- **Additions are gathered** group by group and category by category.  So sequences that bring the
same entries to each group and to each category, and new categories in the same order, come to the
same selection, however they interleave. -/
theorem addAll_gathers (s : Selection) (additions others : List Addition) :
    s.Gathers additions (s.addAll additions) ∧
      ((∀ number, additions.flatMap (toGroup number) = others.flatMap (toGroup number)) →
        (∀ name, additions.flatMap (toCategory name) = others.flatMap (toCategory name)) →
        s.newCategories additions = s.newCategories others →
        s.addAll additions = s.addAll others) := by
  refine ⟨s.gathers_addAll additions, fun groups categories new => ?_⟩
  have reached : groupsReached additions = groupsReached others :=
    eq_of_forall_ge_iff fun n => by simp only [groupsReached_le_iff, groups]
  apply eq_of_parts
  · rw [length_groups_addAll, length_groups_addAll, reached]
  · intro number
    rw [group_addAll, group_addAll, groups]
  · rw [names_addAll, names_addAll, new]
  · intro name
    rw [entriesOf_addAll, entriesOf_addAll, categories]
  · rw [settings_addAll, settings_addAll]

namespace Example

/-- A tag of a name. -/
def tag (name : String) : Entry := .custom { name }

/-- One group and one category, each with an entry, and a page that is not the first. -/
def started : Selection where
  groups := [[tag "a"]]
  filters := Filters.extend {} "type" [tag "b"]
  page := 3

/-- Each place in turn: a group far behind, a new category, an old group, an old category. -/
def spread : List Addition :=
  [.subject 3 (tag "c"), .choice "year" (tag "d"), .subject 0 (tag "e"), .choice "type" (tag "f"),
    .subject 3 (tag "g"), .choice "age" (tag "h"), .choice "year" (tag "i")]

/-- The same additions, place by place. -/
def sorted : List Addition :=
  [.choice "type" (tag "f"), .choice "year" (tag "d"), .choice "year" (tag "i"),
    .choice "age" (tag "h"), .subject 0 (tag "e"), .subject 3 (tag "c"), .subject 3 (tag "g")]

end Example

theorem addAll_gathers_of_interleaved :
    Example.started.addAll Example.spread = Example.started.addAll Example.sorted ∧
      (Example.started.addAll Example.spread).groups.length = 4 ∧
      (Example.started.addAll Example.spread).filters.names = ["type", "year", "age"] := by
  have gathered := addAll_gathers Example.started Example.spread Example.sorted
  refine ⟨gathered.2 ?_ ?_ (by decide), gathered.1.length_groups, gathered.1.names⟩
  · intro number
    by_cases zero : 0 = number
    · subst zero
      rfl
    · by_cases three : 3 = number
      · subst three
        rfl
      · simp [Example.spread, Example.sorted, toGroup, zero, three]
  · intro name
    by_cases year : "year" = name
    · subst year
      rfl
    · by_cases type : "type" = name <;> by_cases age : "age" = name <;>
        simp [Example.spread, Example.sorted, toCategory, year, type, age]

end Selection

end FacetedSearch
