/-
# FacetedSearch.Proofs.Catalog.Sorting -- sorting by numbers

Siblings are sorted by their order, and so are categories.  Nothing gets lost and ties stay as they
were written: `Reordered` says that a list has the members of another and leaves those with the same
number in their sequence, and `StablySorted` that it ascends besides.  A list can be sorted in one
way only (`StablySorted.eq_byOrder`), so whatever else was rearranged before makes no difference
(`byOrder_eq_of_reordered`).
-/
import FacetedSearch.Facet.Tree
import Mathlib.Data.List.Permutation

namespace FacetedSearch.Facet

set_option autoImplicit false

variable {α : Type} {order : α → Int} {a b : List α}

/-- The second list has the members of the first, those with the same number in the same
sequence. -/
structure Reordered (order : α → Int) (a b : List α) : Prop where
  perm : b.Perm a
  ties : ∀ n, (b.filter fun x => order x = n) = a.filter fun x => order x = n

/-- The second list is the first in ascending order, and ties stay as they were. -/
structure StablySorted (order : α → Int) (a b : List α) : Prop extends Reordered order a b where
  ascending : b.Pairwise fun x y => order x ≤ order y

theorem byOrder_perm (order : α → Int) (members : List α) : (byOrder order members).Perm members :=
  List.mergeSort_perm members _

theorem byOrder_map {β : Type} (order : β → Int) (f : α → β) (members : List α) :
    byOrder order (members.map f) = (byOrder (fun x => order (f x)) members).map f := by
  rw [byOrder, byOrder, List.map_mergeSort]
  intro a _ b _
  rfl

theorem stablySorted_byOrder (order : α → Int) (members : List α) :
    StablySorted order members (byOrder order members) := by
  have transitive : ∀ x y z : α, decide (order x ≤ order y) = true →
      decide (order y ≤ order z) = true → decide (order x ≤ order z) = true := by
    intro x y z first second
    rw [decide_eq_true_eq] at first second ⊢
    exact Int.le_trans first second
  have total : ∀ x y : α, (decide (order x ≤ order y) || decide (order y ≤ order x)) = true := by
    intro x y
    rw [Bool.or_eq_true, decide_eq_true_eq, decide_eq_true_eq]
    exact Int.le_total _ _
  refine ⟨⟨byOrder_perm order members, fun n => ?_⟩, ?_⟩
  · -- members with one number ascend as they are, so sorting leaves them in sequence
    have tied : (members.filter fun x => order x = n).Pairwise
        fun x y => decide (order x ≤ order y) = true := by
      rw [List.pairwise_filter]
      refine List.pairwise_of_forall fun x y hx hy => ?_
      rw [decide_eq_true_eq] at hx hy ⊢
      omega
    have kept : (members.filter fun x => order x = n).Sublist (byOrder order members) :=
      List.sublist_mergeSort transitive total tied List.filter_sublist
    have within := kept.filter fun x => decide (order x = n)
    simp only [List.filter_filter, Bool.and_self] at within
    have as_many := ((byOrder_perm order members).filter fun x => decide (order x = n)).length_eq
    exact (within.eq_of_length as_many.symm).symm
  · have ascending := List.pairwise_mergeSort transitive total members
    simp only [decide_eq_true_eq] at ascending
    exact ascending

theorem mem_of_ties (ties : ∀ n, (a.filter fun x => order x = n) = b.filter fun x => order x = n)
    {x : α} (member : x ∈ b) : x ∈ a := by
  have tied : x ∈ b.filter fun y => order y = order x :=
    List.mem_filter.2 ⟨member, decide_eq_true rfl⟩
  rw [← ties] at tied
  exact (List.mem_filter.1 tied).1

/-- Lists that ascend and have the same ties are equal. -/
theorem eq_of_ties (ha : a.Pairwise fun x y => order x ≤ order y)
    (hb : b.Pairwise fun x y => order x ≤ order y)
    (ties : ∀ n, (a.filter fun x => order x = n) = b.filter fun x => order x = n) : a = b := by
  induction a generalizing b with
  | nil =>
      refine (List.eq_nil_iff_forall_not_mem.2 fun x member => ?_).symm
      exact List.not_mem_nil (mem_of_ties ties member)
  | cons x a ih =>
      cases b with
      | nil =>
          have member : x ∈ [] := mem_of_ties (fun n => (ties n).symm) List.mem_cons_self
          cases member
      | cons y b =>
          have least {z w : α} {rest : List α}
              (ascending : (z :: rest).Pairwise fun x y => order x ≤ order y)
              (member : w ∈ z :: rest) : order z ≤ order w := by
            rcases List.mem_cons.1 member with rfl | member
            · exact Int.le_refl _
            · exact List.rel_of_pairwise_cons ascending member
          -- both heads have the least number, and of its ties they are the first
          have same : order x = order y := Int.le_antisymm
            (least ha (mem_of_ties ties List.mem_cons_self))
            (least hb (mem_of_ties (fun n => (ties n).symm) List.mem_cons_self))
          have heads := ties (order x)
          simp only [List.filter_cons, same, decide_true, if_true] at heads
          obtain rfl : x = y := (List.cons.inj heads).1
          refine congrArg (x :: ·) (ih ha.tail hb.tail fun n => ?_)
          have tails := ties n
          by_cases here : order x = n
          · simp only [List.filter_cons, here, decide_true, if_true] at tails
            exact (List.cons.inj tails).2
          · simpa only [List.filter_cons, here, decide_false, Bool.false_eq_true, if_false]
              using tails

/-- **There is one way to sort.** -/
theorem StablySorted.eq_byOrder (sorting : StablySorted order a b) : b = byOrder order a := by
  have sorted := stablySorted_byOrder order a
  refine eq_of_ties sorting.ascending sorted.ascending fun n => ?_
  rw [sorting.ties, sorted.ties]

/-- Whatever was rearranged before makes no difference. -/
theorem byOrder_eq_of_reordered (reordered : Reordered order a b) :
    byOrder order a = byOrder order b := by
  have sorted := stablySorted_byOrder order b
  refine (StablySorted.eq_byOrder ⟨⟨sorted.perm.trans reordered.perm, fun n => ?_⟩,
    sorted.ascending⟩).symm
  rw [sorted.ties, reordered.ties]

theorem Reordered.refl (order : α → Int) (a : List α) : Reordered order a a :=
  ⟨.refl a, fun _ => rfl⟩

/-- Neighbours with different numbers may change places. -/
theorem Reordered.swap {x y : α} (different : order x ≠ order y) (rest : List α) :
    Reordered order (x :: y :: rest) (y :: x :: rest) := by
  refine ⟨.swap x y rest, fun n => ?_⟩
  by_cases hx : order x = n
  · have hy : order y ≠ n := fun hy => different (hx.trans hy.symm)
    simp [hx, hy]
  · simp [List.filter_cons, hx]

theorem Reordered.map {β : Type} {f : α → β} {order' : β → Int} (reordered : Reordered order a b)
    (same : ∀ x, order' (f x) = order x) : Reordered order' (a.map f) (b.map f) := by
  refine ⟨reordered.perm.map f, fun n => ?_⟩
  have tied (list : List α) : ((list.map f).filter fun y => order' y = n) =
      (list.filter fun x => order x = n).map f := by
    rw [List.filter_map]
    simp only [Function.comp_def, same]
  rw [tied, tied, reordered.ties]

end FacetedSearch.Facet
