/-
# FacetedSearch.Proofs.Runs -- steps taken one after another

A run takes the items of a list one by one, and what is true of a run comes from what is true of a
step.  Three kinds of runs occur:

* each step adds a part to a list or sets a value: the run adds all parts in their order
  (`foldl_append_part`) and leaves the value that was set last (`foldl_last_part`);
* names are noted when they first come up (`eraseDups_append_eq`);
* each step may refuse its item because of a problem with it behind the earlier ones: the run goes
  through if and only if no item has a problem, and else the first that has one is why it is refused
  (`Taking.exists_run_iff`, `Taking.run_eq_error_iff`).
-/
import Mathlib.Data.List.Basic
import Mathlib.Data.List.Induction

namespace FacetedSearch

set_option autoImplicit false

/-! ## Parts -/

section Parts

variable {σ π α : Type} {step : σ → π → σ}

/-- If each step adds its part to a list, a run adds all parts in order. -/
theorem foldl_append_part (view : σ → List α) {part : π → List α}
    (adds : ∀ s p, view (step s p) = view s ++ part p) (ps : List π) (s : σ) :
    view (ps.foldl step s) = view s ++ ps.flatMap part := by
  induction ps generalizing s with
  | nil => simp
  | cons p rest ih => rw [List.foldl_cons, ih, adds, List.flatMap_cons, List.append_assoc]

/-- If each step may set a value, a run leaves the value that was set last. -/
theorem foldl_last_part (view : σ → α) (part? : π → Option α)
    (sets : ∀ s p, view (step s p) = (part? p).getD (view s)) (ps : List π) (s : σ) :
    view (ps.foldl step s) = ((ps.filterMap part?).getLast?).getD (view s) := by
  induction ps generalizing s with
  | nil => rfl
  | cons p rest ih =>
      rw [List.foldl_cons, ih, sets]
      cases set : part? p with
      | none => rw [List.filterMap_cons_none set, Option.getD_none]
      | some value =>
          rw [List.filterMap_cons_some set, List.getLast?_cons, Option.getD_some, Option.getD_some]

end Parts

/-! ## First occurrences -/

section FirstOccurrences

variable {α : Type} [DecidableEq α]

/-- Leaving out members leaves the order of first occurrences. -/
theorem eraseDups_filter (p : α → Bool) : (xs : List α) →
    (xs.filter p).eraseDups = xs.eraseDups.filter p
  | [] => rfl
  | x :: rest => by
      have ih := eraseDups_filter p (rest.filter fun y => !y == x)
      rw [List.eraseDups_cons]
      by_cases kept : p x = true
      · rw [List.filter_cons_of_pos kept, List.filter_cons_of_pos kept, List.eraseDups_cons, ← ih,
          List.filter_comm]
      · have left_out : (rest.filter fun y => !y == x).filter p = rest.filter p := by
          rw [List.filter_filter]
          refine List.filter_congr fun y _ => ?_
          by_cases same : y = x <;> simp_all
        rw [List.filter_cons_of_neg kept, List.filter_cons_of_neg kept, ← ih, left_out]
termination_by xs => xs.length
decreasing_by exact Nat.lt_succ_of_le (List.length_filter_le _ _)

/-- What comes later adds only what is new. -/
theorem eraseDups_append_eq (xs ys : List α) :
    (xs ++ ys).eraseDups = xs.eraseDups ++ ys.eraseDups.filter fun y => y ∉ xs.eraseDups := by
  have new : ys.removeAll xs = ys.filter fun y => y ∉ xs.eraseDups := by
    unfold List.removeAll
    exact List.filter_congr fun y _ => by simp
  rw [List.eraseDups_append, new, eraseDups_filter]

theorem eraseDups_of_nodup {xs : List α} (nodup : xs.Nodup) : xs.eraseDups = xs := by
  induction xs with
  | nil => rfl
  | cons x rest ih =>
      rw [List.nodup_cons] at nodup
      have others : (rest.filter fun y => !y == x) = rest :=
        List.filter_eq_self.2 fun y hy => by
          simpa using fun same : y = x => nodup.1 (same ▸ hy)
      rw [List.eraseDups_cons, others, ih nodup.2]

end FirstOccurrences

/-! ## Refusals -/

section Refusals

variable {σ π ε : Type}

/-- No item has a problem behind the items before it. -/
def FreeOf (Problem : List π → π → ε → Prop) (ps : List π) : Prop :=
  ∀ earlier p later e, ps = earlier ++ p :: later → ¬Problem earlier p e

/-- The problem of the first item that has one. -/
def FirstOf (Problem : List π → π → ε → Prop) (ps : List π) (e : ε) : Prop :=
  ∃ earlier p later, ps = earlier ++ p :: later ∧ FreeOf Problem earlier ∧ Problem earlier p e

variable {Problem : List π → π → ε → Prop} {ps : List π} {p : π} {e : ε}

theorem freeOf_nil : FreeOf Problem [] := by
  rintro earlier p later e cut
  simp at cut

theorem freeOf_concat : FreeOf Problem (ps ++ [p]) ↔ FreeOf Problem ps ∧ ∀ e, ¬Problem ps p e := by
  constructor
  · intro free
    refine ⟨fun earlier q later e cut => ?_, fun e => free ps p [] e rfl⟩
    exact free earlier q (later ++ [p]) e (by rw [cut, List.append_assoc]; rfl)
  · rintro ⟨before, last⟩ earlier q later e cut
    rcases List.eq_nil_or_concat' later with rfl | ⟨between, x, rfl⟩
    · obtain ⟨rfl, rfl⟩ := List.append_singleton_inj.1 cut
      exact last e
    · rw [← List.cons_append, ← List.append_assoc] at cut
      exact before earlier q between e (List.append_singleton_inj.1 cut).1

/-- Steps from a start that take one item each, or refuse it for its problem behind the earlier
ones.  What is taken is told by the state that the steps have come to. -/
structure Taking (step : σ → π → Except ε σ) (start : σ) (Taken : σ → List π → Prop)
    (Problem : List π → π → ε → Prop) : Prop where
  start : Taken start []
  takes : ∀ {s ps p t}, Taken s ps → step s p = .ok t → Taken t (ps ++ [p])
  refuses : ∀ {s ps p e}, Taken s ps → (step s p = .error e ↔ Problem ps p e)

namespace Taking

variable {step : σ → π → Except ε σ} {start s t : σ} {Taken : σ → List π → Prop}

theorem foldlM_concat (step : σ → π → Except ε σ) (s : σ) (ps : List π) (p : π) :
    (ps ++ [p]).foldlM step s = ps.foldlM step s >>= fun t => step t p := by
  simp only [List.foldlM_append, List.foldlM_cons, List.foldlM_nil, bind_pure]

/-- A run that goes through has taken all items. -/
theorem taken_of_run (laws : Taking step start Taken Problem)
    (run : ps.foldlM step start = .ok t) : Taken t ps := by
  induction ps using List.reverseRecOn generalizing t with
  | nil => exact Except.ok.inj run ▸ laws.start
  | append_singleton ps p ih =>
      rw [foldlM_concat] at run
      cases before : ps.foldlM step start with
      | error refusal => rw [before] at run; cases run
      | ok s =>
          rw [before] at run
          exact laws.takes (ih before) run

theorem exists_step_iff (laws : Taking step start Taken Problem) (taken : Taken s ps) :
    (∃ t, step s p = .ok t) ↔ ∀ e, ¬Problem ps p e := by
  simp only [← laws.refuses taken]
  cases step s p with
  | error refusal => simp
  | ok t => simp

/-- **A run goes through** if and only if no item has a problem. -/
theorem exists_run_iff (laws : Taking step start Taken Problem) :
    (∃ t, ps.foldlM step start = .ok t) ↔ FreeOf Problem ps := by
  induction ps using List.reverseRecOn with
  | nil => exact ⟨fun _ => freeOf_nil, fun _ => ⟨start, rfl⟩⟩
  | append_singleton ps p ih =>
      rw [freeOf_concat, ← ih, foldlM_concat]
      cases before : ps.foldlM step start with
      | error refusal => simp [bind, Except.bind]
      | ok s =>
          rw [← laws.exists_step_iff (laws.taken_of_run before)]
          simp [bind, Except.bind]

/-- **A run is refused** for the problem of the first item that has one. -/
theorem run_eq_error_iff (laws : Taking step start Taken Problem) :
    ps.foldlM step start = .error e ↔ FirstOf Problem ps e := by
  constructor
  · intro refused
    induction ps using List.reverseRecOn with
    | nil => cases refused
    | append_singleton ps p ih =>
        rw [foldlM_concat] at refused
        cases before : ps.foldlM step start with
        | error refusal =>
            rw [before] at refused
            obtain rfl : refusal = e := Except.error.inj refused
            obtain ⟨earlier, q, later, rfl, free, problem⟩ := ih before
            exact ⟨earlier, q, later ++ [p], by simp, free, problem⟩
        | ok s =>
            rw [before] at refused
            have problem := (laws.refuses (laws.taken_of_run before)).1 refused
            exact ⟨ps, p, [], rfl, laws.exists_run_iff.1 ⟨s, before⟩, problem⟩
  · rintro ⟨earlier, p, later, rfl, free, problem⟩
    obtain ⟨s, before⟩ := laws.exists_run_iff.2 free
    rw [← laws.refuses (laws.taken_of_run before)] at problem
    rw [List.foldlM_append, before]
    show List.foldlM step s (p :: later) = .error e
    rw [List.foldlM_cons, problem]
    rfl

end Taking

end Refusals

end FacetedSearch
