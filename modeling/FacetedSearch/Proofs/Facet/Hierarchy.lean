/-
# FacetedSearch.Proofs.Facet.Hierarchy -- keys below and above a key

A key has a place for each of its three levels, and `child?`, `parent?` and `depth` look at these
places in orders of their own.  On well-formed keys they agree, as all of them speak of the row of
levels.  A key is below another one if it has the same group and, behind the levels of the other,
some finer ones (`Below`): its depth counts them in addition, and its text has them behind the text
of the other (`Below.depth_eq`, `Below.text_eq`).  For well-formed keys

* `child?_eq_some_iff`: the child of an index is the key below with just this finer level;
* `parent?_eq_some_iff`: the parent is the key that this one is below with just one finer level;
* `ancestor?_eq_some_iff`: taking parents `n` times leads to the key that this one is below with `n`
  finer levels.

So a key is the child of its parent and of no other well-formed key, at just one index
(`parent?_eq_some_iff_child?`, `Below.finer_unique`), and taking parents ends at the bare group
(`ancestor?_depth`, `ancestor?_eq_none_iff`).  `children_and_parents` puts all of this together.
-/
import FacetedSearch.Proofs.Facet.KeyTexts

namespace FacetedSearch.Facet.Key

set_option autoImplicit false

variable {k l m above c p : Key} {index : UInt32} {finer near far : List UInt32} {n : Nat}

/-! ## Keys below a key -/

/-- The group and the levels make up a well-formed key. -/
theorem WellFormed.eq_of_levels_eq (hk : k.WellFormed) (hl : l.WellFormed)
    (group : k.group = l.group) (levels : k.levels = l.levels) : k = l := by
  calc k = ofLevels k.group k.levels := hk.ofLevels_levels.symm
    _ = ofLevels l.group l.levels := by rw [group, levels]
    _ = l := hl.ofLevels_levels

theorem depth_le (k : Key) : k.depth ≤ 3 := length_levels_le k

/-- The key has the group and the levels of the other one, and the finer levels behind them. -/
structure Below (k above : Key) (finer : List UInt32) : Prop where
  group : k.group = above.group
  levels : k.levels = above.levels ++ finer

/-- The text of levels behind a key. -/
def levelsText (levels : List UInt32) : String :=
  String.ofList (levels.flatMap fun level => '.' :: Text.numeral level.toNat)

theorem levelsText_singleton (level : UInt32) :
    levelsText [level] = "." ++ Nat.repr level.toNat := by
  rw [levelsText, List.flatMap_singleton, ← List.singleton_append, String.ofList_append,
    Nat.repr_eq_ofList_toDigits]
  rfl

theorem levelsText_ne_empty (some_level : finer ≠ []) : levelsText finer ≠ "" := by
  obtain ⟨level, rest, rfl⟩ := List.exists_cons_of_ne_nil some_level
  intro empty
  have chars := congrArg String.toList empty
  simp [levelsText] at chars

theorem text_eq_append_levelsText (k : Key) : k.text = k.group ++ levelsText k.levels := by
  rw [text, chars, intercalate_points, List.flatMap_map, String.ofList_append, String.ofList_toList,
    levelsText]

namespace Below

theorem refl (k : Key) : k.Below k [] := ⟨rfl, (List.append_nil _).symm⟩

theorem trans (lower : k.Below m far) (upper : m.Below above near) :
    k.Below above (near ++ far) :=
  ⟨lower.group.trans upper.group, by rw [lower.levels, upper.levels, List.append_assoc]⟩

/-- Every key is below its group alone with all its levels. -/
theorem bare (k : Key) : k.Below { group := k.group } k.levels := ⟨rfl, rfl⟩

theorem finer_unique (first : k.Below above near) (second : k.Below above far) : near = far :=
  List.append_cancel_left (first.levels.symm.trans second.levels)

theorem depth_eq (below : k.Below above finer) : k.depth = above.depth + finer.length := by
  rw [depth, below.levels, List.length_append, depth]

theorem text_eq (below : k.Below above finer) : k.text = above.text ++ levelsText finer := by
  rw [text_eq_append_levelsText, text_eq_append_levelsText, below.group, below.levels, levelsText,
    List.flatMap_append, String.ofList_append, String.append_assoc, levelsText, levelsText]

/-- A key that is below with no finer level is the same key. -/
theorem eq_of_nil (below : k.Below above []) (hk : k.WellFormed) (habove : above.WellFormed) :
    k = above :=
  hk.eq_of_levels_eq habove below.group (below.levels.trans (List.append_nil _))

end Below

/-- Wherever the levels are cut, the key is below one that has the levels in front of the cut. -/
theorem WellFormed.exists_above (hk : k.WellFormed) (cut : k.levels = near ++ far) :
    ∃ m : Key, m.WellFormed ∧ m.group = k.group ∧ m.levels = near ∧ k.Below m far := by
  have short : near.length ≤ 3 := by
    have all := length_levels_le k
    rw [cut, List.length_append] at all
    omega
  have levels : (ofLevels k.group near).levels = near := levels_ofLevels k.group short
  exact ⟨ofLevels k.group near, wellFormed_ofLevels hk.group near, rfl, levels,
    ⟨rfl, by rw [levels, cut]⟩⟩

/-! ## Children -/

/-- A child has its index behind the levels, if there is a place for it. -/
theorem child?_ofLevels (group : String) {levels : List UInt32} (short : levels.length ≤ 3)
    (index : UInt32) : (ofLevels group levels).child? index =
      if levels.length < 3 then some (ofLevels group (levels ++ [index])) else none := by
  match levels, short with
  | [], _ => rfl
  | [_], _ => rfl
  | [_, _], _ => rfl
  | [_, _, _], _ => rfl

theorem WellFormed.child?_eq (hk : k.WellFormed) (index : UInt32) :
    k.child? index =
      if k.depth < 3 then some (ofLevels k.group (k.levels ++ [index])) else none := by
  conv => lhs; rw [← hk.ofLevels_levels]
  exact child?_ofLevels k.group (length_levels_le k) index

theorem WellFormed.child?_eq_none_iff (hk : k.WellFormed) :
    k.child? index = none ↔ k.depth = 3 := by
  have most := depth_le k
  rw [hk.child?_eq, ite_eq_right_iff]
  simp only [reduceCtorEq, imp_false]
  omega

/-- **The child of an index** is the key below with just this finer level. -/
theorem WellFormed.child?_eq_some_iff (hk : k.WellFormed) :
    k.child? index = some c ↔ c.WellFormed ∧ c.Below k [index] := by
  rw [hk.child?_eq, Option.ite_none_right_eq_some, Option.some.injEq]
  constructor
  · rintro ⟨room, rfl⟩
    have short : (k.levels ++ [index]).length ≤ 3 := by
      rw [List.length_append]
      exact room
    exact ⟨wellFormed_ofLevels hk.group _, rfl, levels_ofLevels k.group short⟩
  · rintro ⟨hc, below⟩
    have deeper : c.depth = k.depth + 1 := below.depth_eq
    have room : k.depth + 1 ≤ 3 := deeper ▸ depth_le c
    refine ⟨room, ?_⟩
    rw [← below.group, ← below.levels, hc.ofLevels_levels]

/-! ## Parents -/

/-- A parent lacks the last of the levels, if there is one. -/
theorem parent?_ofLevels (group : String) {levels : List UInt32} (short : levels.length ≤ 3) :
    (ofLevels group levels).parent? =
      if levels = [] then none else some (ofLevels group levels.dropLast) := by
  match levels, short with
  | [], _ => rfl
  | [_], _ => rfl
  | [_, _], _ => rfl
  | [_, _, _], _ => rfl

theorem WellFormed.parent?_eq (hk : k.WellFormed) :
    k.parent? = if k.levels = [] then none else some (ofLevels k.group k.levels.dropLast) := by
  conv => lhs; rw [← hk.ofLevels_levels]
  exact parent?_ofLevels k.group (length_levels_le k)

/-- **The parent** is the key that this one is below with just one finer level. -/
theorem WellFormed.parent?_eq_some_iff (hk : k.WellFormed) :
    k.parent? = some p ↔ p.WellFormed ∧ ∃ index, k.Below p [index] := by
  rw [hk.parent?_eq, Option.ite_none_left_eq_some, Option.some.injEq]
  constructor
  · rintro ⟨some_level, rfl⟩
    have cut := (List.dropLast_concat_getLast some_level).symm
    obtain ⟨m, hm, group, levels, below⟩ := hk.exists_above cut
    rw [← group, ← levels, hm.ofLevels_levels]
    exact ⟨hm, _, below⟩
  · rintro ⟨hp, index, below⟩
    refine ⟨by simp [below.levels], ?_⟩
    rw [below.group, below.levels, List.dropLast_concat, hp.ofLevels_levels]

/-- **Parents and children undo each other.** -/
theorem WellFormed.parent?_eq_some_iff_child? (hk : k.WellFormed) (hp : p.WellFormed) :
    k.parent? = some p ↔ ∃ index, p.child? index = some k := by
  simp only [hk.parent?_eq_some_iff, hp.child?_eq_some_iff, hk, hp, true_and]

/-- A child that fills a gap has another parent. -/
example :
    let gap : Key := ⟨"onc", none, some 2, none⟩
    (gap.child? 1).bind parent? = some ⟨"onc", some 1, none, none⟩ := by
  decide

/-! ## Ancestors -/

/-- The key that taking parents so many times leads to. -/
def ancestor? (k : Key) : Nat → Option Key
  | 0 => some k
  | n + 1 => (k.ancestor? n).bind parent?

/-- **Taking parents `n` times** leads to the key that this one is below with `n` finer levels. -/
theorem WellFormed.ancestor?_eq_some_iff (hk : k.WellFormed) :
    k.ancestor? n = some above ↔
      above.WellFormed ∧ ∃ finer, finer.length = n ∧ k.Below above finer := by
  induction n generalizing above with
  | zero =>
      simp only [ancestor?, Option.some.injEq, List.length_eq_zero_iff, exists_eq_left]
      constructor
      · rintro rfl
        exact ⟨hk, .refl k⟩
      · rintro ⟨habove, below⟩
        exact below.eq_of_nil hk habove
  | succ n ih =>
      rw [ancestor?, Option.bind_eq_some_iff]
      constructor
      · rintro ⟨m, reached, parent⟩
        obtain ⟨hm, far, length, lower⟩ := ih.1 reached
        obtain ⟨habove, index, upper⟩ := hm.parent?_eq_some_iff.1 parent
        exact ⟨habove, _, by simp [length], lower.trans upper⟩
      · rintro ⟨habove, finer, length, below⟩
        obtain ⟨index, far, rfl⟩ := List.exists_cons_of_length_eq_add_one length
        -- one step earlier the key with one more level is reached
        have cut : k.levels = (above.levels ++ [index]) ++ far := by
          rw [below.levels, List.append_assoc, List.singleton_append]
        obtain ⟨m, hm, group, levels, lower⟩ := hk.exists_above cut
        have upper : m.Below above [index] := ⟨group.trans below.group, levels⟩
        exact ⟨m, ih.2 ⟨hm, far, Nat.succ.inj length, lower⟩,
          hm.parent?_eq_some_iff.2 ⟨habove, index, upper⟩⟩

/-- Parents can be taken as often as there are levels, and not once more. -/
theorem WellFormed.ancestor?_eq_none_iff (hk : k.WellFormed) :
    k.ancestor? n = none ↔ k.depth < n := by
  constructor
  · intro none
    refine Nat.lt_of_not_le fun within => ?_
    have cut := (List.take_append_drop (k.depth - n) k.levels).symm
    obtain ⟨m, hm, -, -, below⟩ := hk.exists_above cut
    have length : (k.levels.drop (k.depth - n)).length = n := by
      rw [List.length_drop]
      exact Nat.sub_sub_self within
    rw [hk.ancestor?_eq_some_iff.2 ⟨hm, _, length, below⟩] at none
    cases none
  · intro beyond
    refine Option.eq_none_iff_forall_ne_some.2 fun above reached => ?_
    obtain ⟨-, finer, length, below⟩ := hk.ancestor?_eq_some_iff.1 reached
    have deep := below.depth_eq
    omega

/-- The last ancestor is the bare group. -/
theorem WellFormed.ancestor?_depth (hk : k.WellFormed) :
    k.ancestor? k.depth = some { group := k.group } :=
  hk.ancestor?_eq_some_iff.2 ⟨wellFormed_ofLevels hk.group [], k.levels, rfl, .bare k⟩

/-! ## Together -/

/-- **Children and parents.**  A well-formed key of less than three levels has a child for every
index: a well-formed key one level deeper, whose parent it is and whose text has the index behind a
point.  The parent of a key is the key that has it as a child, at just one index.  Taking parents
goes through well-formed keys, whose texts the text of the key continues, down to the bare group and
no further. -/
theorem children_and_parents {k : Key} (wellFormed : k.WellFormed) :
    (∀ index, (k.child? index = none ↔ k.depth = 3) ∧
      ∀ c, k.child? index = some c → c.WellFormed ∧ c.parent? = some k ∧
        c.depth = k.depth + 1 ∧ c.text = k.text ++ "." ++ Nat.repr index.toNat) ∧
    (∀ p : Key, p.WellFormed → (k.parent? = some p ↔ ∃ index, p.child? index = some k) ∧
      ∀ i j, p.child? i = some k → p.child? j = some k → i = j) ∧
    (∀ n, k.ancestor? n = none ↔ k.depth + 1 ≤ n) ∧
    (∀ n above, 0 < n → k.ancestor? n = some above →
      above.WellFormed ∧ ∃ rest, rest ≠ "" ∧ k.text = above.text ++ rest) ∧
    k.ancestor? k.depth = some { group := k.group } := by
  refine ⟨fun index => ⟨wellFormed.child?_eq_none_iff, ?_⟩, ?_,
    fun n => wellFormed.ancestor?_eq_none_iff, ?_, wellFormed.ancestor?_depth⟩
  · intro c child
    obtain ⟨hc, below⟩ := wellFormed.child?_eq_some_iff.1 child
    refine ⟨hc, hc.parent?_eq_some_iff.2 ⟨wellFormed, index, below⟩, below.depth_eq, ?_⟩
    rw [below.text_eq, levelsText_singleton, String.append_assoc]
  · intro p hp
    refine ⟨wellFormed.parent?_eq_some_iff_child? hp, fun i j first second => ?_⟩
    have same := (hp.child?_eq_some_iff.1 first).2.finer_unique (hp.child?_eq_some_iff.1 second).2
    exact List.singleton_inj.1 same
  · intro n above steps reached
    obtain ⟨habove, finer, length, below⟩ := wellFormed.ancestor?_eq_some_iff.1 reached
    have some_level : finer ≠ [] := List.ne_nil_of_length_pos (length ▸ steps)
    exact ⟨habove, levelsText finer, levelsText_ne_empty some_level, below.text_eq⟩

namespace Example

/-- A key of the least and the greatest level, with room for one more. -/
def extreme : Key := ⟨"a1", some 0, some 4294967295, none⟩

end Example

open Example in
theorem children_and_parents_of_extreme :
    extreme.WellFormed ∧ extreme.text = "a1.0.4294967295" ∧
      (∃ c, extreme.child? 0 = some c ∧ c.parent? = some extreme ∧ c.depth = 3 ∧
        c.text = "a1.0.4294967295.0") ∧
      extreme.parent? = some ⟨"a1", some 0, none, none⟩ ∧
      (∃ above, extreme.ancestor? 1 = some above ∧
        ∃ rest, rest ≠ "" ∧ extreme.text = above.text ++ rest) ∧
      extreme.ancestor? 2 = some ⟨"a1", none, none, none⟩ ∧ extreme.ancestor? 3 = none := by
  have wellFormed : extreme.WellFormed := by decide
  have text : extreme.text = "a1.0.4294967295" := by decide
  obtain ⟨children, parents, ended, ancestors, bare⟩ := children_and_parents wellFormed
  have child : extreme.child? 0 = some ⟨"a1", some 0, some 4294967295, some 0⟩ := rfl
  have above : extreme.ancestor? 1 = some ⟨"a1", some 0, none, none⟩ := rfl
  obtain ⟨-, parent, depth, written⟩ := (children 0).2 _ child
  refine ⟨wellFormed, text, ⟨_, child, parent, depth, written.trans ?_⟩, ?_,
    ⟨_, above, (ancestors 1 _ (by decide) above).2⟩, bare, (ended 3).2 (by decide)⟩
  · rw [text]
    decide
  · exact (parents _ (by decide)).1.2 ⟨4294967295, rfl⟩

end FacetedSearch.Facet.Key
