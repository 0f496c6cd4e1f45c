/-
# FacetedSearch.Proofs.Text.Outermost -- cutting a text outside parentheses

`cutOutside sep` cuts a text at the occurrences of a separator that begin outside all parentheses,
and leaves those inside alone.  For closed texts that a keyword joins, the cuts are where they were
joined and nowhere else (`cutOutside_intercalate`): an occurrence that began in one of the texts
would have the keyword as a whole word there, even if it ran on into the separator behind the text,
since a keyword holds no blank (`not_begins_of_closed`).
-/
import FacetedSearch.Proofs.Text.Parentheses
import FacetedSearch.Text.Pieces

namespace FacetedSearch.Text

set_option autoImplicit false

/-- The pieces of a text, cut at depth `d`, whose first `skip` characters still belong to an
occurrence of `sep`. -/
def splitAtDepth (sep : List Char) : Nat → Int → List Char → List (List Char)
  | _, _, [] => [[]]
  | skip + 1, d, c :: rest => splitAtDepth sep skip (d - turn c) rest
  | 0, d, c :: rest =>
    if d = 0 ∧ sep <+: c :: rest then [] :: splitAtDepth sep (sep.length - 1) (d - turn c) rest
    else prependChar c (splitAtDepth sep 0 (d - turn c) rest)

/-- The pieces of a text between the occurrences of `sep` outside parentheses. -/
def cutOutside (sep text : List Char) : List (List Char) := splitAtDepth sep 0 0 text

variable {sep text keyword : List Char} {d : Int}

/-! ## Cutting -/

theorem foldr_prependChar (text piece : List Char) (pieces : List (List Char)) :
    text.foldr prependChar (piece :: pieces) = (text ++ piece) :: pieces := by
  induction text with
  | nil => rfl
  | cons c text ih =>
      rw [List.foldr_cons, ih]
      rfl

theorem splitAtDepth_skip (sep skipped rest : List Char) (d : Int) :
    splitAtDepth sep skipped.length d (skipped ++ rest) =
      splitAtDepth sep 0 (d - depth skipped) rest := by
  induction skipped generalizing d with
  | nil => rw [depth_nil, Int.sub_zero]; rfl
  | cons c skipped ih =>
      have hdepth : d - turn c - depth skipped = d - depth (c :: skipped) := by
        rw [depth_cons]
        omega
      rw [List.length_cons, List.cons_append, splitAtDepth, ih, hdepth]

/-- A text in which no occurrence begins at the depth of the cut stays in one piece. -/
theorem splitAtDepth_append {rest : List Char}
    (absent : ∀ before c after, text = before ++ c :: after → depth before = d →
      ¬ sep <+: c :: after ++ rest) :
    splitAtDepth sep 0 d (text ++ rest) =
      text.foldr prependChar (splitAtDepth sep 0 (d - depth text) rest) := by
  induction text generalizing d with
  | nil => rw [depth_nil, Int.sub_zero]; rfl
  | cons c text ih =>
      have here : ¬ (d = 0 ∧ sep <+: c :: (text ++ rest)) := by
        rintro ⟨rfl, begins⟩
        exact absent [] c text rfl rfl begins
      have later := ih (d := d - turn c) fun before x after same at_depth => by
        refine absent (c :: before) x after (by rw [same]; rfl) ?_
        rw [depth_cons, at_depth]
        omega
      have hdepth : d - turn c - depth text = d - depth (c :: text) := by
        rw [depth_cons]
        omega
      rw [List.cons_append, splitAtDepth, if_neg here, later, hdepth]
      rfl

/-- The cut at an occurrence outside parentheses. -/
theorem cutOutside_append (hne : sep ≠ []) (balanced : Balanced sep) (rest : List Char) :
    cutOutside sep (sep ++ rest) = [] :: cutOutside sep rest := by
  obtain ⟨c, tail, rfl⟩ := List.exists_cons_of_ne_nil hne
  have begins : c :: tail <+: c :: (tail ++ rest) := List.prefix_append _ _
  have hdepth : (0 : Int) - turn c - depth tail = 0 := by
    have := balanced.depth_eq_zero
    rw [depth_cons] at this
    omega
  rw [cutOutside, List.cons_append, splitAtDepth, if_pos ⟨rfl, begins⟩, List.length_cons,
    Nat.add_sub_cancel, splitAtDepth_skip, hdepth, cutOutside]

/-! ## Joints -/

theorem blank_notMem_keyword (hk : keyword ∈ operators) : ' ' ∉ keyword := by
  have hall : ∀ k ∈ operators, ' ' ∉ k := by decide
  exact hall keyword hk

theorem joint_ne_nil (keyword : List Char) : joint keyword ≠ [] := List.cons_ne_nil _ _

theorem balanced_joint (hk : keyword ∈ operators) : Balanced (joint keyword) := by
  have hall : ∀ k ∈ operators, Balanced (joint k) := by decide
  exact hall keyword hk

/-- A text that begins with a keyword, and a blank or its end behind it, has the keyword. -/
theorem keyword_mem_keywordsAt (hk : keyword ∈ operators) {behind : List Char}
    (ends : behind = [] ∨ ∃ more, behind = ' ' :: more) :
    keyword ∈ keywordsAt 0 (keyword ++ behind) := by
  rcases ends with rfl | ⟨more, rfl⟩
  · rw [List.append_nil, keywordsAt_keyword hk]
    exact List.mem_singleton_self keyword
  · rw [keywordsAt_append_blank (balanced_of_mem_operators hk).depth_eq_zero,
      keywordsAt_keyword hk]
    exact List.mem_append_left _ (List.mem_singleton_self keyword)

/-- A keyword with a blank behind it ends where the text in front of a blank ends, or before. -/
theorem append_of_append_blank {after rest tail : List Char} (noblank : ' ' ∉ keyword)
    (ends : rest = [] ∨ ∃ more, rest = ' ' :: more)
    (same : keyword ++ ' ' :: tail = after ++ rest) :
    ∃ behind, after = keyword ++ behind ∧ (behind = [] ∨ ∃ more, behind = ' ' :: more) := by
  rcases List.append_eq_append_iff.1 same with ⟨behind, rfl, hrest⟩ | ⟨beyond, hkeyword, hrest⟩
  · refine ⟨behind, rfl, ?_⟩
    cases behind with
    | nil => exact .inl rfl
    | cons x more =>
        obtain ⟨rfl, -⟩ := List.cons.inj hrest
        exact .inr ⟨more, rfl⟩
  · refine ⟨[], ?_, .inl rfl⟩
    cases beyond with
    | nil => rw [hkeyword, List.append_nil, List.append_nil]
    | cons x beyond =>
        -- the keyword would run over the blank that follows the text
        have hblank : x = ' ' := by
          rcases ends with rfl | ⟨more, rfl⟩
          · cases hrest
          · exact (List.cons.inj hrest).1.symm
        rw [hkeyword, hblank] at noblank
        simp at noblank

/-- No joint begins outside parentheses in a closed text, not even one that the blank behind the
text would complete. -/
theorem not_begins_of_closed (hk : keyword ∈ operators) (closed : Closed text) {rest : List Char}
    (ends : rest = [] ∨ ∃ more, rest = ' ' :: more) :
    ∀ before c after, text = before ++ c :: after → depth before = 0 →
      ¬ joint keyword <+: c :: after ++ rest := by
  rintro before c after rfl outside ⟨tail, same⟩
  rw [joint, List.cons_append, List.cons_append, List.append_assoc] at same
  obtain ⟨rfl, inside⟩ := List.cons.inj same
  obtain ⟨behind, rfl, hbehind⟩ := append_of_append_blank (blank_notMem_keyword hk) ends inside
  have none := closed.keywords
  rw [keywordsAt_append_blank outside] at none
  have member := keyword_mem_keywordsAt hk hbehind
  rw [(List.append_eq_nil_iff.1 none).2] at member
  cases member

/-- **Closed texts are the pieces of what they are joined to**, cut at the joints outside
parentheses. -/
theorem cutOutside_intercalate (hk : keyword ∈ operators) {texts : List (List Char)}
    (hne : texts ≠ []) (closed : ∀ text ∈ texts, Closed text) :
    cutOutside (joint keyword) ((joint keyword).intercalate texts) = texts := by
  induction texts with
  | nil => exact absurd rfl hne
  | cons text rest ih =>
      have first := closed text List.mem_cons_self
      cases rest with
      | nil =>
          have whole := splitAtDepth_append (not_begins_of_closed hk first (.inl rfl))
          rw [List.append_nil, first.balanced.depth_eq_zero] at whole
          rw [List.intercalate_singleton, cutOutside, whole, Int.sub_zero, splitAtDepth,
            foldr_prependChar, List.append_nil]
      | cons next rest =>
          have others := ih (by simp) fun t ht => closed t (List.mem_cons_of_mem _ ht)
          have blank : ∃ more, joint keyword ++ (joint keyword).intercalate (next :: rest) =
              ' ' :: more := ⟨_, rfl⟩
          have whole := splitAtDepth_append (not_begins_of_closed hk first (.inr blank))
          have cut := cutOutside_append (joint_ne_nil keyword) (balanced_joint hk)
            ((joint keyword).intercalate (next :: rest))
          rw [cutOutside] at cut
          rw [List.intercalate_cons_cons, List.append_assoc, cutOutside, whole,
            first.balanced.depth_eq_zero, Int.sub_zero, cut, others, foldr_prependChar,
            List.append_nil]

example : cutOutside " OR ".toList "a OR (b OR c) OR d".toList =
    ["a".toList, "(b OR c)".toList, "d".toList] := by decide

end FacetedSearch.Text
