/-
# FacetedSearch.Proofs.Text.Parentheses -- keywords at each depth of parentheses

A reader of boolean text sees the keywords of one depth at a time: those outside all parentheses,
then those one pair further in, and so on.  `depth` counts the parentheses that a text leaves open,
`atDepth d` blanks out whatever does not stand at depth `d`, and `keywordsAt d` are the keywords of
the rest.  No word reaches across a parenthesis, so blanking keeps each word whole or drops it
(`words_atDepth_sublist`).

A text that is balanced and has no keyword outside parentheses (`Closed`) can be joined with others
without lending them a keyword or taking one from them:

* `keywordsAt_intercalate`: closed texts joined by a keyword have this keyword outside parentheses,
  once between any two, and no other;
* `Balanced.closed_wrap`: parentheses close a balanced text.
-/
import FacetedSearch.Text.Word
import Mathlib.Data.List.Infix

namespace FacetedSearch.Text

set_option autoImplicit false

/-- How much deeper a text stands behind a character than before it. -/
def turn (c : Char) : Int := if c = '(' then 1 else if c = ')' then -1 else 0

/-- How many parentheses a text leaves open; it is negative if too many are closed. -/
def depth : List Char → Int
  | [] => 0
  | c :: rest => turn c + depth rest

/-- Each parenthesis is closed, and none is closed before it is opened. -/
structure Balanced (text : List Char) : Prop where
  depth_eq_zero : depth text = 0
  depth_nonneg : ∀ before, before <+: text → 0 ≤ depth before

/-- The text with a blank for each character that does not stand at depth `d`. -/
def atDepth (d : Int) : List Char → List Char
  | [] => []
  | c :: rest => (if d = 0 then c else ' ') :: atDepth (d - turn c) rest

/-- The keywords at depth `d`, in order. -/
def keywordsAt (d : Int) (text : List Char) : List (List Char) :=
  (words (atDepth d text)).filter fun word => operators.contains word

/-- The text keeps its keywords inside parentheses. -/
structure Closed (text : List Char) : Prop where
  balanced : Balanced text
  keywords : keywordsAt 0 text = []

/-- A keyword between two texts. -/
def joint (keyword : List Char) : List Char := ' ' :: (keyword ++ [' '])

variable {a b text keyword : List Char} {c : Char} {d : Int}

/-! ## Depth -/

theorem depth_nil : depth [] = 0 := rfl

theorem depth_cons (c : Char) (text : List Char) : depth (c :: text) = turn c + depth text := rfl

theorem depth_append (a b : List Char) : depth (a ++ b) = depth a + depth b := by
  induction a with
  | nil => rw [depth_nil, Int.zero_add]; rfl
  | cons c a ih => rw [List.cons_append, depth_cons, ih, depth_cons, Int.add_assoc]

instance (text : List Char) : Decidable (Balanced text) :=
  decidable_of_iff (depth text = 0 ∧ ∀ before ∈ text.inits, 0 ≤ depth before)
    ⟨fun h => ⟨h.1, fun before begins => h.2 before ((List.mem_inits _ _).2 begins)⟩,
      fun h => ⟨h.1, fun before member => h.2 before ((List.mem_inits _ _).1 member)⟩⟩

namespace Balanced

theorem append (ha : Balanced a) (hb : Balanced b) : Balanced (a ++ b) where
  depth_eq_zero := by
    rw [depth_append, ha.depth_eq_zero, hb.depth_eq_zero]
    rfl
  depth_nonneg := by
    rintro before ⟨after, same⟩
    rcases List.append_eq_append_iff.1 same with ⟨more, rfl, -⟩ | ⟨more, rfl, rfl⟩
    · exact ha.depth_nonneg before (List.prefix_append _ _)
    · have := hb.depth_nonneg more (List.prefix_append _ _)
      rw [depth_append, ha.depth_eq_zero]
      omega

theorem wrap (h : Balanced text) : Balanced ('(' :: text ++ [')']) where
  depth_eq_zero := by
    have hclose : depth [')'] = -1 := rfl
    have hopen : turn '(' = 1 := rfl
    rw [depth_append, depth_cons, h.depth_eq_zero, hclose, hopen]
    rfl
  depth_nonneg := by
    intro before begins
    rcases List.prefix_cons_iff.1 begins with rfl | ⟨inside, rfl, within⟩
    · exact Int.le_refl 0
    · have hopen : turn '(' = 1 := rfl
      rw [depth_cons, hopen]
      rcases List.prefix_concat_iff.1 within with rfl | within
      · have hclose : depth [')'] = -1 := rfl
        rw [depth_append, h.depth_eq_zero, hclose]
        omega
      · have := h.depth_nonneg inside within
        omega

theorem intercalate {sep : List Char} (hsep : Balanced sep) {texts : List (List Char)}
    (h : ∀ text ∈ texts, Balanced text) : Balanced (sep.intercalate texts) := by
  induction texts with
  | nil => exact (by decide : Balanced [])
  | cons text rest ih =>
      have first := h text List.mem_cons_self
      have others := ih fun t ht => h t (List.mem_cons_of_mem _ ht)
      cases rest with
      | nil => simpa using first
      | cons next rest =>
          rw [List.intercalate_cons_cons]
          exact (first.append hsep).append others

/-- A balanced text does not close what is open before it. -/
theorem not_begins_closing (h : Balanced text) : ¬[')'] <+: text := by
  intro begins
  have closed : depth [')'] = -1 := rfl
  have := h.depth_nonneg _ begins
  omega

/-- A balanced text leaves nothing open behind it. -/
theorem not_ends_opening (h : Balanced text) : ¬['('] <:+ text := by
  rintro ⟨before, rfl⟩
  have opened : depth ['('] = 1 := rfl
  have whole := h.depth_eq_zero
  have := h.depth_nonneg before (List.prefix_append _ _)
  rw [depth_append, opened] at whole
  omega

end Balanced

/-! ## Empty pairs -/

/-- No empty pair of parentheses reaches from one text into the next, unless the first opens it and
the second closes it. -/
theorem emptyPair_infix_append (apart : ¬['('] <:+ a ∨ ¬[')'] <+: b)
    (occurs : ['(', ')'] <:+: a ++ b) : ['(', ')'] <:+: a ∨ ['(', ')'] <:+: b := by
  rcases List.infix_append_iff_ne_nil.1 occurs with within | within | across
  · exact .inl within
  · exact .inr within
  · obtain ⟨front, back, front_ne, back_ne, pair, ends, begins⟩ := across
    have lengths := congrArg List.length pair
    have front_pos := List.length_pos_iff.2 front_ne
    have back_pos := List.length_pos_iff.2 back_ne
    have one : ['('].length = front.length := by
      simp only [List.length_append, List.length_cons, List.length_nil] at lengths ⊢
      omega
    have pieces : ['('] ++ [')'] = front ++ back := pair
    obtain ⟨rfl, rfl⟩ := List.append_inj pieces one
    exact (apart.elim (fun h => h ends) fun h => h begins).elim

/-- Parentheses around a balanced text are no empty pair, unless the text is empty. -/
theorem emptyPair_infix_wrap (balanced : Balanced text) (populated : text ≠ [])
    (occurs : ['(', ')'] <:+: '(' :: text ++ [')']) : ['(', ')'] <:+: text := by
  have short (c : Char) : ¬['(', ')'] <:+: [c] := fun within => by
    have := within.length_le
    simp at this
  have inside : ¬['('] <:+ '(' :: text := by
    rw [List.suffix_cons_iff, not_or]
    exact ⟨fun same => populated (List.cons.inj same).2.symm, balanced.not_ends_opening⟩
  have opened := (emptyPair_infix_append (.inl inside) occurs).resolve_right (short ')')
  exact (emptyPair_infix_append (a := ['(']) (.inr balanced.not_begins_closing) opened).resolve_left
    (short '(')

/-! ## Words -/

theorem words_append_cons (foreign : isWordChar c = false) (a b : List Char) :
    words (a ++ c :: b) = words a ++ words b := by
  have hsep : (!isWordChar c) = true := by rw [foreign]; rfl
  rw [words, List.splitOnP_append_cons a b hsep, List.filter_append]
  rfl

theorem words_cons (foreign : isWordChar c = false) (text : List Char) :
    words (c :: text) = words text := by
  have := words_append_cons foreign [] text
  simpa [words] using this

theorem hasOperators_append_cons (foreign : isWordChar c = false) (a b : List Char) :
    hasOperators (a ++ c :: b) = (hasOperators a || hasOperators b) := by
  rw [hasOperators, words_append_cons foreign, List.any_append]
  rfl

theorem words_replicate_blank (n : Nat) : words (List.replicate n ' ') = [] := by
  induction n with
  | zero => rfl
  | succ n ih =>
      rw [List.replicate_succ, words_cons (by decide)]
      exact ih

/-- A character at another depth is blank, so it ends words if it did before. -/
theorem isWordChar_blanked (foreign : isWordChar c = false) :
    isWordChar (if d = 0 then c else ' ') = false := by
  split
  · exact foreign
  · decide

theorem turn_eq_zero (h : isWordChar c = true) : turn c = 0 := by
  unfold turn
  split
  · rename_i same
    rw [same] at h
    exact absurd h (by decide)
  · split
    · rename_i same
      rw [same] at h
      exact absurd h (by decide)
    · rfl

theorem atDepth_append (d : Int) (a b : List Char) :
    atDepth d (a ++ b) = atDepth d a ++ atDepth (d - depth a) b := by
  induction a generalizing d with
  | nil => rw [depth_nil, Int.sub_zero]; rfl
  | cons c a ih =>
      have hrest : d - turn c - depth a = d - depth (c :: a) := by
        rw [depth_cons]
        omega
      rw [List.cons_append, atDepth, ih, hrest]
      rfl

/-- The open word in front of the text is whole at its depth, or not there at all. -/
theorem words_append_atDepth_sublist (d : Int) (text run : List Char)
    (whole : run.all isWordChar = true) :
    (words ((if d = 0 then run else List.replicate run.length ' ') ++ atDepth d text)).Sublist
      (words (run ++ text)) := by
  induction text generalizing d run with
  | nil =>
      rw [atDepth, List.append_nil, List.append_nil]
      split
      · exact List.Sublist.refl _
      · rw [words_replicate_blank]
        exact List.nil_sublist _
  | cons c text ih =>
      cases hc : isWordChar c with
      | true =>
          -- the open word grows at its depth, which no character of a word changes
          have longer := ih d (run ++ [c]) (by simpa [hc] using whole)
          rw [atDepth, turn_eq_zero hc, Int.sub_zero]
          split
          · rename_i same
            simpa [same] using longer
          · rename_i different
            simpa [different, List.replicate_succ'] using longer
      | false =>
          -- both words end here, and the next one opens at the new depth
          have fresh := ih (d - turn c) [] rfl
          rw [atDepth, words_append_cons (isWordChar_blanked hc), words_append_cons hc]
          refine List.Sublist.append ?_ (by simpa using fresh)
          split
          · exact List.Sublist.refl _
          · rw [words_replicate_blank]
            exact List.nil_sublist _

/-- **The words at a depth are words of the text.** -/
theorem words_atDepth_sublist (d : Int) (text : List Char) :
    (words (atDepth d text)).Sublist (words text) := by
  have := words_append_atDepth_sublist d text [] rfl
  simpa using this

/-! ## Keywords -/

theorem keywordsAt_nil (d : Int) : keywordsAt d [] = [] := rfl

theorem keywordsAt_append_cons (foreign : isWordChar c = false) (d : Int) (a b : List Char) :
    keywordsAt d (a ++ c :: b) = keywordsAt d a ++ keywordsAt (d - depth a - turn c) b := by
  rw [keywordsAt, atDepth_append, atDepth, words_append_cons (isWordChar_blanked foreign),
    List.filter_append, keywordsAt, keywordsAt]

theorem keywordsAt_cons (foreign : isWordChar c = false) (d : Int) (text : List Char) :
    keywordsAt d (c :: text) = keywordsAt (d - turn c) text := by
  rw [keywordsAt, atDepth, words_cons (isWordChar_blanked foreign), keywordsAt]

/-- One pair of parentheses puts each keyword one deeper. -/
theorem keywordsAt_wrap (d : Int) (text : List Char) :
    keywordsAt d ('(' :: text ++ [')']) = keywordsAt (d - 1) text := by
  rw [List.cons_append, keywordsAt_cons (by decide), keywordsAt_append_cons (by decide),
    keywordsAt_nil, List.append_nil]
  rfl

/-- A text that never comes down to a depth has no keywords there. -/
theorem keywordsAt_eq_nil_of_lt (above : ∀ before, before <+: text → d < depth before) :
    keywordsAt d text = [] := by
  have blank : words (atDepth d text) = [] := by
    induction text generalizing d with
    | nil => rfl
    | cons c text ih =>
        have here : d < depth [] := above [] List.nil_prefix
        rw [depth_nil] at here
        rw [atDepth, if_neg (by omega), words_cons (by decide)]
        refine ih fun before begins => ?_
        have := above (c :: before) (List.cons_prefix_cons.2 ⟨rfl, begins⟩)
        rw [depth_cons] at this
        omega
  rw [keywordsAt, blank]
  rfl

theorem keywordsAt_eq_nil_of_not_hasOperators (h : hasOperators text = false) (d : Int) :
    keywordsAt d text = [] := by
  rw [keywordsAt, List.filter_eq_nil_iff]
  intro word member
  have := List.any_eq_false.1 h word ((words_atDepth_sublist d text).subset member)
  exact this

/-! ## Closed texts -/

/-- **Parentheses close a balanced text.** -/
theorem Balanced.closed_wrap (h : Balanced text) : Closed ('(' :: text ++ [')']) where
  balanced := h.wrap
  keywords := by
    rw [keywordsAt_wrap]
    refine keywordsAt_eq_nil_of_lt fun before begins => ?_
    have := h.depth_nonneg before begins
    omega

theorem Balanced.closed (h : Balanced text) (plain : hasOperators text = false) : Closed text :=
  ⟨h, keywordsAt_eq_nil_of_not_hasOperators plain 0⟩

theorem balanced_of_mem_operators (hk : keyword ∈ operators) : Balanced keyword := by
  have hall : ∀ k ∈ operators, Balanced k := by decide
  exact hall keyword hk

theorem keywordsAt_keyword (hk : keyword ∈ operators) : keywordsAt 0 keyword = [keyword] := by
  have hall : ∀ k ∈ operators, keywordsAt 0 k = [k] := by decide
  exact hall keyword hk

theorem keywordsAt_append_blank (outside : depth a = 0) (b : List Char) :
    keywordsAt 0 (a ++ ' ' :: b) = keywordsAt 0 a ++ keywordsAt 0 b := by
  rw [keywordsAt_append_cons (by decide), outside]
  rfl

/-- **Closed texts joined by a keyword** have this keyword outside parentheses, once between any
two, and no other. -/
theorem keywordsAt_intercalate (hk : keyword ∈ operators) {texts : List (List Char)}
    (closed : ∀ text ∈ texts, Closed text) :
    keywordsAt 0 ((joint keyword).intercalate texts) = List.replicate (texts.length - 1) keyword := by
  induction texts with
  | nil => rfl
  | cons text rest ih =>
      have first := closed text List.mem_cons_self
      have others := ih fun t ht => closed t (List.mem_cons_of_mem _ ht)
      cases rest with
      | nil => simpa using first.keywords
      | cons next rest =>
          have split : (joint keyword).intercalate (text :: next :: rest) =
              text ++ ' ' :: (keyword ++ ' ' :: (joint keyword).intercalate (next :: rest)) := by
            simp [List.intercalate_cons_cons, joint]
          rw [split, keywordsAt_append_blank first.balanced.depth_eq_zero, first.keywords,
            keywordsAt_append_blank (balanced_of_mem_operators hk).depth_eq_zero,
            keywordsAt_keyword hk, others]
          rfl

example : keywordsAt 0 "a AND (b OR c)".toList = ["AND".toList] ∧
    keywordsAt 1 "a AND (b OR c)".toList = ["OR".toList] := by decide

end FacetedSearch.Text
