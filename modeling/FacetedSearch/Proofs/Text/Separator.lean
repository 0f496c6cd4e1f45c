/-
# FacetedSearch.Proofs.Text.Separator -- texts that a separator keeps apart

Joining texts with a separator and cutting the result again gives the texts back if and only if the
cut finds no occurrence that joining did not write.  The cut takes occurrences from the left, so a
text that another one follows may hold no occurrence even together with the beginning of the
separator behind it (`EndsClean`: `a;` followed by `;;` is cut after `a`), while the last text may
end as it likes, as long as the separator is not in it.  `Separable` says so of a list of texts:

* `splitOnText_intercalate`: separable texts are the pieces of their joined text;
* `separable_splitOnText`: the pieces of any text are separable;
* `Separable.sublist`: they stay so when some are left out.
-/
import FacetedSearch.Text.Pieces

namespace FacetedSearch.Text

set_option autoImplicit false

/-- The first occurrence of the separator in the text followed by the separator is the one at its
end. -/
def EndsClean (sep text : List Char) : Prop :=
  ∀ before after, text ++ sep = before ++ sep ++ after → text.length ≤ before.length

/-- Each text but the last ends clean, and the last one does not hold the separator. -/
def Separable (sep : List Char) : List (List Char) → Prop
  | [] => True
  | [last] => ¬ sep <:+: last
  | text :: next :: rest => EndsClean sep text ∧ Separable sep (next :: rest)

variable {sep : List Char}

/-! ## Ending clean -/

/-- Only an occurrence that ends in the last character of the separator may be added. -/
theorem endsClean_iff (h : sep ≠ []) (text : List Char) :
    EndsClean sep text ↔ ¬ sep <:+: text ++ sep.dropLast := by
  have hsep : sep.dropLast ++ [sep.getLast h] = sep := List.dropLast_concat_getLast h
  have hlength : 0 < sep.length := List.length_pos_iff.2 h
  constructor
  · -- an occurrence in `text ++ sep.dropLast` is one in `text ++ sep` that ends too early
    rintro clean ⟨before, after, occurs⟩
    have early := clean before (after ++ [sep.getLast h]) (by
      rw [← List.append_assoc, occurs, List.append_assoc, hsep])
    have := congrArg List.length occurs
    simp only [List.length_append, List.length_dropLast] at this
    omega
  · intro absent before after occurs
    refine Nat.le_of_not_lt fun late => ?_
    have hafter : after ≠ [] := by
      rintro rfl
      have := congrArg List.length occurs
      simp only [List.length_append, List.length_nil] at this
      omega
    refine absent ⟨before, after.dropLast, ?_⟩
    have hlast := congrArg List.dropLast occurs
    rwa [List.dropLast_append_of_ne_nil h, List.dropLast_append_of_ne_nil hafter, eq_comm] at hlast

theorem EndsClean.not_occurs (h : sep ≠ []) {text : List Char} (clean : EndsClean sep text) :
    ¬ sep <:+: text :=
  fun occurs => (endsClean_iff h text).1 clean (occurs.trans (List.infix_append' [] text _))

theorem EndsClean.tail {c : Char} {text : List Char} (clean : EndsClean sep (c :: text)) :
    EndsClean sep text := by
  intro before after occurs
  have := clean (c :: before) after (by simp [occurs])
  simpa using this

/-- No occurrence begins in front of the one that follows. -/
theorem EndsClean.not_begins {c : Char} {text : List Char} (clean : EndsClean sep (c :: text))
    (rest : List Char) : ¬ sep <+: c :: (text ++ sep ++ rest) := by
  intro begins
  have within : sep <+: c :: text ++ sep :=
    List.prefix_of_prefix_length_le begins ⟨rest, by simp⟩ (by simp; omega)
  obtain ⟨after, occurs⟩ := within
  simpa using clean [] after (by simpa using occurs.symm)

theorem endsClean_cons {c : Char} {text : List Char} (begins : ¬ sep <+: c :: (text ++ sep))
    (clean : EndsClean sep text) : EndsClean sep (c :: text) := by
  intro before after occurs
  cases before with
  | nil => exact absurd ⟨after, by simpa using occurs.symm⟩ begins
  | cons d before =>
      have := clean before after (by simpa using (List.cons.inj occurs).2)
      simpa using this

instance (sep text : List Char) : Decidable (EndsClean sep text) :=
  if h : sep = [] then
    decidable_of_iff (text = []) (by
      subst h
      constructor
      · rintro rfl before after -
        simp
      · intro clean
        simpa using clean [] text (by simp))
  else
    decidable_of_iff (containsText sep (text ++ sep.dropLast) = false) (by
      rw [endsClean_iff h, ← containsText_iff, Bool.not_eq_true])

/-! ## Separable texts -/

instance decidableSeparable (sep : List Char) : (texts : List (List Char)) →
    Decidable (Separable sep texts)
  | [] => .isTrue trivial
  | [last] => decidable_of_iff (containsText sep last = false) (by
      rw [Separable, ← containsText_iff, Bool.not_eq_true])
  | text :: next :: rest =>
      have := decidableSeparable sep (next :: rest)
      inferInstanceAs (Decidable (EndsClean sep text ∧ Separable sep (next :: rest)))

theorem separable_iff (h : sep ≠ []) {texts : List (List Char)} :
    Separable sep texts ↔
      (∀ text ∈ texts.dropLast, EndsClean sep text) ∧ ∀ text ∈ texts, ¬ sep <:+: text := by
  induction texts with
  | nil => simp [Separable]
  | cons text rest ih =>
      cases rest with
      | nil => simp [Separable]
      | cons next rest =>
          rw [Separable, ih, List.dropLast_cons_cons]
          constructor
          · rintro ⟨clean, others, absent⟩
            exact ⟨List.forall_mem_cons.2 ⟨clean, others⟩,
              List.forall_mem_cons.2 ⟨clean.not_occurs h, absent⟩⟩
          · rintro ⟨clean, absent⟩
            exact ⟨clean text List.mem_cons_self, (List.forall_mem_cons.1 clean).2,
              (List.forall_mem_cons.1 absent).2⟩

theorem separable_of_forall (h : sep ≠ []) {texts : List (List Char)}
    (clean : ∀ text ∈ texts, EndsClean sep text) : Separable sep texts :=
  (separable_iff h).2 ⟨fun text ht => clean text (List.dropLast_subset _ ht),
    fun text ht => (clean text ht).not_occurs h⟩

theorem Separable.not_occurs (h : sep ≠ []) {texts : List (List Char)}
    (separable : Separable sep texts) : ∀ text ∈ texts, ¬ sep <:+: text :=
  ((separable_iff h).1 separable).2

theorem Separable.tail {text : List Char} {rest : List (List Char)}
    (separable : Separable sep (text :: rest)) : Separable sep rest := by
  cases rest with
  | nil => trivial
  | cons next rest => exact separable.2

/-- Leaving texts out keeps the others separable. -/
theorem Separable.sublist (h : sep ≠ []) {texts some : List (List Char)}
    (separable : Separable sep texts) (sub : some.Sublist texts) : Separable sep some := by
  induction sub with
  | slnil => trivial
  | cons text _ ih => exact ih separable.tail
  | @cons_cons some rest text sub ih =>
      have others := ih separable.tail
      -- a text that is kept and was not the last still has one behind it, or becomes the last
      match some, rest, sub with
      | [], _, _ => exact separable.not_occurs h text List.mem_cons_self
      | next :: some, _ :: _, _ => exact ⟨separable.1, others⟩

/-! ## Cutting what was joined -/

theorem splitFrom_skip (sep skipped rest : List Char) :
    splitFrom sep skipped.length (skipped ++ rest) = splitFrom sep 0 rest := by
  induction skipped with
  | nil => rfl
  | cons c skipped ih => simpa [splitFrom] using ih

/-- The cut behind a text that ends clean. -/
theorem splitFrom_append (h : sep ≠ []) {text : List Char} (clean : EndsClean sep text)
    (rest : List Char) :
    splitFrom sep 0 (text ++ sep ++ rest) = text :: splitFrom sep 0 rest := by
  induction text with
  | nil =>
      obtain ⟨c, tail, rfl⟩ := List.exists_cons_of_ne_nil h
      have begins : (c :: tail).isPrefixOf (c :: (tail ++ rest)) = true :=
        List.isPrefixOf_iff_prefix.2 ⟨rest, rfl⟩
      simp only [List.nil_append, List.cons_append, splitFrom, begins, if_true, List.length_cons,
        Nat.add_sub_cancel, splitFrom_skip]
  | cons c text ih =>
      have begins : sep.isPrefixOf (c :: (text ++ sep ++ rest)) = false := by
        rw [← Bool.not_eq_true, List.isPrefixOf_iff_prefix]
        exact clean.not_begins rest
      simp only [List.cons_append, splitFrom, begins, ih clean.tail, Bool.false_eq_true, if_false,
        prependChar]

theorem splitFrom_of_not_infix {text : List Char} (absent : ¬ sep <:+: text) :
    splitFrom sep 0 text = [text] := by
  induction text with
  | nil => rfl
  | cons c text ih =>
      rw [List.infix_cons_iff, not_or] at absent
      have begins : sep.isPrefixOf (c :: text) = false := by
        rw [← Bool.not_eq_true, List.isPrefixOf_iff_prefix]
        exact absent.1
      simp [splitFrom, begins, ih absent.2, prependChar]

/-- Separable texts are the pieces of their joined text. -/
theorem splitOnText_intercalate (h : sep ≠ []) {texts : List (List Char)} (hne : texts ≠ [])
    (separable : Separable sep texts) : splitOnText sep (sep.intercalate texts) = texts := by
  have hempty : sep.isEmpty = false := by simpa using h
  simp only [splitOnText, hempty, Bool.false_eq_true, if_false]
  induction texts with
  | nil => exact absurd rfl hne
  | cons text rest ih =>
      cases rest with
      | nil => simpa using splitFrom_of_not_infix separable
      | cons next rest =>
          rw [List.intercalate_cons_cons, splitFrom_append h separable.1,
            ih (by simp) separable.2]

/-! ## Joining what was cut -/

/-- A character in front of the first piece leaves the pieces separable if no occurrence begins at
it. -/
theorem separable_prependChar {c : Char} {text : List Char}
    {pieces : List (List Char)} (joined : sep.intercalate pieces = text)
    (begins : ¬ sep <+: c :: text) (separable : Separable sep pieces) (hne : pieces ≠ []) :
    Separable sep (prependChar c pieces) := by
  match pieces, hne with
  | [piece], _ =>
      have hpiece : piece = text := by simpa using joined
      simp only [prependChar, Separable, List.infix_cons_iff, not_or, hpiece]
      exact ⟨begins, hpiece ▸ separable⟩
  | piece :: next :: rest, _ =>
      refine ⟨endsClean_cons (fun early => begins (early.trans ?_)) separable.1, separable.2⟩
      refine ⟨sep.intercalate (next :: rest), ?_⟩
      rw [← joined, List.intercalate_cons_cons, List.cons_append]

theorem separable_splitFrom (h : sep ≠ []) (skip : Nat) (text : List Char) :
    Separable sep (splitFrom sep skip text) := by
  induction text generalizing skip with
  | nil => simpa [splitFrom, Separable] using h
  | cons c rest ih =>
      cases skip with
      | succ skip => simpa [splitFrom] using ih skip
      | zero =>
          simp only [splitFrom]
          split
          · -- the first piece is empty, and an empty text ends clean
            have others := ih (sep.length - 1)
            obtain ⟨piece, pieces, hpieces⟩ :=
              List.exists_cons_of_ne_nil (splitFrom_ne_nil sep (sep.length - 1) rest)
            rw [hpieces] at others ⊢
            refine ⟨fun before after _ => by simp, others⟩
          · rename_i begins
            rw [List.isPrefixOf_iff_prefix] at begins
            have joined : sep.intercalate (splitFrom sep 0 rest) = rest := by
              simpa using intercalate_splitFrom h 0 rest
            exact separable_prependChar joined begins (ih 0) (splitFrom_ne_nil _ _ _)

/-- The pieces of any text are separable. -/
theorem separable_splitOnText (h : sep ≠ []) (text : List Char) :
    Separable sep (splitOnText sep text) := by
  simpa [splitOnText, h] using separable_splitFrom h 0 text

/-! ## Occurrences beside a foreign character -/

/-- A text without the character `c` occurs on one side of it. -/
theorem infix_append_cons_iff {pattern before after : List Char} {c : Char} (h : c ∉ pattern) :
    pattern <:+: before ++ c :: after ↔ pattern <:+: before ∨ pattern <:+: after := by
  constructor
  · rintro ⟨left, right, occurs⟩
    rw [List.append_assoc, List.append_eq_append_iff] at occurs
    rcases occurs with ⟨inside, rfl, occurs⟩ | ⟨inside, rfl, occurs⟩
    · rw [List.append_eq_append_iff] at occurs
      rcases occurs with ⟨more, rfl, -⟩ | ⟨more, rfl, occurs⟩
      · exact .inl ⟨left, more, by simp⟩
      · cases more with
        | nil => exact .inl ⟨left, [], by simp⟩
        | cons d more =>
            obtain ⟨rfl, -⟩ := List.cons.inj occurs
            simp at h
    · cases inside with
      | nil =>
          cases pattern with
          | nil => exact .inl (List.nil_infix)
          | cons d pattern =>
              obtain ⟨rfl, -⟩ := List.cons.inj occurs
              simp at h
      | cons d inside =>
          obtain ⟨-, rfl⟩ := List.cons.inj occurs
          exact .inr ⟨inside, right, by simp⟩
  · rintro (⟨left, right, rfl⟩ | ⟨left, right, rfl⟩)
    · exact ⟨left, right ++ c :: after, by simp⟩
    · exact ⟨before ++ c :: left, right, by simp⟩

/-! ## Doubled characters -/

section Doubled

variable {c : Char}

/-- One character twice is kept apart by the texts that do not hold it, all but those that end in
half of it. -/
theorem endsClean_doubled_iff (text : List Char) :
    EndsClean [c, c] text ↔ ¬ [c, c] <:+: text ∧ text.getLast? ≠ some c := by
  rw [endsClean_iff (by simp), List.dropLast_cons_cons, List.dropLast_singleton,
    List.infix_concat_iff, not_or, and_comm, ne_eq, List.getLast?_eq_some_iff]
  refine and_congr_right fun _ => not_congr ⟨?_, ?_⟩
  · rintro ⟨before, occurs⟩
    have same : before ++ [c] ++ [c] = text ++ [c] := by simpa using occurs
    exact ⟨before, (List.append_cancel_right same).symm⟩
  · rintro ⟨before, rfl⟩
    exact ⟨before, by simp⟩

/-- Behind a text that ends in half a separator the cut comes early, and the other half stands in
front of what follows. -/
theorem splitFrom_append_half {before rest : List Char} (absent : ¬ [c, c] <:+: before ++ [c])
    {d : Char} (different : d ≠ c) :
    splitFrom [c, c] 0 (before ++ [c] ++ [c, c] ++ d :: rest) =
      before :: prependChar c (splitFrom [c, c] 0 (d :: rest)) := by
  have clean : EndsClean [c, c] before := by
    refine (endsClean_doubled_iff before).2 ⟨fun occurs => absent (occurs.trans ?_), ?_⟩
    · exact (List.prefix_append before [c]).isInfix
    · intro half
      obtain ⟨more, rfl⟩ := List.getLast?_eq_some_iff.1 half
      exact absent ⟨more, [], by simp⟩
  have none : [c, c].isPrefixOf (c :: d :: rest) = false := by
    simp [List.isPrefixOf, Ne.symm different]
  have early : before ++ [c] ++ [c, c] ++ d :: rest = before ++ [c, c] ++ (c :: d :: rest) := by simp
  rw [early, splitFrom_append (by simp) clean, splitFrom, none]
  rfl

/-- **Half a separator is left over** if a text that another one follows ends in half of it: some
piece begins with the other half. -/
theorem exists_piece_of_half {texts : List (List Char)} (absent : ∀ text ∈ texts, ¬ [c, c] <:+: text)
    (begins : ∀ text ∈ texts, ∃ d rest, d ≠ c ∧ text = d :: rest)
    (half : ∃ text ∈ texts.dropLast, text.getLast? = some c) :
    ∃ rest, c :: rest ∈ splitFrom [c, c] 0 ([c, c].intercalate texts) := by
  induction texts with
  | nil => simp at half
  | cons text rest ih =>
      cases rest with
      | nil => simp at half
      | cons next rest =>
          have htext := absent text List.mem_cons_self
          rw [List.intercalate_cons_cons]
          by_cases ends : text.getLast? = some c
          · obtain ⟨before, rfl⟩ := List.getLast?_eq_some_iff.1 ends
            obtain ⟨d, tail, different, hnext⟩ := begins next (by simp)
            obtain ⟨joined, hjoined⟩ :
                ∃ joined, [c, c].intercalate (next :: rest) = d :: joined := by
              rw [hnext]
              cases rest <;> simp
            obtain ⟨piece, pieces, hpieces⟩ :=
              List.exists_cons_of_ne_nil (splitFrom_ne_nil [c, c] 0 (d :: joined))
            rw [hjoined, splitFrom_append_half htext different, hpieces]
            exact ⟨piece, by simp [prependChar]⟩
          · have clean := (endsClean_doubled_iff text).2 ⟨htext, ends⟩
            have later : ∃ t ∈ (next :: rest).dropLast, t.getLast? = some c := by
              obtain ⟨t, member, hlast⟩ := half
              rw [List.dropLast_cons_cons] at member
              rcases List.mem_cons.1 member with rfl | member
              · exact absurd hlast ends
              · exact ⟨t, member, hlast⟩
            obtain ⟨piece, hpiece⟩ := ih (fun t ht => absent t (List.mem_cons_of_mem _ ht))
              (fun t ht => begins t (List.mem_cons_of_mem _ ht)) later
            rw [splitFrom_append (by simp) clean]
            exact ⟨piece, List.mem_cons_of_mem _ hpiece⟩

end Doubled

end FacetedSearch.Text
