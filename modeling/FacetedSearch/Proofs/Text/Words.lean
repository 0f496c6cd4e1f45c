/-
# FacetedSearch.Proofs.Text.Words -- the words of a text are its maximal runs

`words` cuts a text at every character that belongs to no word and drops the empty pieces.  Two
other accounts of the words say that nothing is lost or joined on the way:

* a reader goes through the text from left to right and takes separators, then words with
  separators behind each, then the end (`readWords?`).  It could stop before the end, and then it
  would give no words at all; it never does (`readWords?_eq`);
* a run of word characters is maximal if neither neighbour could belong to it (`RunAt`).  The words
  are all maximal runs, in order, and no two of them touch (`exists_runsOf`).

So a text has operators exactly if one of the keywords stands in it with no word character before
or behind it (`hasOperators_iff`), whatever letters other than ASCII there are.
-/
import FacetedSearch.Proofs.Text.Parentheses
import Mathlib.Data.List.TakeWhile

namespace FacetedSearch.Text

set_option autoImplicit false

/-! ## Reading from left to right -/

/-- The text behind its leading separators. -/
def skipSeparators (text : List Char) : List Char := text.dropWhile fun c => !isWordChar c

/-- Words with separators behind each, and the text from where no further word begins. -/
def readEach (text : List Char) : List (List Char) × List Char :=
  if text.takeWhile isWordChar = [] then ([], text)
  else
    let others := readEach (skipSeparators (text.dropWhile isWordChar))
    (text.takeWhile isWordChar :: others.1, others.2)
termination_by text.length
decreasing_by
  rename_i begins
  have hpos := List.length_pos_iff.2 begins
  have hlength := congrArg List.length (@List.takeWhile_append_dropWhile _ isWordChar text)
  have hskip := List.length_dropWhile_le (fun c => !isWordChar c) (text.dropWhile isWordChar)
  rw [List.length_append] at hlength
  rw [skipSeparators]
  omega

/-- Separators, words with separators behind each, and the end of the text. -/
def readWords? (text : List Char) : Option (List (List Char)) :=
  let read := readEach (skipSeparators text)
  if read.2 = [] then some read.1 else none

/-! ## Maximal runs -/

/-- No word goes on behind the text. -/
def ForeignLast (text : List Char) : Prop := ∀ c ∈ text.getLast?, isWordChar c = false

/-- No word goes on into the text. -/
def ForeignFirst (text : List Char) : Prop := ∀ c ∈ text.head?, isWordChar c = false

/-- A run of word characters that neither side continues. -/
structure MaximalRun (text before run after : List Char) : Prop where
  cut : text = before ++ run ++ after
  word : isWord run = true
  left : ForeignLast before
  right : ForeignFirst after

/-- The maximal run behind the first `start` characters. -/
def RunAt (text : List Char) (start : Nat) (run : List Char) : Prop :=
  ∃ before after, MaximalRun text before run after ∧ before.length = start

/-- The list has all maximal runs with their places, in order, and no two of them touch. -/
structure RunsOf (text : List Char) (runs : List (Nat × List Char)) : Prop where
  mem_iff : ∀ start run, (start, run) ∈ runs ↔ RunAt text start run
  apart : runs.Pairwise fun first second => first.1 + first.2.length < second.1

variable {text run other before after rest : List Char} {c : Char} {start : Nat}

/-! ## The class of word characters -/

theorem isWordChar_iff :
    isWordChar c = true ↔
      ('A' ≤ c ∧ c ≤ 'Z') ∨ ('a' ≤ c ∧ c ≤ 'z') ∨ ('0' ≤ c ∧ c ≤ '9') ∨ c = '_' := by
  have upper : c.isUpper = true ↔ 'A' ≤ c ∧ c ≤ 'Z' := decide_eq_true_iff
  have lower : c.isLower = true ↔ 'a' ≤ c ∧ c ≤ 'z' := by
    show (decide ('a' ≤ c) && decide (c ≤ 'z')) = true ↔ _
    rw [Bool.and_eq_true, decide_eq_true_iff, decide_eq_true_iff]
  have digit : c.isDigit = true ↔ '0' ≤ c ∧ c ≤ '9' := by
    show (decide ('0' ≤ c) && decide (c ≤ '9')) = true ↔ _
    rw [Bool.and_eq_true, decide_eq_true_iff, decide_eq_true_iff]
  show (((c.isUpper || c.isLower) || c.isDigit) || c == '_') = true ↔ _
  rw [Bool.or_eq_true, Bool.or_eq_true, Bool.or_eq_true, upper, lower, digit, beq_iff_eq, or_assoc,
    or_assoc]

theorem isWord_of_mem_operators {keyword : List Char} (hk : keyword ∈ operators) :
    isWord keyword = true := by
  have hall : ∀ k ∈ operators, isWord k = true := by decide
  exact hall keyword hk

/-! ## Texts by words -/

theorem takeWhile_run (word : isWord run = true) (right : ForeignFirst rest) :
    (run ++ rest).takeWhile isWordChar = run := by
  rw [List.takeWhile_append_of_pos (isRun_iff.1 word).2]
  cases rest with
  | nil => rw [List.takeWhile_nil, List.append_nil]
  | cons c rest => rw [List.takeWhile_cons_of_neg (by simp [right c rfl]), List.append_nil]

theorem dropWhile_run (word : isWord run = true) (right : ForeignFirst rest) :
    (run ++ rest).dropWhile isWordChar = rest := by
  rw [List.dropWhile_append_of_pos (isRun_iff.1 word).2]
  cases rest with
  | nil => rfl
  | cons c rest => rw [List.dropWhile_cons_of_neg (by simp [right c rfl])]

/-- A text is empty, or begins with a separator, or begins with a whole word. -/
@[elab_as_elim]
theorem word_induction {P : List Char → Prop} (nil : P [])
    (separator : ∀ c text, isWordChar c = false → P text → P (c :: text))
    (run : ∀ run rest, isWord run = true → ForeignFirst rest → P rest → P (run ++ rest))
    (text : List Char) : P text := by
  induction hn : text.length using Nat.strong_induction_on generalizing text with
  | _ n ih =>
      subst hn
      cases text with
      | nil => exact nil
      | cons c rest =>
          cases hc : isWordChar c with
          | false => exact separator c rest hc (ih rest.length (by simp) rest rfl)
          | true =>
              have hcut := @List.takeWhile_append_dropWhile _ isWordChar (c :: rest)
              have word : isWord ((c :: rest).takeWhile isWordChar) = true :=
                isRun_iff.2 ⟨by simp [hc], fun _ => List.mem_takeWhile_imp⟩
              have right : ForeignFirst ((c :: rest).dropWhile isWordChar) := by
                intro x hx
                have := List.head?_dropWhile_not isWordChar (c :: rest)
                rw [hx] at this
                simpa using this
              have shorter : ((c :: rest).dropWhile isWordChar).length < (c :: rest).length := by
                rw [List.dropWhile_cons_of_pos hc]
                exact Nat.lt_succ_of_le (List.length_dropWhile_le _ _)
              rw [← hcut]
              exact run _ _ word right (ih _ shorter _ rfl)

/-- A whole word in front is the first of the words. -/
theorem words_run (word : isWord run = true) (right : ForeignFirst rest) :
    words (run ++ rest) = run :: words rest := by
  have hrun : words run = [run] := by
    have hne := (isRun_iff.1 word).1
    have huncut : run.splitOnP (fun c => !isWordChar c) = [run] :=
      List.splitOnP_eq_singleton fun c hc => by simp [(isRun_iff.1 word).2 c hc]
    rw [words, huncut]
    simp [hne]
  cases rest with
  | nil => rw [List.append_nil, hrun]; rfl
  | cons c rest =>
      rw [words_append_cons (right c rfl), hrun, words_cons (right c rfl), List.singleton_append]

theorem flatten_words (text : List Char) : (words text).flatten = text.filter isWordChar := by
  induction text using word_induction with
  | nil => rfl
  | separator c text hc ih =>
      rw [words_cons hc, ih, List.filter_cons_of_neg (by simp [hc])]
  | run run rest word right ih =>
      rw [words_run word right, List.flatten_cons, ih, List.filter_append,
        List.filter_eq_self.2 (isRun_iff.1 word).2]

/-! ## The reader goes through to the end -/

theorem readEach_eq (text : List Char) : readEach (skipSeparators text) = (words text, []) := by
  induction text using word_induction with
  | nil => simp [skipSeparators, readEach, words]
  | separator c text hc ih =>
      have hskip : skipSeparators (c :: text) = skipSeparators text :=
        List.dropWhile_cons_of_pos (by simp [hc])
      rw [hskip, ih, words_cons hc]
  | run run rest word right ih =>
      have hskip : skipSeparators (run ++ rest) = run ++ rest := by
        obtain ⟨c, more, rfl⟩ := List.exists_cons_of_ne_nil (isRun_iff.1 word).1
        have hc := (isRun_iff.1 word).2 c List.mem_cons_self
        exact List.dropWhile_cons_of_neg (by simp [hc])
      rw [hskip, readEach, takeWhile_run word right, dropWhile_run word right,
        if_neg (isRun_iff.1 word).1, ih, words_run word right]

/-- **The reader finds all words** of every text. -/
theorem readWords?_eq (text : List Char) : readWords? text = some (words text) := by
  rw [readWords?, readEach_eq]
  rfl

/-! ## The words are the maximal runs -/

theorem not_runAt_nil : ¬ RunAt [] start run := by
  rintro ⟨before, after, maximal, -⟩
  have hcut := maximal.cut
  have hne := (isRun_iff.1 maximal.word).1
  simp_all

/-- No run begins at a separator. -/
theorem RunAt.pos (right : ForeignFirst text) (h : RunAt text start run) : 0 < start := by
  obtain ⟨before, after, maximal, rfl⟩ := h
  refine List.length_pos_iff.2 ?_
  rintro rfl
  obtain ⟨c, more, rfl⟩ := List.exists_cons_of_ne_nil (isRun_iff.1 maximal.word).1
  have inside := (isRun_iff.1 maximal.word).2 c List.mem_cons_self
  have outside := right c (by rw [maximal.cut]; rfl)
  exact absurd (inside.symm.trans outside) (by decide)

theorem foreignLast_append (h : before ≠ []) :
    ForeignLast (run ++ before) ↔ ForeignLast before := by
  rw [ForeignLast, List.getLast?_append_of_ne_nil _ h, ForeignLast]

theorem runAt_cons (foreign : isWordChar c = false) :
    RunAt (c :: text) start run ↔ ∃ place, RunAt text place run ∧ 1 + place = start := by
  constructor
  · intro h
    have hpos := h.pos (by rintro x ⟨⟩; exact foreign)
    obtain ⟨before, after, maximal, rfl⟩ := h
    obtain ⟨x, before, rfl⟩ := List.exists_cons_of_ne_nil (List.length_pos_iff.1 hpos)
    obtain ⟨rfl, hcut⟩ := List.cons.inj maximal.cut
    refine ⟨before.length, ⟨before, after, ⟨hcut, maximal.word, ?_, maximal.right⟩, rfl⟩, ?_⟩
    · rintro y hy
      exact maximal.left y (by rw [List.getLast?_cons, hy]; rfl)
    · rw [List.length_cons, Nat.add_comm]
  · rintro ⟨place, ⟨before, after, maximal, rfl⟩, rfl⟩
    refine ⟨c :: before, after, ⟨by rw [maximal.cut]; rfl, maximal.word, ?_, maximal.right⟩, ?_⟩
    · intro y hy
      cases before with
      | nil => cases hy; exact foreign
      | cons x before => exact maximal.left y (by simpa using hy)
    · rw [List.length_cons, Nat.add_comm]

/-- Word characters at the end of a text leave it open. -/
theorem eq_nil_of_foreignLast (left : ForeignLast text)
    (inside : ∀ c ∈ text, isWordChar c = true) : text = [] := by
  by_contra hne
  have hlast := List.getLast?_eq_some_getLast hne
  have outside := left _ hlast
  rw [inside _ (List.getLast_mem hne)] at outside
  cases outside

theorem runAt_run (word : isWord run = true) (right : ForeignFirst rest) :
    RunAt (run ++ rest) start other ↔
      (start = 0 ∧ other = run) ∨ ∃ place, RunAt rest place other ∧ run.length + place = start := by
  have inside := (isRun_iff.1 word).2
  constructor
  · rintro ⟨before, after, maximal, rfl⟩
    have hcut := maximal.cut
    rw [List.append_assoc] at hcut
    rcases List.append_eq_append_iff.1 hcut with ⟨beyond, rfl, hrest⟩ | ⟨behind, hrun, hother⟩
    · -- it begins behind the first run, and not right there
      have hne : beyond ≠ [] := by
        rintro rfl
        have hleft := maximal.left
        rw [List.append_nil] at hleft
        exact (isRun_iff.1 word).1 (eq_nil_of_foreignLast hleft inside)
      refine .inr ⟨beyond.length, ⟨beyond, after, ⟨?_, maximal.word, ?_, maximal.right⟩, rfl⟩, ?_⟩
      · rw [hrest, List.append_assoc]
      · exact (foreignLast_append hne).1 maximal.left
      · rw [List.length_append]
    · -- it begins in the first run, so it begins with it
      have hbefore : before = [] := by
        refine eq_nil_of_foreignLast maximal.left fun c hc => inside c ?_
        rw [hrun]
        exact List.mem_append_left _ hc
      subst hbefore
      have hsame := congrArg (List.takeWhile isWordChar) hcut
      rw [takeWhile_run word right, List.nil_append,
        takeWhile_run maximal.word maximal.right] at hsame
      exact .inl ⟨rfl, hsame.symm⟩
  · rintro (⟨rfl, rfl⟩ | ⟨place, h, rfl⟩)
    · exact ⟨[], rest, ⟨rfl, word, by rintro c ⟨⟩, right⟩, rfl⟩
    · have hpos := h.pos right
      obtain ⟨before, after, maximal, rfl⟩ := h
      refine ⟨run ++ before, after, ⟨?_, maximal.word, ?_, maximal.right⟩, List.length_append⟩
      · rw [maximal.cut]
        simp only [List.append_assoc]
      · exact (foreignLast_append (List.length_pos_iff.1 hpos)).2 maximal.left

/-- Runs of a text that stands `n` characters further on. -/
def moved (n : Nat) (runs : List (Nat × List Char)) : List (Nat × List Char) :=
  runs.map fun run => (n + run.1, run.2)

theorem mem_moved {n : Nat} {runs : List (Nat × List Char)} :
    (start, run) ∈ moved n runs ↔ ∃ place, (place, run) ∈ runs ∧ n + place = start := by
  simp [moved]

theorem map_snd_moved (n : Nat) (runs : List (Nat × List Char)) :
    (moved n runs).map Prod.snd = runs.map Prod.snd := by
  rw [moved, List.map_map]
  rfl

theorem pairwise_moved {n : Nat} {runs : List (Nat × List Char)}
    (apart : runs.Pairwise fun first second => first.1 + first.2.length < second.1) :
    (moved n runs).Pairwise fun first second => first.1 + first.2.length < second.1 := by
  refine List.pairwise_map.2 (apart.imp fun {first second} h => ?_)
  show n + first.1 + first.2.length < n + second.1
  omega

namespace RunsOf

variable {runs : List (Nat × List Char)}

theorem nil : RunsOf [] [] where
  mem_iff _ _ := ⟨fun h => absurd h List.not_mem_nil, fun h => absurd h not_runAt_nil⟩
  apart := List.Pairwise.nil

/-- A separator moves all runs on. -/
theorem cons (foreign : isWordChar c = false) (h : RunsOf text runs) :
    RunsOf (c :: text) (moved 1 runs) where
  mem_iff start run := by
    rw [mem_moved, runAt_cons foreign]
    simp only [h.mem_iff]
  apart := pairwise_moved h.apart

/-- A whole word in front is one more run, and moves the others on. -/
theorem append (word : isWord run = true) (right : ForeignFirst rest) (h : RunsOf rest runs) :
    RunsOf (run ++ rest) ((0, run) :: moved run.length runs) where
  mem_iff start other := by
    rw [List.mem_cons, mem_moved, runAt_run word right, Prod.mk.injEq]
    simp only [h.mem_iff]
  apart := by
    refine List.Pairwise.cons ?_ (pairwise_moved h.apart)
    rintro ⟨start, other⟩ hmem
    obtain ⟨place, hplace, rfl⟩ := mem_moved.1 hmem
    have hpos := ((h.mem_iff place other).1 hplace).pos right
    show 0 + run.length < run.length + place
    omega

end RunsOf

/-- **The words are all maximal runs**, in order, and no two of them touch. -/
theorem exists_runsOf (text : List Char) :
    ∃ runs, RunsOf text runs ∧ runs.map Prod.snd = words text := by
  induction text using word_induction with
  | nil => exact ⟨[], RunsOf.nil, rfl⟩
  | separator c text hc ih =>
      obtain ⟨runs, hruns, hwords⟩ := ih
      exact ⟨_, hruns.cons hc, by rw [map_snd_moved, hwords, words_cons hc]⟩
  | run run rest word right ih =>
      obtain ⟨runs, hruns, hwords⟩ := ih
      refine ⟨_, hruns.append word right, ?_⟩
      rw [List.map_cons, map_snd_moved, hwords, words_run word right]

/-! ## Operators -/

theorem mem_words_iff : run ∈ words text ↔ ∃ before after, MaximalRun text before run after := by
  obtain ⟨runs, hruns, hwords⟩ := exists_runsOf text
  rw [← hwords]
  simp only [List.mem_map, Prod.exists, exists_eq_right, hruns.mem_iff, RunAt]
  exact ⟨fun ⟨_, before, after, maximal, _⟩ => ⟨before, after, maximal⟩,
    fun ⟨before, after, maximal⟩ => ⟨_, before, after, maximal, rfl⟩⟩

/-- A text has operators if and only if a keyword stands in it with no word character at either
side. -/
theorem hasOperators_iff :
    hasOperators text = true ↔ ∃ before keyword after,
      text = before ++ keyword ++ after ∧ keyword ∈ operators ∧
        ForeignLast before ∧ ForeignFirst after := by
  simp only [hasOperators, List.any_eq_true, List.contains_iff_mem, mem_words_iff]
  constructor
  · rintro ⟨keyword, ⟨before, after, maximal⟩, hk⟩
    exact ⟨before, keyword, after, maximal.cut, hk, maximal.left, maximal.right⟩
  · rintro ⟨before, keyword, after, hcut, hk, left, right⟩
    exact ⟨keyword, ⟨before, after, hcut, isWord_of_mem_operators hk, left, right⟩, hk⟩

/-- **Operators are found exactly where they stand as whole words.**  The reader goes through every
text to its end, so what it is taken to have read where it fails is never used; the words that it
reads are the maximal runs; and at a separator a text falls apart into two that are looked at each
for itself. -/
theorem hasOperators_exact (text : List Char) :
    (∀ c, isWordChar c = true ↔
      ('A' ≤ c ∧ c ≤ 'Z') ∨ ('a' ≤ c ∧ c ≤ 'z') ∨ ('0' ≤ c ∧ c ≤ '9') ∨ c = '_') ∧
    readWords? text = some (words text) ∧
    (∃ runs, RunsOf text runs ∧ runs.map Prod.snd = words text) ∧
    (words text).flatten = text.filter isWordChar ∧
    hasOperators text = ((readWords? text).getD []).any (fun word => operators.contains word) ∧
    (hasOperators text = true ↔ ∃ before keyword after,
      text = before ++ keyword ++ after ∧ keyword ∈ operators ∧
        ForeignLast before ∧ ForeignFirst after) ∧
    ∀ before c after, text = before ++ c :: after → isWordChar c = false →
      hasOperators text = (hasOperators before || hasOperators after) := by
  refine ⟨fun c => isWordChar_iff, readWords?_eq text, exists_runsOf text, flatten_words text, ?_,
    hasOperators_iff, ?_⟩
  · rw [readWords?_eq]
    rfl
  · rintro before c after rfl foreign
    exact hasOperators_append_cons foreign before after

/-- A letter other than ASCII ends a word, and so does the end of the text. -/
theorem hasOperators_exact_between_umlauts :
    isWordChar 'ü' = false ∧ readWords? "SANDüNOT OR_".toList =
        some ["SAND".toList, "NOT".toList, "OR_".toList] ∧
      hasOperators "SANDüNOT OR_".toList =
        (hasOperators "SAND".toList || hasOperators "NOT OR_".toList) := by
  have found := hasOperators_exact "SANDüNOT OR_".toList
  have foreign : isWordChar 'ü' = false := by decide
  have read : words "SANDüNOT OR_".toList = ["SAND".toList, "NOT".toList, "OR_".toList] := by decide
  refine ⟨foreign, ?_, ?_⟩
  · rw [found.2.1, read]
  · exact found.2.2.2.2.2.2 "SAND".toList 'ü' "NOT OR_".toList rfl foreign

end FacetedSearch.Text
