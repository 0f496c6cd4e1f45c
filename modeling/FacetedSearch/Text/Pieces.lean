/-
# FacetedSearch.Text.Pieces -- cutting a text at separators

Texts are cut in three ways: at every occurrence of a separator text (`splitOnText`), at the first
occurrence of a character (`cutFirst?`) and at its last one (`cutLast?`).  Cutting at every
occurrence of one character is `List.splitOn`.  Every cut removes exactly the separators, so
joining the pieces with the separator gives the text back (`intercalate_splitOnText`,
`eq_of_cutFirst?`, `eq_of_cutLast?`).
-/
namespace FacetedSearch.Text

set_option autoImplicit false

/-! ## Separator texts -/

/-- Puts a character in front of the first piece. -/
def prependChar (c : Char) : List (List Char) → List (List Char)
  | [] => [[c]]
  | piece :: pieces => (c :: piece) :: pieces

/-- The pieces of a text whose first `skip` characters still belong to an occurrence of `sep`.
Occurrences are taken from the left and do not overlap. -/
def splitFrom (sep : List Char) : Nat → List Char → List (List Char)
  | _, [] => [[]]
  | skip + 1, _ :: rest => splitFrom sep skip rest
  | 0, c :: rest =>
    if sep.isPrefixOf (c :: rest) then [] :: splitFrom sep (sep.length - 1) rest
    else prependChar c (splitFrom sep 0 rest)

/-- The pieces of a text between the occurrences of `sep`.  The empty separator stands between
any two characters and at both ends. -/
def splitOnText (sep text : List Char) : List (List Char) :=
  if sep.isEmpty then [] :: (text.map fun c => [c]) ++ [[]] else splitFrom sep 0 text

theorem prependChar_ne_nil (c : Char) (pieces : List (List Char)) :
    prependChar c pieces ≠ [] := by
  cases pieces <;> simp [prependChar]

theorem flatten_prependChar (c : Char) (pieces : List (List Char)) :
    (prependChar c pieces).flatten = c :: pieces.flatten := by
  cases pieces <;> rfl

theorem splitFrom_ne_nil (sep : List Char) (skip : Nat) (text : List Char) :
    splitFrom sep skip text ≠ [] := by
  induction text generalizing skip with
  | nil => simp [splitFrom]
  | cons c rest ih =>
    cases skip with
    | succ skip => simpa [splitFrom] using ih skip
    | zero =>
      simp only [splitFrom]
      split
      · simp
      · exact prependChar_ne_nil c _

theorem intercalate_prependChar (sep : List Char) (c : Char) {pieces : List (List Char)}
    (h : pieces ≠ []) :
    sep.intercalate (prependChar c pieces) = c :: sep.intercalate pieces := by
  match pieces, h with
  | [piece], _ => simp [prependChar, List.intercalate]
  | piece :: next :: pieces, _ => simp [prependChar, List.intercalate]

theorem intercalate_splitFrom {sep : List Char} (h : sep ≠ []) (skip : Nat) (text : List Char) :
    sep.intercalate (splitFrom sep skip text) = text.drop skip := by
  induction text generalizing skip with
  | nil => simp [splitFrom, List.intercalate]
  | cons c rest ih =>
    cases skip with
    | succ skip => simpa [splitFrom] using ih skip
    | zero =>
      simp only [splitFrom]
      split
      · rename_i hprefix
        obtain ⟨tail, htail⟩ := List.isPrefixOf_iff_prefix.1 hprefix
        obtain ⟨d, ds, rfl⟩ := List.exists_cons_of_ne_nil h
        simp only [List.cons_append, List.cons.injEq] at htail
        have hjoin := ih ((d :: ds).length - 1)
        rw [← htail.2] at hjoin ⊢
        obtain ⟨piece, pieces, hpieces⟩ :=
          List.exists_cons_of_ne_nil (splitFrom_ne_nil (d :: ds) ((d :: ds).length - 1) (ds ++ tail))
        rw [hpieces] at hjoin ⊢
        simp only [List.length_cons, Nat.add_sub_cancel, List.drop_left] at hjoin
        obtain ⟨rfl, rfl⟩ := htail
        simpa [List.intercalate] using hjoin
      · rw [intercalate_prependChar sep c (splitFrom_ne_nil _ _ _), ih 0]
        simp

/-- Joining the pieces with a non-empty separator gives the text back. -/
theorem intercalate_splitOnText {sep : List Char} (h : sep ≠ []) (text : List Char) :
    sep.intercalate (splitOnText sep text) = text := by
  simpa [splitOnText, h] using intercalate_splitFrom h 0 text

/-- Joined texts are the first one and each other behind a separator. -/
theorem intercalate_cons_flatMap (sep first : List Char) (rest : List (List Char)) :
    sep.intercalate (first :: rest) = first ++ rest.flatMap (sep ++ ·) := by
  induction rest generalizing first with
  | nil => simp
  | cons next rest ih => simp [ih]

/-- A character of joined texts is one of theirs or of the separator. -/
theorem mem_intercalate {sep : List Char} {c : Char} {texts : List (List Char)}
    (h : c ∈ sep.intercalate texts) : c ∈ sep ∨ ∃ text ∈ texts, c ∈ text := by
  induction texts with
  | nil => simp at h
  | cons text rest ih =>
    cases rest with
    | nil => exact .inr ⟨text, by simp, by simpa using h⟩
    | cons next rest =>
      simp only [List.intercalate_cons_cons, List.mem_append] at h
      rcases h with (h | h) | h
      · exact .inr ⟨text, by simp, h⟩
      · exact .inl h
      · exact (ih h).imp_right fun ⟨t, ht, hc⟩ => ⟨t, List.mem_cons_of_mem _ ht, hc⟩

/-! ## Occurrences -/

/-- The pattern occurs somewhere in the text. -/
def containsText (pattern : List Char) : List Char → Bool
  | [] => pattern.isEmpty
  | c :: rest => pattern.isPrefixOf (c :: rest) || containsText pattern rest

theorem containsText_iff {pattern text : List Char} :
    containsText pattern text = true ↔ pattern <:+: text := by
  induction text with
  | nil => simp [containsText]
  | cons c rest ih =>
    rw [containsText, Bool.or_eq_true, List.isPrefixOf_iff_prefix, ih, List.infix_cons_iff]

/-! ## Single cuts -/

/-- The texts before and after the first `c`. -/
def cutFirst? (c : Char) : List Char → Option (List Char × List Char)
  | [] => none
  | x :: rest =>
    if x = c then some ([], rest)
    else (cutFirst? c rest).map fun (before, after) => (x :: before, after)

/-- The texts before and after the last `c`. -/
def cutLast? (c : Char) : List Char → Option (List Char × List Char)
  | [] => none
  | x :: rest =>
    match cutLast? c rest with
    | some (before, after) => some (x :: before, after)
    | none => if x = c then some ([], rest) else none

theorem cutFirst?_eq_none {c : Char} {text : List Char} (h : c ∉ text) :
    cutFirst? c text = none := by
  induction text with
  | nil => rfl
  | cons x rest ih =>
    simp only [List.mem_cons, not_or] at h
    simp [cutFirst?, Ne.symm h.1, ih h.2]

theorem cutFirst?_append {c : Char} {before : List Char} (h : c ∉ before) (after : List Char) :
    cutFirst? c (before ++ c :: after) = some (before, after) := by
  induction before with
  | nil => simp [cutFirst?]
  | cons x rest ih =>
    simp only [List.mem_cons, not_or] at h
    simp [cutFirst?, Ne.symm h.1, ih h.2]

theorem cutLast?_eq_none_iff {c : Char} {text : List Char} :
    cutLast? c text = none ↔ c ∉ text := by
  induction text with
  | nil => simp [cutLast?]
  | cons x rest ih =>
    rw [List.mem_cons, not_or, ← ih, cutLast?]
    cases cutLast? c rest <;> simp [eq_comm]

theorem cutLast?_append {c : Char} (before : List Char) {after : List Char} (h : c ∉ after) :
    cutLast? c (before ++ c :: after) = some (before, after) := by
  induction before with
  | nil => simp [cutLast?, cutLast?_eq_none_iff.2 h]
  | cons x rest ih => simp [cutLast?, ih]

theorem eq_of_cutFirst? {c : Char} {text before after : List Char}
    (h : cutFirst? c text = some (before, after)) :
    text = before ++ c :: after ∧ c ∉ before := by
  induction text generalizing before with
  | nil => simp [cutFirst?] at h
  | cons x rest ih =>
    simp only [cutFirst?] at h
    split at h
    · rename_i hx
      simp only [Option.some.injEq, Prod.mk.injEq] at h
      obtain ⟨rfl, rfl⟩ := h
      simp [hx]
    · rename_i hx
      obtain ⟨⟨b, a⟩, hcut, heq⟩ := Option.map_eq_some_iff.1 h
      simp only [Prod.mk.injEq] at heq
      obtain ⟨rfl, rfl⟩ := heq
      obtain ⟨rfl, hb⟩ := ih hcut
      exact ⟨rfl, by simp [hb, Ne.symm hx]⟩

theorem eq_of_cutLast? {c : Char} {text before after : List Char}
    (h : cutLast? c text = some (before, after)) :
    text = before ++ c :: after ∧ c ∉ after := by
  induction text generalizing before with
  | nil => simp [cutLast?] at h
  | cons x rest ih =>
    simp only [cutLast?] at h
    split at h
    · rename_i b a hcut
      simp only [Option.some.injEq, Prod.mk.injEq] at h
      obtain ⟨rfl, rfl⟩ := h
      obtain ⟨rfl, ha⟩ := ih hcut
      exact ⟨rfl, ha⟩
    · rename_i hcut
      split at h
      · rename_i hx
        simp only [Option.some.injEq, Prod.mk.injEq] at h
        obtain ⟨rfl, rfl⟩ := h
        exact ⟨by simp [hx], cutLast?_eq_none_iff.1 hcut⟩
      · simp at h

end FacetedSearch.Text
