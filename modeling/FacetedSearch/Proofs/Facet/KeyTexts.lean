/-
# FacetedSearch.Proofs.Facet.KeyTexts -- the texts that name facet keys

A text names a key if it is one or more ASCII letters and digits and, behind them, at most three
levels: each a point and one or more ASCII digits, whose value fits 32 bits (`Key.Spelled`).  The
key has the group and the values of the levels in their order (`Spelled.Names`), and the levels that
are not written are not set.

Those are all texts that are read, and the others are refused (`parse_eq_ok_iff`,
`parse_eq_error_iff`).  A level may be written with any number of zeros in front; the text of the
key is the one without them (`text_of_names`).  So each well-formed key is printed in one way and
read from it, and `parse_spellings` puts all of this together.
-/
import FacetedSearch.Facet.Key

namespace FacetedSearch

set_option autoImplicit false

/-! ## Zeros in front -/

namespace Text

/-- The digits without the zeros in front that another digit follows. -/
def trimZeros : List Char → List Char
  | '0' :: digit :: rest => trimZeros (digit :: rest)
  | digits => digits

/-- A zero stands in front of another digit. -/
def HasLeadingZero (digits : List Char) : Prop := ∃ rest, rest ≠ [] ∧ digits = '0' :: rest

/-- The number that digits stand for. -/
def value (digits : List Char) : Nat := Nat.ofDigitChars 10 digits 0

variable {digits : List Char}

theorem length_trimZeros_le (digits : List Char) : (trimZeros digits).length ≤ digits.length := by
  fun_induction trimZeros digits with
  | case1 digit rest ih => exact Nat.le_succ_of_le ih
  | case2 digits => exact Nat.le_refl _

theorem trimZeros_eq_self_iff : trimZeros digits = digits ↔ ¬HasLeadingZero digits := by
  constructor
  · rintro same ⟨rest, some_digit, rfl⟩
    obtain ⟨digit, rest, rfl⟩ := List.exists_cons_of_ne_nil some_digit
    have shorter := length_trimZeros_le (digit :: rest)
    rw [trimZeros] at same
    rw [same, List.length_cons] at shorter
    omega
  · intro plain
    fun_cases trimZeros digits with
    | case1 digit rest => exact absurd ⟨digit :: rest, by simp, rfl⟩ plain
    | case2 => rfl

theorem exists_digitChar {c : Char} (digit : c.isDigit = true) : ∃ d < 10, c = Nat.digitChar d := by
  have bounds : 48 ≤ c.toNat ∧ c.toNat ≤ 57 := by
    simpa [Char.isDigit, UInt32.le_iff_toNat_le] using digit
  have all : ∀ i : Fin 10, Nat.digitChar i = Char.ofNat (48 + i) := by decide
  have small : c.toNat - 48 < 10 := by omega
  have whole : 48 + (c.toNat - 48) = c.toNat := by omega
  refine ⟨c.toNat - 48, small, ?_⟩
  rw [all ⟨c.toNat - 48, small⟩, whole, Char.ofNat_toNat]

/-- Digits behind a positive number are written behind its digits. -/
theorem toDigits_ofDigitChars {n : Nat} (positive : 0 < n) (all : ∀ c ∈ digits, c.isDigit = true) :
    Nat.toDigits 10 (Nat.ofDigitChars 10 digits n) = Nat.toDigits 10 n ++ digits := by
  induction digits generalizing n with
  | nil => simp [Nat.ofDigitChars_nil]
  | cons c rest ih =>
      obtain ⟨first, others⟩ := List.forall_mem_cons.1 all
      obtain ⟨d, small, rfl⟩ := exists_digitChar first
      rw [Nat.ofDigitChars_cons_digitChar_of_lt_ten small, ih (by omega) others,
        ← Nat.toDigits_append_toDigits (by decide) positive small, Nat.toDigits_of_lt_base small,
        List.append_assoc, List.singleton_append]

/-- **The numeral of a value** is its digits without the zeros in front. -/
theorem numeral_value (all : isNumeral digits = true) :
    numeral (value digits) = trimZeros digits := by
  fun_induction trimZeros digits with
  | case1 digit rest ih =>
      obtain ⟨-, all⟩ := isRun_iff.1 all
      exact ih (isRun_iff.2 ⟨by simp, (List.forall_mem_cons.1 all).2⟩)
  | case2 digits first =>
      obtain ⟨some_digit, all⟩ := isRun_iff.1 all
      obtain ⟨c, rest, rfl⟩ := List.exists_cons_of_ne_nil some_digit
      obtain ⟨digit, others⟩ := List.forall_mem_cons.1 all
      obtain ⟨d, small, rfl⟩ := exists_digitChar digit
      rw [numeral, value, Nat.ofDigitChars_cons_digitChar_of_lt_ten small, Nat.mul_zero,
        Nat.zero_add]
      cases d with
      | zero =>
          cases rest with
          | nil => rfl
          | cons next rest => exact (first next rest rfl).elim
      | succ d =>
          rw [toDigits_ofDigitChars (Nat.succ_pos d) others, Nat.toDigits_of_lt_base small,
            List.singleton_append]

end Text

/-! ## Texts of keys -/

namespace Facet.Key

/-- A group and levels as texts, each level behind a point. -/
def joined (group : List Char) (levels : List (List Char)) : String :=
  String.ofList (group ++ levels.flatMap fun level => '.' :: level)

/-- A key as it may be written. -/
structure Spelled where
  group : List Char
  levels : List (List Char)
  group_ne_nil : group ≠ []
  /-- ASCII letters and digits. -/
  group_alphanum : ∀ c ∈ group, c.isAlphanum = true
  levels_length : levels.length ≤ 3
  levels_ne_nil : ∀ level ∈ levels, level ≠ []
  /-- ASCII digits. -/
  levels_digits : ∀ level ∈ levels, ∀ c ∈ level, c.isDigit = true
  levels_fit : ∀ level ∈ levels, Text.value level ≤ 4294967295

namespace Spelled

def text (w : Spelled) : String := joined w.group w.levels

/-- The key has the group and the values of the levels, and no other levels. -/
structure Names (w : Spelled) (k : Key) : Prop where
  group : k.group.toList = w.group
  topic : k.topic.map UInt32.toNat = w.levels[0]?.map Text.value
  subtopic : k.subtopic.map UInt32.toNat = w.levels[1]?.map Text.value
  subsubtopic : k.subsubtopic.map UInt32.toNat = w.levels[2]?.map Text.value

end Spelled

variable {group : List Char} {levels : List (List Char)} {values : List UInt32} {k l : Key}

/-! ### Levels -/

theorem levels_ofLevels (group : String) (short : values.length ≤ 3) :
    (ofLevels group values).levels = values := by
  match values, short with
  | [], _ => rfl
  | [_], _ => rfl
  | [_, _], _ => rfl
  | [_, _, _], _ => rfl

theorem readLevel?_eq_some_iff {digits : List Char} {level : UInt32} :
    readLevel? digits = some level ↔
      Text.isNumeral digits = true ∧ Text.value digits = level.toNat := by
  simp only [readLevel?, Option.map_eq_some_iff, Text.readNumeral?_eq_some_iff]
  constructor
  · rintro ⟨n, ⟨numeral, rfl, small⟩, rfl⟩
    exact ⟨numeral, (UInt32.toNat_ofNat_of_lt small).symm⟩
  · rintro ⟨numeral, same⟩
    have small : Text.value digits < UInt32.size := same ▸ level.toNat_lt
    have back : UInt32.ofNat (Text.value digits) = level := by rw [same, UInt32.ofNat_toNat]
    exact ⟨_, ⟨numeral, rfl, small⟩, back⟩

/-- Levels are read if they are numerals, and as their values. -/
theorem mapM_readLevel?_eq_some_iff :
    levels.mapM readLevel? = some values ↔
      (∀ level ∈ levels, Text.isNumeral level = true) ∧
        levels.map Text.value = values.map UInt32.toNat := by
  induction levels generalizing values with
  | nil => cases values <;> simp
  | cons level rest ih =>
      simp only [List.mapM_cons, Option.bind_eq_bind, Option.bind_eq_some_iff, Option.pure_def,
        Option.some.injEq, readLevel?_eq_some_iff, ih]
      constructor
      · rintro ⟨first, ⟨numeral, here⟩, others, ⟨numerals, later⟩, rfl⟩
        refine ⟨List.forall_mem_cons.2 ⟨numeral, numerals⟩, ?_⟩
        rw [List.map_cons, List.map_cons, here, later]
      · rintro ⟨numerals, same⟩
        obtain ⟨numeral, numerals⟩ := List.forall_mem_cons.1 numerals
        cases values with
        | nil => cases same
        | cons first others =>
            obtain ⟨here, later⟩ := List.cons.inj same
            exact ⟨first, ⟨numeral, here⟩, others, ⟨numerals, later⟩, rfl⟩

/-! ### Parts -/

theorem intercalate_points (group : List Char) (levels : List (List Char)) :
    ['.'].intercalate (group :: levels) = group ++ levels.flatMap fun level => '.' :: level :=
  Text.intercalate_cons_flatMap ['.'] group levels

theorem parts?_eq_some_iff {text : List Char} :
    parts? text = some (group, levels) ↔
      text = ['.'].intercalate (group :: levels) ∧ Text.isIdentifier group = true ∧
        (∀ level ∈ levels, Text.isNumeral level = true) ∧ levels.length ≤ 3 := by
  constructor
  · intro found
    obtain ⟨written, identifier, numerals⟩ := eq_intercalate_of_parts? found
    refine ⟨written, identifier, numerals, ?_⟩
    unfold parts? at found
    split at found
    · cases found
    · simp only [Option.ite_none_right_eq_some, Bool.and_eq_true, decide_eq_true_eq,
        Option.some.injEq, Prod.mk.injEq] at found
      obtain ⟨⟨-, short⟩, -, rfl⟩ := found
      exact short
  · rintro ⟨rfl, identifier, numerals, short⟩
    exact parts?_intercalate identifier numerals short

/-- The group and the levels can be told from the joined text. -/
theorem joined_inj {others : List (List Char)} (identifier : Text.isIdentifier group = true)
    (numerals : ∀ level ∈ levels, Text.isNumeral level = true) (short : levels.length ≤ 3)
    (other_numerals : ∀ level ∈ others, Text.isNumeral level = true)
    (other_short : others.length ≤ 3) (same : joined group levels = joined group others) :
    levels = others := by
  have chars := congrArg String.toList same
  simp only [joined, String.toList_ofList, ← intercalate_points] at chars
  have first := parts?_intercalate identifier numerals short
  rw [chars, parts?_intercalate identifier other_numerals other_short] at first
  simp only [Option.some.injEq, Prod.mk.injEq] at first
  exact first.2.symm

/-! ### Keys -/

namespace Spelled

variable (w : Spelled)

theorem isIdentifier_group : Text.isIdentifier w.group = true :=
  Text.isRun_iff.2 ⟨w.group_ne_nil, w.group_alphanum⟩

theorem isNumeral_level : ∀ level ∈ w.levels, Text.isNumeral level = true := fun level member =>
  Text.isRun_iff.2 ⟨w.levels_ne_nil level member, w.levels_digits level member⟩

variable {w}

/-- What is written names one key. -/
theorem Names.unique (first : w.Names k) (second : w.Names l) : k = l := by
  have number : Function.Injective (Option.map UInt32.toNat) :=
    Option.map_injective fun _ _ => UInt32.toNat_inj.1
  obtain ⟨group, topic, subtopic, subsubtopic⟩ := k
  obtain ⟨group', topic', subtopic', subsubtopic'⟩ := l
  obtain rfl : group = group' := String.toList_injective (first.group.trans second.group.symm)
  obtain rfl : topic = topic' := number (first.topic.trans second.topic.symm)
  obtain rfl : subtopic = subtopic' := number (first.subtopic.trans second.subtopic.symm)
  obtain rfl : subsubtopic = subsubtopic' :=
    number (first.subsubtopic.trans second.subsubtopic.symm)
  rfl

theorem names_ofLevels (same : w.levels.map Text.value = values.map UInt32.toNat) :
    w.Names (ofLevels (String.ofList w.group) values) := by
  have level (i : Nat) : values[i]?.map UInt32.toNat = w.levels[i]?.map Text.value := by
    rw [← List.getElem?_map, ← List.getElem?_map, same]
  exact ⟨String.toList_ofList, level 0, level 1, level 2⟩

theorem exists_values (w : Spelled) :
    ∃ values : List UInt32, w.levels.map Text.value = values.map UInt32.toNat := by
  refine ⟨w.levels.map fun level => UInt32.ofNat (Text.value level), ?_⟩
  rw [List.map_map]
  refine List.map_congr_left fun level member => ?_
  have small : Text.value level < UInt32.size := Nat.lt_succ_of_le (w.levels_fit level member)
  exact (UInt32.toNat_ofNat_of_lt small).symm

/-- Whatever is written names a key. -/
theorem exists_names (w : Spelled) : ∃ k, w.Names k := by
  obtain ⟨values, same⟩ := w.exists_values
  exact ⟨_, names_ofLevels same⟩

/-- **What is written is read as the key that it names.** -/
theorem ofText?_text_of_names (names : w.Names k) : ofText? w.text = some k := by
  obtain ⟨values, same⟩ := w.exists_values
  have parts : parts? w.text.toList = some (w.group, w.levels) := by
    refine parts?_eq_some_iff.2 ⟨?_, w.isIdentifier_group, w.isNumeral_level, w.levels_length⟩
    rw [text, joined, String.toList_ofList, intercalate_points]
  have read : w.levels.mapM readLevel? = some values :=
    mapM_readLevel?_eq_some_iff.2 ⟨w.isNumeral_level, same⟩
  rw [names.unique (names_ofLevels same)]
  simp [ofText?, parts, read]

/-- **The text of the key** is what is written, without zeros in front of levels. -/
theorem text_of_names (names : w.Names k) :
    k.text = joined w.group (w.levels.map Text.trimZeros) := by
  obtain ⟨values, same⟩ := w.exists_values
  have short : values.length ≤ 3 := by
    have := congrArg List.length same
    simp only [List.length_map] at this
    exact this ▸ w.levels_length
  have numerals : values.map (fun level => Text.numeral level.toNat) =
      w.levels.map Text.trimZeros := by
    calc values.map (fun level => Text.numeral level.toNat)
        = (values.map UInt32.toNat).map Text.numeral := (List.map_map).symm
      _ = w.levels.map (Text.numeral ∘ Text.value) := by rw [← same, List.map_map]
      _ = w.levels.map Text.trimZeros := List.map_congr_left fun level member =>
          Text.numeral_value (w.isNumeral_level level member)
  have group : (ofLevels (String.ofList w.group) values).group.toList = w.group :=
    String.toList_ofList
  rw [names.unique (names_ofLevels same), Key.text, chars, levels_ofLevels _ short, numerals, group,
    intercalate_points, joined]

/-- The key is printed as it is written if no level has a zero in front. -/
theorem text_eq_iff (names : w.Names k) :
    k.text = w.text ↔ ∀ level ∈ w.levels, ¬Text.HasLeadingZero level := by
  have trimmed : ∀ level ∈ w.levels.map Text.trimZeros, Text.isNumeral level = true := by
    intro digits member
    obtain ⟨level, listed, rfl⟩ := List.mem_map.1 member
    rw [← Text.numeral_value (w.isNumeral_level level listed)]
    exact Text.isNumeral_numeral _
  have unchanged : w.levels.map Text.trimZeros = w.levels ↔
      ∀ level ∈ w.levels, ¬Text.HasLeadingZero level := by
    conv => lhs; rhs; rw [← List.map_id w.levels]
    rw [List.map_inj_left]
    exact forall₂_congr fun level _ => Text.trimZeros_eq_self_iff
  rw [← unchanged, text_of_names names, text]
  constructor
  · exact joined_inj w.isIdentifier_group trimmed (by simpa using w.levels_length)
      w.isNumeral_level w.levels_length
  · intro same
    rw [same]

end Spelled

/-- Only what can be written is read. -/
theorem exists_spelled {text : String} (read : ofText? text = some k) :
    ∃ w : Spelled, w.text = text ∧ w.Names k := by
  simp only [ofText?, Option.bind_eq_bind, Option.bind_eq_some_iff, Prod.exists] at read
  obtain ⟨group, levels, parts, values, values_read, made⟩ := read
  obtain ⟨written, identifier, numerals, short⟩ := parts?_eq_some_iff.1 parts
  obtain ⟨-, same⟩ := mapM_readLevel?_eq_some_iff.1 values_read
  obtain ⟨group_ne_nil, group_alphanum⟩ := Text.isRun_iff.1 identifier
  have fits : ∀ level ∈ levels, Text.value level ≤ 4294967295 := by
    intro level member
    have listed : Text.value level ∈ values.map UInt32.toNat := same ▸ List.mem_map_of_mem member
    obtain ⟨value, -, same⟩ := List.mem_map.1 listed
    have := value.toNat_lt
    omega
  let w : Spelled :=
    { group, levels, group_ne_nil, group_alphanum, levels_length := short
      levels_ne_nil := fun level member => (Text.isRun_iff.1 (numerals level member)).1
      levels_digits := fun level member => (Text.isRun_iff.1 (numerals level member)).2
      levels_fit := fits }
  refine ⟨w, ?_, ?_⟩
  · rw [Spelled.text, joined, ← intercalate_points, ← written, String.ofList_toList]
  · rw [← Option.some.inj made]
    exact Spelled.names_ofLevels same

theorem parse_eq_ok_iff {text : String} :
    parse text = .ok k ↔ ∃ w : Spelled, w.text = text ∧ w.Names k := by
  have read : parse text = .ok k ↔ ofText? text = some k := by
    unfold parse
    cases ofText? text <;> simp
  rw [read]
  constructor
  · exact exists_spelled
  · rintro ⟨w, rfl, names⟩
    exact Spelled.ofText?_text_of_names names

theorem parse_eq_error_iff {text : String} {refusal : KeyError} :
    parse text = .error refusal ↔ refusal = ⟨text⟩ ∧ ∀ w : Spelled, w.text ≠ text := by
  cases read : ofText? text with
  | some k =>
      obtain ⟨w, written, -⟩ := exists_spelled read
      simp only [parse, read, reduceCtorEq, false_iff]
      exact fun unwritten => unwritten.2 w written
  | none =>
      have unwritten : ∀ w : Spelled, w.text ≠ text := by
        rintro w rfl
        obtain ⟨k, names⟩ := w.exists_names
        rw [Spelled.ofText?_text_of_names names] at read
        cases read
      simp only [parse, read, Except.error.injEq]
      exact ⟨fun same => ⟨same.symm, unwritten⟩, fun refused => refused.1.symm⟩

/-- **The texts of keys.**  A text is read as the key that it names, and any other text is refused
as it stands.  The text of the key has no zeros in front of its levels, and it is the text that was
read if that one has none either.  Each well-formed key is read from its own text, and no other
well-formed key has this text. -/
theorem parse_spellings :
    (∀ text k, parse text = .ok k ↔ ∃ w : Spelled, w.text = text ∧ w.Names k) ∧
      (∀ text refusal,
        parse text = .error refusal ↔ refusal = ⟨text⟩ ∧ ∀ w : Spelled, w.text ≠ text) ∧
      (∀ (w : Spelled) k, w.Names k →
        k.text = joined w.group (w.levels.map Text.trimZeros) ∧
          (k.text = w.text ↔ ∀ level ∈ w.levels, ¬Text.HasLeadingZero level)) ∧
      (∀ k : Key, k.WellFormed → parse k.text = .ok k) ∧
      ∀ k l : Key, k.WellFormed → l.WellFormed → k.text = l.text → k = l := by
  refine ⟨fun _ _ => parse_eq_ok_iff, fun _ _ => parse_eq_error_iff,
    fun w k names => ⟨Spelled.text_of_names names, Spelled.text_eq_iff names⟩, ?_, ?_⟩
  · intro k wellFormed
    rw [parse, ofText?_text wellFormed]
  · intro k l first second same
    have read := ofText?_text first
    rw [same, ofText?_text second] at read
    exact (Option.some.inj read).symm

namespace Example

/-- Two levels have zeros in front. -/
def padded : Spelled where
  group := "a1".toList
  levels := ["007".toList, "0".toList, "0000000000012".toList]
  group_ne_nil := by decide
  group_alphanum := List.all_eq_true.1 (by decide)
  levels_length := by decide
  levels_ne_nil := by decide
  levels_digits := by
    have all : ∀ level ∈ ["007".toList, "0".toList, "0000000000012".toList],
        level.all Char.isDigit = true := by decide
    exact fun level member => List.all_eq_true.1 (all level member)
  levels_fit := by decide

end Example

theorem parse_spellings_of_padded :
    let k : Key := ⟨"a1", some 7, some 0, some 12⟩
    Example.padded.Names k ∧ parse "a1.007.0.0000000000012" = .ok k ∧ k.text = "a1.7.0.12" ∧
      k.WellFormed ∧ parse "a1.7.0.12" = .ok k := by
  intro k
  obtain ⟨read, -, printed, back, -⟩ := parse_spellings
  have names : Example.padded.Names k := ⟨by decide, by decide, by decide, by decide⟩
  have text : k.text = "a1.7.0.12" := (printed _ _ names).1.trans (by decide)
  have wellFormed : k.WellFormed := by decide
  exact ⟨names, (read _ _).2 ⟨_, by decide, names⟩, text, wellFormed, text ▸ back k wellFormed⟩

end Facet.Key

end FacetedSearch
