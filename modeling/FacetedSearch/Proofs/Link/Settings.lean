/-
# FacetedSearch.Proofs.Link.Settings -- the values that settings take

The text of a parameter denotes a value of a setting or none: the two words of a flag, the code of a
sort method, a number of results that is not zero, fragments for the article ids
(`Format.Denotes`).  Reading finds exactly these values (`readValue?_eq_some_iff`).

Where parameters set a setting several times, it takes the value of the last one whose text denotes
a value; the others change nothing, and without such a parameter the setting stays as it was
(`Format.TakesLast`).
-/
import FacetedSearch.Proofs.Link.Parts

namespace FacetedSearch.Link

set_option autoImplicit false

variable {format : Format} {catalog : Catalog}

/-! ## Texts -/

/-- The text denotes the value of the setting. -/
def Format.Denotes (format : Format) : (setting : Setting) → String → setting.Value → Prop
  | .advanced, text, value => text = "true" ∧ value = true ∨ text = "false" ∧ value = false
  | .collapsed, text, value => text = "true" ∧ value = true ∨ text = "false" ∧ value = false
  | .sort, text, method => text = Coded.code method
  | .pageSize, text, n => ∃ digits : List Char, Text.isNumeral digits = true ∧
      (text.toList = digits ∨ text.toList = '+' :: digits) ∧
        Nat.ofDigitChars 10 digits 0 = n ∧ 1 ≤ n ∧ n < UInt64.size
  | .pmids, text, pmids => (format.fragments text).map String.ofList = pmids

theorem readBool?_eq_some_iff {text : String} {value : Bool} :
    readBool? text = some value ↔ text = "true" ∧ value = true ∨ text = "false" ∧ value = false := by
  fun_cases readBool? text <;> cases value <;> simp_all

theorem readPageSize?_eq_some_iff {text : String} {n : Nat} :
    readPageSize? text = some n ↔ format.Denotes .pageSize text n := by
  have notSign : ∀ rest, Text.isNumeral ('+' :: rest) = false := fun rest => by
    simp [Text.isNumeral, Text.isRun]
  simp only [readPageSize?, Option.filter_eq_some_iff, Text.readNumeral?_eq_some_iff, bne_iff_ne,
    ← Nat.one_le_iff_ne_zero, Format.Denotes]
  split
  · rename_i rest signed
    constructor
    · rintro ⟨⟨numeral, value, small⟩, positive⟩
      exact ⟨rest, numeral, .inr signed, value, positive, small⟩
    · rintro ⟨digits, numeral, plain | other, value, positive, small⟩
      · rw [← plain, signed, notSign] at numeral
        cases numeral
      · obtain rfl : rest = digits := by simpa [signed] using other
        exact ⟨⟨numeral, value, small⟩, positive⟩
  · rename_i unsigned
    constructor
    · rintro ⟨⟨numeral, value, small⟩, positive⟩
      exact ⟨text.toList, numeral, .inl rfl, value, positive, small⟩
    · rintro ⟨digits, numeral, rfl | signed, value, positive, small⟩
      · exact ⟨⟨numeral, value, small⟩, positive⟩
      · exact absurd signed (unsigned digits)

/-- **A setting reads exactly the texts that denote a value.** -/
theorem readValue?_eq_some_iff {setting : Setting} {text : String} {value : setting.Value} :
    format.readValue? setting text = some value ↔ format.Denotes setting text value := by
  cases setting with
  | advanced => exact readBool?_eq_some_iff
  | collapsed => exact readBool?_eq_some_iff
  | sort => exact Coded.ofCode?_eq_some_iff.trans eq_comm
  | pageSize => exact readPageSize?_eq_some_iff
  | pmids => exact Option.some_inj

/-! ## Parameters -/

/-- The parameter sets the setting to the value; one with the name of the subjects sets none. -/
structure Format.Sets (format : Format) (setting : Setting) (p : Parameter)
    (value : setting.Value) : Prop where
  name : p.name = setting.name
  no_subject : p.name ≠ format.subjectName
  denotes : format.Denotes setting p.value value

/-- What a setting is after the parameters: the value that the last of them sets it to, or what it
was before if none does. -/
inductive Format.TakesLast (format : Format) (setting : Setting) (old : setting.Value) :
    List Parameter → setting.Value → Prop
  | set {before after : List Parameter} {p : Parameter} {value : setting.Value}
      (sets : format.Sets setting p value)
      (last : ∀ q ∈ after, ∀ other, ¬format.Sets setting q other) :
      TakesLast format setting old (before ++ p :: after) value
  | unset {ps : List Parameter} (none : ∀ q ∈ ps, ∀ other, ¬format.Sets setting q other) :
      TakesLast format setting old ps old

theorem valueOf?_eq_some_iff {setting : Setting} {p : Parameter} {value : setting.Value} :
    format.valueOf? catalog setting p = some value ↔ format.Sets setting p value := by
  rw [Format.valueOf?]
  constructor
  · intro given
    split at given
    · rename_i purpose
      obtain ⟨no_subject, name⟩ := Format.purpose_eq_setting_iff.1 purpose
      exact ⟨name, no_subject, readValue?_eq_some_iff.1 given⟩
    · cases given
  · intro sets
    rw [if_pos (Format.purpose_eq_setting_iff.2 ⟨sets.no_subject, sets.name⟩)]
    exact readValue?_eq_some_iff.2 sets.denotes

theorem valueOf?_eq_none_iff {setting : Setting} {p : Parameter} :
    format.valueOf? catalog setting p = none ↔ ∀ value, ¬format.Sets setting p value := by
  rw [Option.eq_none_iff_forall_ne_some]
  exact forall_congr' fun value => not_congr valueOf?_eq_some_iff

namespace Format.TakesLast

variable {setting : Setting} {old value : setting.Value} {ps : List Parameter}

/-- A parameter that sets nothing may follow. -/
theorem concat {p : Parameter} (taken : format.TakesLast setting old ps value)
    (idle : ∀ other, ¬format.Sets setting p other) :
    format.TakesLast setting old (ps ++ [p]) value := by
  cases taken with
  | @set before after first _ sets last =>
      rw [List.append_assoc, List.cons_append]
      exact .set sets (List.forall_mem_append.2 ⟨last, List.forall_mem_singleton.2 idle⟩)
  | unset none =>
      exact .unset (List.forall_mem_append.2 ⟨none, List.forall_mem_singleton.2 idle⟩)

theorem getLast?_getD (ps : List Parameter) :
    format.TakesLast setting old ps
      (((ps.filterMap (format.valueOf? catalog setting)).getLast?).getD old) := by
  induction ps using List.reverseRecOn with
  | nil => exact .unset fun q member => nomatch member
  | append_singleton ps p ih =>
      rw [List.filterMap_append]
      cases given : format.valueOf? catalog setting p with
      | some value =>
          rw [List.filterMap_cons_some given, List.filterMap_nil, List.getLast?_concat]
          exact .set (valueOf?_eq_some_iff.1 given) fun q member => nomatch member
      | none =>
          rw [List.filterMap_cons_none given, List.filterMap_nil, List.append_nil]
          exact ih.concat (valueOf?_eq_none_iff.1 given)

/-- **There is one value to take**: the last one that the parameters give. -/
theorem iff_getLast? (catalog : Catalog) :
    format.TakesLast setting old ps value ↔
      ((ps.filterMap (format.valueOf? catalog setting)).getLast?).getD old = value := by
  constructor
  · intro taken
    have nothing {qs : List Parameter} (idle : ∀ q ∈ qs, ∀ other, ¬format.Sets setting q other) :
        qs.filterMap (format.valueOf? catalog setting) = [] :=
      List.filterMap_eq_nil_iff.2 fun q member => valueOf?_eq_none_iff.2 (idle q member)
    cases taken with
    | set sets last =>
        rw [List.filterMap_append, List.filterMap_cons_some (valueOf?_eq_some_iff.2 sets),
          nothing last, List.getLast?_concat]
        rfl
    | unset none =>
        rw [nothing none]
        rfl
  · rintro rfl
    exact getLast?_getD ps

end Format.TakesLast

end FacetedSearch.Link
