/-
# FacetedSearch.Proofs.Link.Entries -- the entries of a value read back

An entry that the catalog has, or a tag with a name, is read from its own fragment as what a link
keeps of it (`readEntry_entryChars`): everything of a facet; of a tag its name, its scope and, in a
subject, whether it is translated.  Names are any texts.  The token of a tag is taken apart from its
ends, so braces, digits and `#` inside a name are its own.

The fragments of a value are read one by one, so what remains is that the value is cut between its
entries and nowhere else, which is what `Separable` says (`readEntries_entriesValue`).
-/
import FacetedSearch.Link.Read
import FacetedSearch.Proofs.Link.Kept
import Mathlib.Data.List.Infix

namespace FacetedSearch

set_option autoImplicit false

/-- The entry can be named at a position: a facet by its key, which the catalog has there, and a tag
by its name, which is not empty. -/
def Entry.Nameable (catalog : Catalog) (position : Link.Position) : Entry → Prop
  | facet f _ => f.key.WellFormed ∧ Link.findFacet? catalog position f.key = some f
  | custom tag => tag.name ≠ ""

instance (catalog : Catalog) (position : Link.Position) : (e : Entry) →
    Decidable (e.Nameable catalog position)
  | .facet f _ =>
      inferInstanceAs
        (Decidable (f.key.WellFormed ∧ Link.findFacet? catalog position f.key = some f))
  | .custom tag => inferInstanceAs (Decidable (tag.name ≠ ""))

/-- A facet that is found has the key that was looked for. -/
theorem Link.key_of_findFacet? {catalog : Catalog} {position : Link.Position} {key : Facet.Key}
    {f : Facet} (found : Link.findFacet? catalog position key = some f) : f.key = key := by
  cases position with
  | subject => exact (Keyed.mem_of_lookup found).2
  | filter name =>
      obtain ⟨category, -, hchoice⟩ := Option.bind_eq_some_iff.1 found
      exact (Keyed.mem_of_lookup hchoice).2

namespace Link

/-! ## Tokens -/

theorem unbrace?_eq_some_iff {token inside : List Char} :
    unbrace? token = some inside ↔ token = "\x7b\x7b".toList ++ (inside ++ "\x7d\x7d".toList) := by
  simp only [unbrace?, Option.bind_eq_some_iff, List.isPrefixOf?_eq_some_iff_append_eq,
    List.isSuffixOf?_eq_some_iff_append_eq]
  constructor
  · rintro ⟨rest, rfl, rfl⟩
    rfl
  · rintro rfl
    exact ⟨_, rfl, rfl⟩

/-- What stands in the braces of a tag. -/
def tagInside (position : Position) (tag : CustomTag) : List Char :=
  match position with
  | .subject => tag.name.toList ++ [' ', if tag.translated then '1' else '0']
  | .filter _ => tag.name.toList

theorem unbrace?_tagToken (position : Position) (tag : CustomTag) :
    unbrace? (tagToken position tag) = some (tagInside position tag) := by
  rw [unbrace?_eq_some_iff]
  cases position <;> simp [tagToken, tagInside]

theorem isSuffixOf?_append_digit (digit other : Char) (name : List Char) :
    [' ', digit].isSuffixOf? (name ++ [' ', other]) =
      if other = digit then some name else none := by
  split
  · rename_i same
    rw [List.isSuffixOf?_eq_some_iff_append_eq, same]
  · rename_i different
    rw [Option.eq_none_iff_forall_ne_some]
    intro rest h
    rw [List.isSuffixOf?_eq_some_iff_append_eq] at h
    have same : digit = other := by simpa using List.append_inj_right' h rfl
    exact different same.symm

theorem readTag_tagInside (position : Position) (tag : CustomTag) :
    readTag position tag.scope (tagInside position tag) = tag.kept position := by
  cases position with
  | filter category => simp [readTag, tagInside, CustomTag.kept]
  | subject =>
      obtain ⟨name, scope, translated, typedName⟩ := tag
      cases translated with
      | true =>
          have hone : " 1".toList.isSuffixOf? (name.toList ++ [' ', '1']) = some name.toList :=
            isSuffixOf?_append_digit '1' '1' name.toList
          simp only [readTag, tagInside, if_true, hone, CustomTag.kept, String.ofList_toList]
      | false =>
          have hone : " 1".toList.isSuffixOf? (name.toList ++ [' ', '0']) = none :=
            isSuffixOf?_append_digit '1' '0' name.toList
          have hzero : " 0".toList.isSuffixOf? (name.toList ++ [' ', '0']) = some name.toList :=
            isSuffixOf?_append_digit '0' '0' name.toList
          simp only [readTag, tagInside, Bool.false_eq_true, if_false, hone, hzero, CustomTag.kept,
            String.ofList_toList]

/-- The texts of keys do not look like tags. -/
theorem unbrace?_of_ofText? {token : List Char} {key : Facet.Key}
    (names : Facet.Key.ofText? (String.ofList token) = some key) : unbrace? token = none := by
  rw [Option.eq_none_iff_forall_ne_some]
  intro inside h
  rw [unbrace?_eq_some_iff] at h
  have hbrace : '\x7b' ∈ (String.ofList token).toList := by simp [h]
  rcases Facet.Key.mem_of_ofText? names hbrace with hpoint | halphanum
  · exact absurd hpoint (by decide)
  · exact absurd halphanum (by decide)

variable {catalog : Catalog} {position : Position}

theorem readToken_entryToken {e : Entry} (nameable : e.Nameable catalog position)
    (parameter : String) (fragment : List Char) :
    readToken catalog position parameter fragment (entryToken position e) e.scope =
      .ok (e.kept position) := by
  cases e with
  | facet f scope =>
      obtain ⟨wellFormed, found⟩ := nameable
      have hkey : Facet.Key.ofText? (String.ofList f.key.chars) = some f.key :=
        Facet.Key.ofText?_text wellFormed
      simp [readToken, entryToken, unbrace?_of_ofText? hkey, hkey, found, Entry.kept, Entry.scope]
  | custom tag =>
      have hname : (tag.kept position).name ≠ "" := nameable
      simp [readToken, entryToken, unbrace?_tagToken, Entry.scope, readTag_tagInside, hname,
        Entry.kept]

namespace Format

variable {format : Format}

/-! ## Fragments -/

/-- **The fragment of an entry reads as what a link keeps of it.** -/
theorem readEntry_entryChars {e : Entry} (nameable : e.Nameable catalog position)
    (parameter : String) :
    format.readEntry catalog position parameter (format.entryChars position e) =
      .ok (e.kept position) := by
  have hcut := Text.cutLast?_append (entryToken position e)
    (format.scopeCodes.hash_notMem_code e.scope)
  have hscope : format.scopeCodes.scope? (format.scopeCodes.code e.scope) = some e.scope :=
    Scope.Codes.scope?_eq_some_iff.2 rfl
  simp only [readEntry, entryChars, hcut, String.ofList_toList, hscope]
  exact readToken_entryToken nameable parameter _

theorem entryChars_ne_nil (e : Entry) : format.entryChars position e ≠ [] := by simp [entryChars]

/-- Joined texts are the fragments of their value, if they are separable and none is empty. -/
theorem fragments_intercalate (hsep : format.separator ≠ "") {texts : List (List Char)}
    (hne : ∀ text ∈ texts, text ≠ [])
    (separable : Text.Separable format.separator.toList texts) :
    format.fragments (String.ofList (format.separator.toList.intercalate texts)) = texts := by
  have hsep' : format.separator.toList ≠ [] := by simpa using hsep
  have hall : texts.filter (fun piece => !piece.isEmpty) = texts := by
    rw [List.filter_eq_self]
    intro text htext
    simpa using hne text htext
  cases texts with
  | nil => simp [fragments, Text.splitOnText, hsep, Text.splitFrom]
  | cons first rest =>
      rw [fragments, String.toList_ofList,
        Text.splitOnText_intercalate hsep' (by simp) separable, hall]

/-- **The value of some entries reads as what a link keeps of each.** -/
theorem readEntries_entriesValue (hsep : format.separator ≠ "") {entries : List Entry}
    (nameable : ∀ e ∈ entries, e.Nameable catalog position)
    (separable : Text.Separable format.separator.toList
      (entries.map (format.entryChars position))) (name : String) :
    format.readEntries catalog position ⟨name, format.entriesValue position entries⟩ =
      (entries.map (Entry.kept position)).map .ok := by
  have hne : ∀ text ∈ entries.map (format.entryChars position), text ≠ [] := by
    intro text htext
    obtain ⟨e, -, rfl⟩ := List.mem_map.1 htext
    exact entryChars_ne_nil e
  rw [readEntries, entriesValue, fragments_intercalate hsep hne separable, List.map_map,
    List.map_map]
  refine List.map_congr_left fun e he => ?_
  exact readEntry_entryChars (nameable e he) name

end Format

/-! ## Results -/

theorem usable_map_ok (entries : List Entry) : usable (entries.map .ok) = entries := by
  simp [usable, List.filterMap_map, Except.toOption]

theorem reports_map_ok (entries : List Entry) : reports (entries.map .ok) = [] := by
  simp [reports, List.filterMap_map]

end Link

end FacetedSearch
