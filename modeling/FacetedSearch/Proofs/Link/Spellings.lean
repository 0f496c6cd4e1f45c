/-
# FacetedSearch.Proofs.Link.Spellings -- the texts of an entry, and no others

A fragment spells an entry if it is a token and the code of the scope of the entry, with `#` between
the two (`Entry.Spelled`).  The token of a facet is any text of its key, and that of a tag is its
name in braces, with a digit in a subject that tells whether the tag is translated; a tag that is
not may go without the digit, unless its name looks as if it had one (`NameSpells`).

A fragment that spells nothing is refused, for one of four reasons (`Refused`).  Neither relation
mentions the reading of a fragment.  One of them holds of each fragment (`spelled_or_refused`), and
reading agrees with both (`readEntry_of_spelled`, `readEntry_of_refused`).  So a fragment is read as
what it spells, and no fragment spells two entries (`readEntry_spellings`).
-/
import FacetedSearch.Proofs.Catalog.Built
import FacetedSearch.Proofs.Link.Entries

namespace FacetedSearch

set_option autoImplicit false

namespace Link

/-- A text in double braces. -/
def braced (inside : List Char) : List Char := "\x7b\x7b".toList ++ (inside ++ "\x7d\x7d".toList)

/-- The inside of braces spells a name, of a tag that is translated or is not. -/
inductive NameSpells : Position → List Char → Bool → List Char → Prop
  | translated (name : List Char) : NameSpells .subject name true (name ++ " 1".toList)
  | typed (name : List Char) : NameSpells .subject name false (name ++ " 0".toList)
  | bare {name : List Char} (no_one : ¬" 1".toList <:+ name) (no_zero : ¬" 0".toList <:+ name) :
      NameSpells .subject name false name
  | filter (category : String) (name : List Char) : NameSpells (.filter category) name false name

/-- The token is that of a tag without a name. -/
def Nameless (position : Position) (token : List Char) : Prop :=
  ∃ translated inside, NameSpells position [] translated inside ∧ token = braced inside

/-- The catalog has the facet under the key, among its subjects or in the category of a filter. -/
inductive FacetAt (catalog : Catalog) : Position → Facet.Key → Facet → Prop
  | subject {key : Facet.Key} {f : Facet} (found : catalog.subject? key = some f) :
      FacetAt catalog .subject key f
  | choice {category : String} {key : Facet.Key} {f : Facet}
      (found : catalog.choice? category key = some f) : FacetAt catalog (.filter category) key f

/-- The token spells the entry. -/
inductive TokenSpells (catalog : Catalog) (position : Position) : Entry → List Char → Prop
  | facet {f : Facet} {scope : Scope} {key : Facet.Key} {token : List Char}
      (names : Facet.Key.ofText? (String.ofList token) = some key)
      (found : FacetAt catalog position key f) :
      TokenSpells catalog position (.facet f scope) token
  | custom {tag : CustomTag} {inside : List Char} (named : tag.name ≠ "")
      (untyped : tag.typedName = none)
      (spells : NameSpells position tag.name.toList tag.translated inside) :
      TokenSpells catalog position (.custom tag) (braced inside)

end Link

/-- The fragment spells the entry: its token, and the code of its scope after the last `#`. -/
def Entry.Spelled (format : Link.Format) (catalog : Catalog) (position : Link.Position)
    (fragment : List Char) (e : Entry) : Prop :=
  ∃ token, fragment = token ++ '#' :: (format.scopeCodes.code e.scope).toList ∧
    Link.TokenSpells catalog position e token

namespace Link

/-- The fragment of the parameter spells no entry, for the reason that is reported. -/
inductive Refused (format : Format) (catalog : Catalog) (position : Position) (parameter : String)
    (fragment : List Char) : Diagnostic → Prop
  | unmarked (absent : '#' ∉ fragment) :
      Refused format catalog position parameter fragment
        (.unparsableFragment parameter (String.ofList fragment))
  | unknownCode {token code : List Char} (cut : fragment = token ++ '#' :: code)
      (last : '#' ∉ code) (unknown : ∀ scope, (format.scopeCodes.code scope).toList ≠ code) :
      Refused format catalog position parameter fragment
        (.unknownScopeCode parameter (String.ofList code))
  | nameless {token : List Char} {scope : Scope}
      (cut : fragment = token ++ '#' :: (format.scopeCodes.code scope).toList)
      (nameless : Nameless position token) :
      Refused format catalog position parameter fragment
        (.unparsableFragment parameter (String.ofList fragment))
  | unresolvable {token : List Char} {scope : Scope}
      (cut : fragment = token ++ '#' :: (format.scopeCodes.code scope).toList)
      (named : ¬Nameless position token)
      (nothing : ∀ e : Entry, e.scope = scope → ¬TokenSpells catalog position e token) :
      Refused format catalog position parameter fragment
        (.unresolvableToken parameter (String.ofList token))

variable {catalog : Catalog} {position : Position} {parameter : String}
  {fragment token inside name : List Char} {scope : Scope} {translated : Bool} {e : Entry}

/-! ## Tokens -/

theorem facetAt_iff {key : Facet.Key} {f : Facet} :
    FacetAt catalog position key f ↔ findFacet? catalog position key = some f := by
  constructor
  · rintro (found | found)
    · exact found
    · exact found
  · intro found
    cases position with
    | subject => exact .subject found
    | filter category => exact .choice found

theorem unbrace?_braced (inside : List Char) : unbrace? (braced inside) = some inside :=
  unbrace?_eq_some_iff.2 rfl

/-- **A name is read from what spells it.** -/
theorem readTag_of_spells (spells : NameSpells position name translated inside) (scope : Scope) :
    readTag position scope inside = ⟨String.ofList name, scope, translated, none⟩ := by
  have cut (digit : Char) (name : List Char) :
      [' ', digit].isSuffixOf? (name ++ [' ', digit]) = some name :=
    List.isSuffixOf?_eq_some_iff_append_eq.2 rfl
  have uncut {digit : Char} {name : List Char} (absent : ¬[' ', digit] <:+ name) :
      [' ', digit].isSuffixOf? name = none := by
    rw [Option.eq_none_iff_forall_ne_some]
    intro rest found
    exact absent ⟨rest, List.isSuffixOf?_eq_some_iff_append_eq.1 found⟩
  cases spells with
  | @translated name =>
      have one : " 1".toList.isSuffixOf? (name ++ " 1".toList) = some name := cut '1' name
      rw [readTag, one]
  | @typed name =>
      have one : " 1".toList.isSuffixOf? (name ++ " 0".toList) = none :=
        isSuffixOf?_append_digit '1' '0' name
      have zero : " 0".toList.isSuffixOf? (name ++ " 0".toList) = some name := cut '0' name
      rw [readTag, one, zero]
  | bare no_one no_zero =>
      have one : " 1".toList.isSuffixOf? inside = none := uncut no_one
      have zero : " 0".toList.isSuffixOf? inside = none := uncut no_zero
      rw [readTag, one, zero]
  | filter => rfl

/-- Whatever stands in braces spells a name. -/
theorem exists_nameSpells (position : Position) (inside : List Char) :
    ∃ name translated, NameSpells position name translated inside := by
  cases position with
  | filter category => exact ⟨inside, false, .filter category inside⟩
  | subject =>
      by_cases one : " 1".toList <:+ inside
      · obtain ⟨name, rfl⟩ := one
        exact ⟨name, true, .translated name⟩
      · by_cases zero : " 0".toList <:+ inside
        · obtain ⟨name, rfl⟩ := zero
          exact ⟨name, false, .typed name⟩
        · exact ⟨inside, false, .bare one zero⟩

/-- A name is the beginning of what spells it. -/
theorem NameSpells.name_begins (spells : NameSpells position name translated inside) :
    name <+: inside := by
  cases spells with
  | translated => exact List.prefix_append _ _
  | typed => exact List.prefix_append _ _
  | bare => exact List.prefix_rfl
  | filter => exact List.prefix_rfl

theorem readToken_of_spells (spells : TokenSpells catalog position e token) :
    readToken catalog position parameter fragment token e.scope = .ok e := by
  cases spells with
  | facet names found =>
      simp only [readToken, unbrace?_of_ofText? names, names, Option.bind_some,
        facetAt_iff.1 found, Entry.scope]
  | @custom tag inside named untyped spells =>
      obtain ⟨name, scope, translated, typedName⟩ := tag
      obtain rfl : typedName = none := untyped
      have read := readTag_of_spells spells scope
      rw [String.ofList_toList] at read
      simp only [readToken, unbrace?_braced, Entry.scope, read]
      rw [if_neg named]

theorem readToken_of_nameless (nameless : Nameless position token) :
    readToken catalog position parameter fragment token scope =
      .error (.unparsableFragment parameter (String.ofList fragment)) := by
  obtain ⟨translated, inside, spells, rfl⟩ := nameless
  simp only [readToken, unbrace?_braced, readTag_of_spells spells scope]
  rfl

/-- A token that has a name and spells no entry is reported. -/
theorem readToken_of_nothing (named : ¬Nameless position token)
    (nothing : ∀ e : Entry, e.scope = scope → ¬TokenSpells catalog position e token) :
    readToken catalog position parameter fragment token scope =
      .error (.unresolvableToken parameter (String.ofList token)) := by
  cases unbraced : unbrace? token with
  | some inside =>
      exfalso
      obtain rfl : token = braced inside := unbrace?_eq_some_iff.1 unbraced
      obtain ⟨name, translated, spells⟩ := exists_nameSpells position inside
      by_cases empty : name = []
      · subst empty
        exact named ⟨translated, inside, spells, rfl⟩
      · have some_name : String.ofList name ≠ "" := fun none =>
          empty (String.ofList_eq_empty_iff.1 none)
        rw [← String.toList_ofList (l := name)] at spells
        exact nothing (.custom ⟨String.ofList name, scope, translated, none⟩) rfl
          (.custom some_name rfl spells)
  | none =>
      cases found :
          (Facet.Key.ofText? (String.ofList token)).bind (findFacet? catalog position) with
      | none => simp only [readToken, unbraced, found]
      | some f =>
          obtain ⟨key, names, found⟩ := Option.bind_eq_some_iff.1 found
          exact absurd (.facet names (facetAt_iff.2 found)) (nothing (.facet f scope) rfl)

end Link

/-! ## Entries that are spelled -/

namespace Entry.Spelled

variable {format : Link.Format} {catalog : Catalog} {position : Link.Position}
  {fragment : List Char} {e : Entry}

/-- What is spelled can be named. -/
theorem nameable (spelled : e.Spelled format catalog position fragment) :
    e.Nameable catalog position := by
  obtain ⟨token, -, spells⟩ := spelled
  cases spells with
  | facet names found =>
      have looked_up := Link.facetAt_iff.1 found
      obtain rfl := Link.key_of_findFacet? looked_up
      exact ⟨Facet.Key.wellFormed_of_ofText? names, looked_up⟩
  | custom named => exact named

/-- Links keep all of what is spelled. -/
theorem kept_eq (spelled : e.Spelled format catalog position fragment) : e.kept position = e := by
  obtain ⟨token, -, spells⟩ := spelled
  cases spells with
  | facet => rfl
  | @custom tag inside named untyped spells =>
      obtain ⟨name, scope, translated, typedName⟩ := tag
      obtain rfl : typedName = none := untyped
      cases spells <;> rfl

theorem name_occurs {tag : CustomTag}
    (spelled : (custom tag).Spelled format catalog position fragment) :
    tag.name.toList <:+: fragment := by
  obtain ⟨token, rfl, spells⟩ := spelled
  cases spells with
  | @custom tag inside named untyped spells =>
      have within : tag.name.toList <:+: Link.braced inside :=
        spells.name_begins.isInfix.trans (List.infix_append' _ _ _)
      exact within.trans (List.prefix_append _ _).isInfix

end Entry.Spelled

namespace Link

variable {format : Format} {catalog : Catalog} {position : Position} {parameter : String}
  {fragment token : List Char} {scope : Scope} {e : Entry} {report : Diagnostic}

/-! ## Fragments -/

theorem readEntry_of_cut (cut : fragment = token ++ '#' :: (format.scopeCodes.code scope).toList) :
    format.readEntry catalog position parameter fragment =
      readToken catalog position parameter fragment token scope := by
  have last := Text.cutLast?_append token (format.scopeCodes.hash_notMem_code scope)
  have known : format.scopeCodes.scope? (format.scopeCodes.code scope) = some scope :=
    Scope.Codes.scope?_eq_some_iff.2 rfl
  rw [← cut] at last
  simp only [Format.readEntry, last, String.ofList_toList, known]

theorem scope?_eq_none {code : List Char}
    (unknown : ∀ scope, (format.scopeCodes.code scope).toList ≠ code) :
    format.scopeCodes.scope? (String.ofList code) = none := by
  rw [Option.eq_none_iff_forall_ne_some]
  intro scope known
  refine unknown scope ?_
  rw [Scope.Codes.scope?_eq_some_iff.1 known, String.toList_ofList]

/-- **A fragment is read as the entry that it spells.** -/
theorem readEntry_of_spelled (spelled : e.Spelled format catalog position fragment) :
    format.readEntry catalog position parameter fragment = .ok e := by
  obtain ⟨token, cut, spells⟩ := spelled
  rw [readEntry_of_cut cut, readToken_of_spells spells]

/-- **A fragment that is refused is reported.** -/
theorem readEntry_of_refused
    (refused : Refused format catalog position parameter fragment report) :
    format.readEntry catalog position parameter fragment = .error report := by
  cases refused with
  | unmarked absent => simp only [Format.readEntry, Text.cutLast?_eq_none_iff.2 absent]
  | @unknownCode token code cut last unknown =>
      simp only [Format.readEntry, cut, Text.cutLast?_append token last, scope?_eq_none unknown]
  | nameless cut nameless => rw [readEntry_of_cut cut, readToken_of_nameless nameless]
  | unresolvable cut named nothing =>
      rw [readEntry_of_cut cut, readToken_of_nothing named nothing]

/-- A fragment spells an entry or is refused. -/
theorem spelled_or_refused (format : Format) (catalog : Catalog) (position : Position)
    (parameter : String) (fragment : List Char) :
    (∃ e : Entry, e.Spelled format catalog position fragment) ∨
      ∃ report, Refused format catalog position parameter fragment report := by
  cases cut : Text.cutLast? '#' fragment with
  | none => exact .inr ⟨_, .unmarked (Text.cutLast?_eq_none_iff.1 cut)⟩
  | some parts =>
      obtain ⟨token, code⟩ := parts
      obtain ⟨cut, last⟩ := Text.eq_of_cutLast? cut
      by_cases known : ∃ scope, (format.scopeCodes.code scope).toList = code
      · obtain ⟨scope, rfl⟩ := known
        by_cases nameless : Nameless position token
        · exact .inr ⟨_, .nameless cut nameless⟩
        · by_cases spells : ∃ e : Entry, e.scope = scope ∧ TokenSpells catalog position e token
          · obtain ⟨e, rfl, spells⟩ := spells
            exact .inl ⟨e, token, cut, spells⟩
          · exact .inr ⟨_, .unresolvable cut nameless fun e same spelled =>
              spells ⟨e, same, spelled⟩⟩
      · exact .inr ⟨_, .unknownCode cut last fun scope same => known ⟨scope, same⟩⟩

theorem readEntry_eq_ok_iff :
    format.readEntry catalog position parameter fragment = .ok e ↔
      e.Spelled format catalog position fragment := by
  refine ⟨fun read => ?_, readEntry_of_spelled⟩
  rcases spelled_or_refused format catalog position parameter fragment with
    ⟨other, spelled⟩ | ⟨report, refused⟩
  · rw [readEntry_of_spelled spelled] at read
    exact Except.ok.inj read ▸ spelled
  · rw [readEntry_of_refused refused] at read
    cases read

theorem readEntry_eq_error_iff :
    format.readEntry catalog position parameter fragment = .error report ↔
      Refused format catalog position parameter fragment report := by
  refine ⟨fun read => ?_, readEntry_of_refused⟩
  rcases spelled_or_refused format catalog position parameter fragment with
    ⟨e, spelled⟩ | ⟨other, refused⟩
  · rw [readEntry_of_spelled spelled] at read
    cases read
  · rw [readEntry_of_refused refused] at read
    exact Except.error.inj read ▸ refused

/-- What can be used of a value is spelled by its fragments. -/
theorem exists_spelled_of_mem_usable {p : Parameter}
    (member : e ∈ usable (format.readEntries catalog position p)) :
    ∃ fragment ∈ format.fragments p.value, e.Spelled format catalog position fragment := by
  obtain ⟨result, listed, ok⟩ := List.mem_filterMap.1 member
  obtain ⟨fragment, piece, rfl⟩ := List.mem_map.1 listed
  refine ⟨fragment, piece, ?_⟩
  cases read : format.readEntry catalog position p.name fragment with
  | error report =>
      rw [read] at ok
      cases ok
  | ok entry =>
      rw [read] at ok
      exact Option.some.inj ok ▸ readEntry_eq_ok_iff.1 read

/-- **A fragment reads as an entry if it spells it, and is reported otherwise.**  It has one report
then, for the reason why it spells nothing. -/
theorem readEntry_spellings (format : Format) (catalog : Catalog) (position : Position)
    (parameter : String) (fragment : List Char) :
    (∀ e, format.readEntry catalog position parameter fragment = .ok e ↔
        e.Spelled format catalog position fragment) ∧
      (∀ report, format.readEntry catalog position parameter fragment = .error report ↔
        Refused format catalog position parameter fragment report) ∧
      ((∃ report, Refused format catalog position parameter fragment report) ↔
        ¬∃ e : Entry, e.Spelled format catalog position fragment) := by
  refine ⟨fun e => readEntry_eq_ok_iff, fun report => readEntry_eq_error_iff, ?_, fun nothing => ?_⟩
  · rintro ⟨report, refused⟩ ⟨e, spelled⟩
    have both := (readEntry_of_spelled spelled).symm.trans (readEntry_of_refused refused)
    cases both
  · exact (spelled_or_refused format catalog position parameter fragment).resolve_left nothing

/-- The key of a facet may be padded, a digit may be part of a name, and a key counts only where the
catalog has it. -/
theorem readEntry_spellings_of_catalog :
    let read := ({} : Format).readEntry Catalog.Example.catalog
    (Entry.facet Catalog.Example.subject .narrow).Spelled {} Catalog.Example.catalog .subject
        "onc.01#n".toList ∧
      read .subject "subject" "onc.01#n".toList = .ok (.facet Catalog.Example.subject .narrow) ∧
      read (.filter "type") "type" "rev#b".toList = .ok (.facet Catalog.Example.choice .broad) ∧
      read .subject "subject" "\x7b\x7bx 1 0\x7d\x7d#b".toList =
        .ok (.custom ⟨"x 1", .broad, false, none⟩) ∧
      read .subject "subject" "rev#s".toList = .error (.unresolvableToken "subject" "rev") ∧
      ¬∃ e : Entry, e.Spelled {} Catalog.Example.catalog .subject "rev#s".toList := by
  intro read
  obtain ⟨facet, -, -⟩ :=
    readEntry_spellings {} Catalog.Example.catalog .subject "subject" "onc.01#n".toList
  obtain ⟨-, error, refused⟩ :=
    readEntry_spellings {} Catalog.Example.catalog .subject "subject" "rev#s".toList
  have read_facet : read .subject "subject" "onc.01#n".toList =
      .ok (.facet Catalog.Example.subject .narrow) := by decide +kernel
  have read_error : read .subject "subject" "rev#s".toList =
      .error (.unresolvableToken "subject" "rev") := by decide +kernel
  exact ⟨(facet _).1 read_facet, read_facet, by decide +kernel, by decide +kernel, read_error,
    refused.1 ⟨_, (error _).1 read_error⟩⟩

end Link

end FacetedSearch
