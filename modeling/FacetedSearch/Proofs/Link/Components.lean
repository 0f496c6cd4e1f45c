/-
# FacetedSearch.Proofs.Link.Components -- what the text of a link is made of

Names, values and the anchor of a link are any texts, and all of them are written as components:
characters that stand for themselves and whole escapes (`Text.WellEscaped`).  None of the characters
that delimit is left in a component, so the text of a link has the delimiters that writing put there
and no others.  Cut at them and unescaped, it gives the parameters again, in order, and the anchor
(`encode_laidOut`): no name, id or article id can add a parameter or change another one.

What a parameter of entries has as its value is said apart from the writer (`EntryWritten`,
`ListsEntries`): a token, a hash sign and a code for each entry, with the separator between them.
-/
import FacetedSearch.Link.Write
import FacetedSearch.Proofs.Catalog.Built
import FacetedSearch.Proofs.Link.Parameters

namespace FacetedSearch

set_option autoImplicit false

/-! ## Components -/

namespace Text

/-- A digit of an escape, `0` to `9` or `A` to `F`. -/
def isEscapeDigit (c : Char) : Bool := c.isDigit || "ABCDEF".toList.contains c

/-- Characters that may stand bare, and escapes of two upper-case hexadecimal digits. -/
inductive WellEscaped (bare : Char → Bool) : List Char → Prop
  | nil : WellEscaped bare []
  | bare {c : Char} {rest : List Char} (allowed : bare c = true) (tail : WellEscaped bare rest) :
      WellEscaped bare (c :: rest)
  | escape {high low : Char} {rest : List Char} (first : isEscapeDigit high = true)
      (second : isEscapeDigit low = true) (tail : WellEscaped bare rest) :
      WellEscaped bare ('%' :: high :: low :: rest)

namespace WellEscaped

variable {bare more : Char → Bool} {xs ys : List Char}

theorem append (hx : WellEscaped bare xs) (hy : WellEscaped bare ys) :
    WellEscaped bare (xs ++ ys) := by
  induction hx with
  | nil => exact hy
  | bare allowed _ ih => exact .bare allowed ih
  | escape first second _ ih => exact .escape first second ih

theorem mono (weaker : ∀ c, bare c = true → more c = true) (h : WellEscaped bare xs) :
    WellEscaped more xs := by
  induction h with
  | nil => exact .nil
  | bare allowed _ ih => exact .bare (weaker _ allowed) ih
  | escape first second _ ih => exact .escape first second ih

theorem flatMap {α : Type} {f : α → List Char} {members : List α}
    (each : ∀ a ∈ members, WellEscaped bare (f a)) : WellEscaped bare (members.flatMap f) := by
  induction members with
  | nil => exact .nil
  | cons a rest ih =>
      rw [List.flatMap_cons]
      exact (each a List.mem_cons_self).append (ih fun b hb => each b (List.mem_cons_of_mem _ hb))

theorem intercalate {sep : List Char} (hsep : WellEscaped bare sep) {texts : List (List Char)}
    (each : ∀ text ∈ texts, WellEscaped bare text) : WellEscaped bare (sep.intercalate texts) := by
  induction texts with
  | nil => exact .nil
  | cons text rest ih =>
      have first := each text List.mem_cons_self
      cases rest with
      | nil => simpa using first
      | cons next rest =>
          rw [List.intercalate_cons_cons]
          exact (first.append hsep).append (ih fun t ht => each t (List.mem_cons_of_mem _ ht))

end WellEscaped

theorem isEscapeDigit_hexDigit {n : Nat} (h : n < 16) : isEscapeDigit (hexDigit n) = true := by
  have hall : ∀ i : Fin 16, isEscapeDigit (hexDigit i) = true := by decide
  exact hall ⟨n, h⟩

theorem wellEscaped_escapeByte (byte : UInt8) : WellEscaped isPlain (escapeByte byte) := by
  have hlt : byte.toNat < 256 := byte.toNat_lt
  exact .escape (isEscapeDigit_hexDigit (by omega)) (isEscapeDigit_hexDigit (by omega)) .nil

/-- **A component is plain characters and whole escapes**, whatever the text is. -/
theorem wellEscaped_escape (text : List Char) : WellEscaped isPlain (escape text) := by
  refine .flatMap fun c _ => ?_
  unfold escapeChar
  split
  · rename_i plain
    exact .bare plain .nil
  · exact .flatMap fun byte _ => wellEscaped_escapeByte byte

theorem count_escape {c : Char} (plain : isPlain c = false) (percent : c ≠ '%') (text : List Char) :
    (escape text).count c = 0 :=
  List.count_eq_zero.2 (delimiter_notMem_escape plain percent text)

end Text

/-! ## Links -/

namespace Link

/-- Characters of a link that are no escapes: letters and digits of ASCII, nine marks, and the
delimiters. -/
def isBare (c : Char) : Bool :=
  c.isAlphanum || "-_.!~*'()".toList.contains c || "&=#".toList.contains c

theorem wellEscaped_component (text : List Char) : Text.WellEscaped isBare (Text.escape text) := by
  refine (Text.wellEscaped_escape text).mono fun c plain => ?_
  show (Text.isPlain c || "&=#".toList.contains c) = true
  rw [plain, Bool.true_or]

theorem wellEscaped_parameter (p : Parameter) : Text.WellEscaped isBare p.chars :=
  (wellEscaped_component _).append (.bare (by decide) (wellEscaped_component _))

theorem wellEscaped_anchorChars (anchor : Option String) :
    Text.WellEscaped isBare (anchorChars anchor) := by
  fun_cases anchorChars anchor with
  | case1 => exact .nil
  | case2 => exact .nil
  | case3 anchor _ => exact .bare (by decide) (wellEscaped_component _)

theorem wellEscaped_chars (link : Link) : Text.WellEscaped isBare link.chars := by
  refine .append (.intercalate (.bare (by decide) .nil) fun text htext => ?_)
    (wellEscaped_anchorChars link.anchor)
  obtain ⟨p, -, rfl⟩ := List.mem_map.1 htext
  exact wellEscaped_parameter p

/-- A named value has the one equals sign that stands between name and value. -/
theorem count_equals_parameter (p : Parameter) : p.chars.count '=' = 1 := by
  rw [Parameter.chars, List.count_append, List.count_cons_self,
    Text.count_escape (by decide) (by decide), Text.count_escape (by decide) (by decide)]

theorem hash_notMem_query (ps : List Parameter) :
    '#' ∉ ['&'].intercalate (ps.map Parameter.chars) :=
  delimiter_notMem_query (by decide) (by decide) (by decide) (by decide) ps

/-- The part of the text of a link in front of its anchor. -/
def query (text : List Char) : List Char := text.takeWhile fun c => c != '#'

/-- The pieces of the text of a link between `&`, without the anchor. -/
def pieces (text : List Char) : List (List Char) := (query text).splitOn '&'

theorem query_chars (link : Link) :
    query link.chars = ['&'].intercalate (link.parameters.map Parameter.chars) := by
  have absent : ∀ c ∈ ['&'].intercalate (link.parameters.map Parameter.chars), (c != '#') = true := by
    intro c hc
    rw [bne_iff_ne]
    rintro rfl
    exact hash_notMem_query _ hc
  rw [query, chars, List.takeWhile_append_of_pos absent]
  fun_cases anchorChars link.anchor <;> simp

theorem pieces_chars {link : Link} (some_parameter : link.parameters ≠ []) :
    pieces link.chars = link.parameters.map Parameter.chars := by
  rw [pieces, query_chars]
  refine List.splitOn_intercalate '&' (fun piece hpiece => ?_) (by simpa using some_parameter)
  obtain ⟨p, -, rfl⟩ := List.mem_map.1 hpiece
  exact p.delimiter_notMem_chars (by decide) (by decide) (by decide)

/-- The hash signs of a link are those of its anchor, and nothing in an anchor is one. -/
theorem count_hash_chars (link : Link) :
    link.chars.count '#' = (keptAnchor link.anchor).toList.length := by
  have none_before : (['&'].intercalate (link.parameters.map Parameter.chars)).count '#' = 0 :=
    List.count_eq_zero.2 (hash_notMem_query _)
  rw [chars, List.count_append, none_before]
  cases link.anchor with
  | none => rfl
  | some anchor =>
      by_cases empty : anchor = ""
      · simp [anchorChars, keptAnchor, empty]
      · rw [anchorChars, if_neg empty, List.count_cons_self,
          Text.count_escape (by decide) (by decide)]
        simp [keptAnchor, empty]

theorem cutFirst?_chars (link : Link) :
    ((Text.cutFirst? '#' link.chars).map fun cut => component cut.2) = keptAnchor link.anchor := by
  have absent := hash_notMem_query link.parameters
  rw [chars]
  cases link.anchor with
  | none => simp [anchorChars, keptAnchor, Text.cutFirst?_eq_none absent]
  | some anchor =>
      by_cases empty : anchor = ""
      · simp [anchorChars, keptAnchor, empty, Text.cutFirst?_eq_none absent]
      · rw [anchorChars, if_neg empty, Text.cutFirst?_append absent]
        simp [keptAnchor, empty, component_escape]

/-! ## Entries -/

/-- The text that an entry is written as: the text of a key, or the name of a tag in double braces,
which in a subject also tell whether the tag is translated; then a hash sign and the code of the
scope. -/
inductive EntryWritten (format : Format) : Position → Entry → String → Prop
  | facet {position : Position} {f : Facet} {scope : Scope} :
      EntryWritten format position (.facet f scope)
        (f.key.text ++ "#" ++ format.scopeCodes.code scope)
  | translated {tag : CustomTag} (translated : tag.translated = true) :
      EntryWritten format .subject (.custom tag)
        ("\x7b\x7b" ++ tag.name ++ " 1\x7d\x7d#" ++ format.scopeCodes.code tag.scope)
  | untranslated {tag : CustomTag} (untranslated : tag.translated = false) :
      EntryWritten format .subject (.custom tag)
        ("\x7b\x7b" ++ tag.name ++ " 0\x7d\x7d#" ++ format.scopeCodes.code tag.scope)
  | choice {category : String} {tag : CustomTag} :
      EntryWritten format (.filter category) (.custom tag)
        ("\x7b\x7b" ++ tag.name ++ "\x7d\x7d#" ++ format.scopeCodes.code tag.scope)

/-- The parameter has the name, and the texts of the entries with the separator between them. -/
def ListsEntries (format : Format) (name : String) (position : Position) (entries : List Entry)
    (p : Parameter) : Prop :=
  p.name = name ∧ ∃ texts, List.Forall₂ (EntryWritten format position) entries texts ∧
    p.value = format.separator.intercalate texts

theorem entryWritten_entryChars (format : Format) (position : Position) (e : Entry) :
    EntryWritten format position e (String.ofList (format.entryChars position e)) := by
  -- which constructor writes the entry is the point; that it writes the same characters is routine
  have of_chars {text : String} (written : EntryWritten format position e text)
      (chars : text.toList = format.entryChars position e) :
      EntryWritten format position e (String.ofList (format.entryChars position e)) := by
    rw [← chars, String.ofList_toList]
    exact written
  cases e with
  | facet f scope =>
      refine of_chars .facet ?_
      simp [Format.entryChars, entryToken, Facet.Key.text, Entry.scope]
  | custom tag =>
      cases position with
      | filter category =>
          refine of_chars .choice ?_
          simp [Format.entryChars, entryToken, tagToken, Entry.scope]
      | subject =>
          cases known : tag.translated with
          | true =>
              refine of_chars (.translated known) ?_
              simp [Format.entryChars, entryToken, tagToken, Entry.scope, known]
          | false =>
              refine of_chars (.untranslated known) ?_
              simp [Format.entryChars, entryToken, tagToken, Entry.scope, known]

theorem listsEntries_entriesValue (format : Format) (name : String) (position : Position)
    (entries : List Entry) :
    ListsEntries format name position entries ⟨name, format.entriesValue position entries⟩ := by
  refine ⟨rfl, entries.map fun e => String.ofList (format.entryChars position e), ?_, ?_⟩
  · rw [List.forall₂_map_right_iff, List.forall₂_same]
    exact fun e _ => entryWritten_entryChars format position e
  · rw [← String.toList_inj, String.toList_intercalate, Format.entriesValue, String.toList_ofList,
      List.map_map]
    simp only [Function.comp_def, String.toList_ofList]

/-! ## Selections -/

/-- The text holds a selection, laid out as a link: one piece for each group, for each category and
for each setting, none of which can be told from its neighbours by anything but a delimiter. -/
structure LaidOut (format : Format) (s : Selection) (text : List Char) : Prop where
  /-- Nothing but plain characters, escapes and delimiters. -/
  escaped : Text.WellEscaped isBare text
  /-- A hash sign is there if and only if there is an anchor that is not empty. -/
  hashes : text.count '#' = (keptAnchor s.anchor).toList.length
  /-- How many pieces there are. -/
  length : (pieces text).length = s.populatedGroups.length + s.filters.populated.length + 5
  /-- Each piece is one name and one value. -/
  equals : ∀ piece ∈ pieces text, piece.count '=' = 1
  /-- The names and values, in order. -/
  parameters : ∃ groups categories : List Parameter,
    (pieces text).map Parameter.ofPiece =
        groups ++ categories ++
          [⟨"advanced", toString s.advanced⟩, ⟨"sort", Coded.code s.sort⟩,
            ⟨"collapsed", toString s.collapsed⟩, ⟨"pageSize", toString s.pageSize⟩,
            ⟨"pmidai", format.separator.intercalate (s.pmids.filter fun pmid => pmid != "")⟩] ∧
      List.Forall₂ (ListsEntries format format.subjectName .subject) s.populatedGroups groups ∧
      List.Forall₂ (fun row => ListsEntries format row.1 (.filter row.1) row.2)
        s.filters.populated categories
  /-- What follows the hash sign is the anchor. -/
  anchor : ((Text.cutFirst? '#' text).map fun cut => component cut.2) = keptAnchor s.anchor

/-- **Links are well formed, and nothing can be smuggled into them**, whatever the names, ids and
settings of the selection and of the format are. -/
theorem encode_laidOut (format : Format) (s : Selection) :
    LaidOut format s (format.encode s).toList := by
  have some_parameter : (format.link s).parameters ≠ [] := by simp [Format.link, Coded.all]
  have cut := pieces_chars some_parameter
  rw [Format.encode, String.toList_ofList]
  refine ⟨wellEscaped_chars _, count_hash_chars _, ?_, ?_, ?_, cutFirst?_chars _⟩
  · rw [cut]
    simp [Format.link, Coded.all]
    omega
  · rw [cut]
    intro piece hpiece
    obtain ⟨p, -, rfl⟩ := List.mem_map.1 hpiece
    exact count_equals_parameter p
  · have back : Parameter.ofPiece ∘ Parameter.chars = id := funext Parameter.ofPiece_chars
    rw [cut, List.map_map, back, List.map_id]
    refine ⟨_, _, rfl, ?_, ?_⟩
    · rw [List.forall₂_map_right_iff, List.forall₂_same]
      exact fun group _ => listsEntries_entriesValue format format.subjectName .subject group
    · rw [List.forall₂_map_right_iff, List.forall₂_same]
      exact fun row _ => listsEntries_entriesValue format row.1 (.filter row.1) row.2

namespace Example

/-- Delimiters in every text, beside a group and a category without entries. -/
def smuggled : Selection where
  groups := [[], [.facet Catalog.Example.subject .broad, .custom ⟨"a&b=c#d", .narrow, true, none⟩]]
  filters := ⟨[("x=y", [.custom ⟨"%é", .normal, false, none⟩]), ("gone", [])], by simp⟩
  pmids := ["7", "", "8"]
  anchor := some "#&"

/-- A layout with delimiters in its separator and in the name of its groups. -/
def ampersands : Format where
  subjectName := "q#"
  separator := "&"

/-- The link of that selection. -/
def smuggledLink : String :=
  "q%23=onc.1%23b%26%7B%7Ba%26b%3Dc%23d%201%7D%7D%23n&x%3Dy=%7B%7B%25%C3%A9%7D%7D%23s" ++
    "&advanced=false&sort=relevance&collapsed=false&pageSize=10&pmidai=7%268#%23%26"

end Example

theorem encode_laidOut_of_delimiters :
    Example.ampersands.encode Example.smuggled = Example.smuggledLink ∧
      LaidOut Example.ampersands Example.smuggled Example.smuggledLink.toList ∧
      (pieces Example.smuggledLink.toList).map Parameter.ofPiece =
        [⟨"q#", "onc.1#b&\x7b\x7ba&b=c#d 1\x7d\x7d#n"⟩, ⟨"x=y", "\x7b\x7b%é\x7d\x7d#s"⟩,
          ⟨"advanced", "false"⟩, ⟨"sort", "relevance"⟩, ⟨"collapsed", "false"⟩, ⟨"pageSize", "10"⟩,
          ⟨"pmidai", "7&8"⟩] := by
  have written : Example.ampersands.encode Example.smuggled = Example.smuggledLink := by
    decide +kernel
  exact ⟨written, written ▸ encode_laidOut Example.ampersands Example.smuggled, by decide +kernel⟩

end Link

end FacetedSearch
