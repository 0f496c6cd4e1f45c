/-
# FacetedSearch.Proofs.Link.Escaping -- links escaped in other ways

Mail programs and browsers escape a shared link again, each in its own way.  A text writes a link
(`Link.Escaped`) if it joins the named values by `&` and puts `#` and the anchor behind them, where

* each character that has no meaning of its own in links may stand as it is, and any character may
  stand as the escapes of all its bytes, with digits of either case (`Text.CharEscaped`);
* a value that is empty may be left out with its equals sign, if there is a name
  (`Parameter.Escaped`);
* empty pieces may stand between the others, and one `?` may stand in front.

The relation says nothing about reading.  Every text that writes a link is read as that link
(`ofChars_of_escaped`), so all of them give one selection and one list of reports
(`decode_of_escaped`).  The text that `Link.chars` gives is one of them (`escaped_chars`).
-/
import FacetedSearch.Link.Read
import FacetedSearch.Proofs.Catalog.Built
import FacetedSearch.Proofs.Link.Parameters

namespace FacetedSearch

set_option autoImplicit false

namespace Text

/-! ## Escaped texts -/

/-- The texts of some items, one behind the other, each item in one of its forms. -/
inductive Sequence {α : Type} (Form : α → List Char → Prop) : List α → List Char → Prop
  | nil : Sequence Form [] []
  | cons {a : α} {items : List α} {text rest : List Char} (first : Form a text)
      (others : Sequence Form items rest) : Sequence Form (a :: items) (text ++ rest)

/-- The hexadecimal digit, of either case, of a number below sixteen. -/
def IsHexDigit (n : Nat) (digit : Char) : Prop :=
  "0123456789ABCDEF".toList[n]? = some digit ∨ "0123456789abcdef".toList[n]? = some digit

/-- A byte as `%` and two digits. -/
inductive ByteEscaped (byte : UInt8) : List Char → Prop
  | digits {high low : Char} (first : IsHexDigit (byte.toNat / 16) high)
      (second : IsHexDigit (byte.toNat % 16) low) : ByteEscaped byte ['%', high, low]

/-- The characters that have a meaning of their own in links. -/
def reserved : List Char := ['%', '&', '=', '#', '?']

/-- A character as it is, or all its bytes as escapes. -/
inductive CharEscaped (c : Char) : List Char → Prop
  | literal (free : c ∉ reserved) : CharEscaped c [c]
  | bytes {text : List Char} (escapes : Sequence ByteEscaped (String.utf8EncodeChar c) text) :
      CharEscaped c text

/-- The component writes the text, character by character. -/
def Escaped (text : String) (component : List Char) : Prop :=
  Sequence CharEscaped text.toList component

instance (n : Nat) (digit : Char) : Decidable (IsHexDigit n digit) :=
  inferInstanceAs (Decidable (_ ∨ _))

variable {α : Type} {Form : α → List Char → Prop} {items : List α} {n : Nat} {byte : UInt8}
  {c digit : Char} {text component : List Char}

namespace Sequence

/-- What holds of the characters of each form holds of all characters. -/
theorem forall_mem {P : Char → Prop}
    (each : ∀ a text, Form a text → ∀ c ∈ text, P c) (written : Sequence Form items text) :
    ∀ c ∈ text, P c := by
  induction written with
  | nil => simp
  | cons first _ ih =>
      intro c member
      rcases List.mem_append.1 member with here | later
      · exact each _ _ first c here
      · exact ih c later

/-- What is read of each form, whatever follows, is read of their sequence. -/
theorem escapedBytes_eq (bytes : α → List UInt8)
    (each : ∀ a text rest, Form a text →
      escapedBytes (text ++ rest) = bytes a ++ escapedBytes rest)
    (written : Sequence Form items text) (rest : List Char) :
    escapedBytes (text ++ rest) = items.flatMap bytes ++ escapedBytes rest := by
  induction written with
  | nil => rfl
  | cons first _ ih =>
      rw [List.append_assoc, each _ _ _ first, ih, List.flatMap_cons, List.append_assoc]

theorem ne_nil (each : ∀ a text, Form a text → text ≠ []) (written : Sequence Form items text)
    (some_item : items ≠ []) : text ≠ [] := by
  cases written with
  | nil => exact absurd rfl some_item
  | cons first _ =>
      intro none
      exact each _ _ first (List.append_eq_nil_iff.1 none).1

theorem append {others : List α} {rest : List Char} (written : Sequence Form items text)
    (later : Sequence Form others rest) : Sequence Form (items ++ others) (text ++ rest) := by
  induction written with
  | nil => exact later
  | cons first _ ih =>
      rw [List.append_assoc]
      exact .cons first ih

/-- Any choice of a form for each item makes a sequence. -/
theorem of_flatMap {form : α → List Char} (each : ∀ a ∈ items, Form a (form a)) :
    Sequence Form items (items.flatMap form) := by
  induction items with
  | nil => exact .nil
  | cons a items ih =>
      rw [List.flatMap_cons]
      have later := ih fun b member => each b (List.mem_cons_of_mem _ member)
      exact .cons (each a List.mem_cons_self) later

end Sequence

/-! ### Digits -/

theorem IsHexDigit.hexValue?_eq (spells : IsHexDigit n digit) : hexValue? digit = some n := by
  rcases spells with upper | lower
  · obtain ⟨bound, rfl⟩ := List.getElem?_eq_some_iff.1 upper
    have all : ∀ i : Fin 16, hexValue? "0123456789ABCDEF".toList[i] = some i.val := by decide
    exact all ⟨n, bound⟩
  · obtain ⟨bound, rfl⟩ := List.getElem?_eq_some_iff.1 lower
    have all : ∀ i : Fin 16, hexValue? "0123456789abcdef".toList[i] = some i.val := by decide
    exact all ⟨n, bound⟩

/-- No digit has a meaning of its own in links. -/
theorem IsHexDigit.notMem_reserved (spells : IsHexDigit n digit) : digit ∉ reserved := by
  have plain : ∀ c ∈ reserved, hexValue? c = none := List.forall_iff_forall_mem.1 (by decide)
  intro member
  have value := spells.hexValue?_eq
  rw [plain digit member] at value
  cases value

theorem isHexDigit_hexDigit (bound : n < 16) : IsHexDigit n (hexDigit n) := by
  have all : ∀ i : Fin 16, IsHexDigit i (hexDigit i) := by decide
  exact all ⟨n, bound⟩

/-! ### Bytes -/

theorem ByteEscaped.escapedBytes_eq (written : ByteEscaped byte text) (rest : List Char) :
    escapedBytes (text ++ rest) = byte :: escapedBytes rest := by
  cases written with
  | @digits high low first second =>
      have whole : byte.toNat / 16 * 16 + byte.toNat % 16 = byte.toNat := by omega
      have read : escapedByte? high low = some byte := by
        rw [escapedByte?, first.hexValue?_eq, second.hexValue?_eq, Option.bind_some,
          Option.map_some, whole, UInt8.ofNat_toNat]
      simp only [List.cons_append, List.nil_append, escapedBytes, read]

theorem ByteEscaped.mem (written : ByteEscaped byte text) : ∀ c ∈ text, c = '%' ∨ c ∉ reserved := by
  cases written with
  | digits first second =>
      intro c member
      simp only [List.mem_cons, List.not_mem_nil, or_false] at member
      rcases member with rfl | rfl | rfl
      · exact .inl rfl
      · exact .inr first.notMem_reserved
      · exact .inr second.notMem_reserved

theorem byteEscaped_escapeByte (byte : UInt8) : ByteEscaped byte (escapeByte byte) := by
  have bound : byte.toNat < 256 := byte.toNat_lt
  exact .digits (isHexDigit_hexDigit (by omega)) (isHexDigit_hexDigit (by omega))

/-! ### Characters -/

/-- **A character in either form** is read as its bytes. -/
theorem CharEscaped.escapedBytes_eq (written : CharEscaped c text) (rest : List Char) :
    escapedBytes (text ++ rest) = String.utf8EncodeChar c ++ escapedBytes rest := by
  cases written with
  | literal free =>
      have percent : c ≠ '%' := by
        rintro rfl
        exact free (by decide)
      exact escapedBytes_cons percent rest
  | bytes escapes =>
      have read := escapes.escapedBytes_eq (fun byte => [byte])
        (fun byte text rest written => written.escapedBytes_eq rest) rest
      rwa [List.flatMap_singleton'] at read

theorem CharEscaped.mem (written : CharEscaped c text) : ∀ d ∈ text, d = '%' ∨ d ∉ reserved := by
  cases written with
  | literal free =>
      intro d member
      rw [List.mem_singleton.1 member]
      exact .inr free
  | bytes escapes => exact escapes.forall_mem fun byte text written => written.mem

theorem CharEscaped.ne_nil (written : CharEscaped c text) : text ≠ [] := by
  cases written with
  | literal => simp
  | bytes escapes =>
      refine escapes.ne_nil (fun byte text written => ?_) String.utf8EncodeChar_ne_nil
      cases written
      simp

theorem charEscaped_escapeChar (c : Char) : CharEscaped c (escapeChar c) := by
  unfold escapeChar
  split
  · rename_i plain
    refine .literal fun member => ?_
    have meant : ∀ c ∈ reserved, isPlain c = false := List.forall_iff_forall_mem.1 (by decide)
    rw [meant c member] at plain
    cases plain
  · exact .bytes (.of_flatMap fun byte _ => byteEscaped_escapeByte byte)

/-! ### Components -/

namespace Escaped

variable {name : String}

/-- **A component is read as the text that it writes.** -/
theorem component_eq (written : Escaped name component) : Link.component component = name := by
  have bytes := written.escapedBytes_eq String.utf8EncodeChar
    (fun c text rest form => form.escapedBytes_eq rest) []
  have read : escapedBytes component = toBytes name.toList := by
    simpa [escapedBytes, toBytes] using bytes
  rw [Link.component, unescape, read, ofBytes_toBytes, String.ofList_toList]

/-- No delimiter stands in a component. -/
theorem delimiter_notMem (written : Escaped name component) (meant : c ∈ reserved)
    (percent : c ≠ '%') : c ∉ component := by
  intro member
  rcases written.forall_mem (fun d text form => form.mem) c member with same | free
  · exact percent same
  · exact free meant

theorem ne_nil (written : Escaped name component) (named : name ≠ "") : component ≠ [] :=
  Sequence.ne_nil (fun _ _ form => form.ne_nil) written (by simpa using named)

end Escaped

theorem escaped_escape (text : String) : Escaped text (escape text.toList) :=
  .of_flatMap fun c _ => charEscaped_escapeChar c

/-- A text without reserved characters may stand as it is. -/
theorem escaped_of_free {text : String} (free : ∀ c ∈ text.toList, c ∉ reserved) :
    Escaped text text.toList := by
  have written : Sequence CharEscaped text.toList (text.toList.flatMap fun c => [c]) :=
    .of_flatMap fun c member => .literal (free c member)
  rwa [List.flatMap_singleton'] at written

end Text

/-! ## Parameters -/

/-- A named value; if it is empty and has a name, it may go without the equals sign. -/
inductive Parameter.Escaped (p : Parameter) : List Char → Prop
  | valued {name value : List Char} (named : Text.Escaped p.name name)
      (filled : Text.Escaped p.value value) : p.Escaped (name ++ '=' :: value)
  | bare {name : List Char} (some_name : p.name ≠ "") (no_value : p.value = "")
      (named : Text.Escaped p.name name) : p.Escaped name

/-- Named values piece by piece, with empty pieces among them. -/
inductive Parameter.PiecesEscaped : List Parameter → List (List Char) → Prop
  | nil : PiecesEscaped [] []
  | gap {ps : List Parameter} {pieces : List (List Char)} (others : PiecesEscaped ps pieces) :
      PiecesEscaped ps ([] :: pieces)
  | cons {p : Parameter} {ps : List Parameter} {piece : List Char} {pieces : List (List Char)}
      (first : p.Escaped piece) (others : PiecesEscaped ps pieces) :
      PiecesEscaped (p :: ps) (piece :: pieces)

namespace Parameter

variable {p : Parameter} {ps : List Parameter} {piece : List Char} {pieces : List (List Char)}
  {c : Char}

/-- **A piece is read as the named value that it writes.** -/
theorem Escaped.ofPiece_eq (written : p.Escaped piece) : ofPiece piece = p := by
  have absent {name : List Char} (named : Text.Escaped p.name name) : '=' ∉ name :=
    named.delimiter_notMem (by decide) (by decide)
  cases written with
  | valued named filled =>
      simp only [ofPiece, Text.cutFirst?_append (absent named), named.component_eq,
        filled.component_eq]
  | bare some_name no_value named =>
      simp only [ofPiece, Text.cutFirst?_eq_none (absent named), named.component_eq]
      rw [← no_value]

theorem Escaped.ne_nil (written : p.Escaped piece) : piece ≠ [] := by
  cases written with
  | valued => simp
  | bare some_name _ named => exact named.ne_nil some_name

/-- No delimiter but the equals sign stands in a piece. -/
theorem Escaped.delimiter_notMem (written : p.Escaped piece) (outer : c ∈ ['&', '#', '?']) :
    c ∉ piece := by
  have all : ∀ c ∈ ['&', '#', '?'], c ∈ Text.reserved ∧ c ≠ '%' ∧ c ≠ '=' :=
    List.forall_iff_forall_mem.1 (by decide)
  obtain ⟨meant, percent, equals⟩ := all c outer
  cases written with
  | valued named filled =>
      simp only [List.mem_append, List.mem_cons, not_or]
      exact ⟨named.delimiter_notMem meant percent, equals, filled.delimiter_notMem meant percent⟩
  | bare _ _ named => exact named.delimiter_notMem meant percent

theorem escaped_chars (p : Parameter) : p.Escaped p.chars :=
  .valued (Text.escaped_escape _) (Text.escaped_escape _)

namespace PiecesEscaped

theorem delimiter_notMem (written : PiecesEscaped ps pieces) (outer : c ∈ ['&', '#', '?']) :
    ∀ piece ∈ pieces, c ∉ piece := by
  induction written with
  | nil => simp
  | gap _ ih => exact List.forall_mem_cons.2 ⟨by simp, ih⟩
  | cons first _ ih => exact List.forall_mem_cons.2 ⟨first.delimiter_notMem outer, ih⟩

/-- Empty pieces count for nothing, and the others are the named values in order. -/
theorem map_ofPiece (written : PiecesEscaped ps pieces) :
    (pieces.filter fun piece => !piece.isEmpty).map ofPiece = ps := by
  induction written with
  | nil => rfl
  | gap _ ih => simpa using ih
  | @cons p ps piece pieces first _ ih =>
      have populated : piece ≠ [] := first.ne_nil
      rw [List.filter_cons_of_pos (by simpa using populated), List.map_cons, first.ofPiece_eq, ih]

theorem ofChars_eq (written : PiecesEscaped ps pieces) :
    ofChars (['&'].intercalate pieces) = ps := by
  rw [ofChars_pieces (written.delimiter_notMem (by decide)), written.map_ofPiece]

theorem of_chars (ps : List Parameter) : PiecesEscaped ps (ps.map chars) := by
  induction ps with
  | nil => exact .nil
  | cons p ps ih => exact .cons p.escaped_chars ih

end PiecesEscaped

end Parameter

/-! ## Links -/

namespace Link

/-- An anchor, which is not empty, behind `#`. -/
inductive AnchorEscaped : Option String → List Char → Prop
  | none : AnchorEscaped none []
  | some {anchor : String} {component : List Char} (named : anchor ≠ "")
      (written : Text.Escaped anchor component) : AnchorEscaped (some anchor) ('#' :: component)

/-- The text writes the link, with no mark in front. -/
inductive Unmarked (link : Link) : List Char → Prop
  | joined {pieces : List (List Char)} {anchor : List Char}
      (parameters : Parameter.PiecesEscaped link.parameters pieces)
      (anchored : AnchorEscaped link.anchor anchor) :
      Unmarked link (['&'].intercalate pieces ++ anchor)

/-- The text writes the link, behind one `?` or none. -/
inductive Escaped (link : Link) : List Char → Prop
  | unmarked {text : List Char} (written : Unmarked link text) : Escaped link text
  | marked {text : List Char} (written : Unmarked link text) : Escaped link ('?' :: text)

variable {link : Link} {text : List Char}

theorem delimiter_notMem_pieces {ps : List Parameter} {pieces : List (List Char)} {c : Char}
    (written : Parameter.PiecesEscaped ps pieces) (outer : c ∈ ['#', '?']) :
    c ∉ ['&'].intercalate pieces := by
  have all : ∀ c ∈ ['#', '?'], c ≠ '&' ∧ c ∈ ['&', '#', '?'] :=
    List.forall_iff_forall_mem.1 (by decide)
  obtain ⟨ampersand, inner⟩ := all c outer
  intro member
  rcases Text.mem_intercalate member with same | ⟨piece, among, inside⟩
  · exact ampersand (List.mem_singleton.1 same)
  · exact written.delimiter_notMem inner piece among inside

/-- No link begins with a mark of its own. -/
theorem Unmarked.dropMark_eq (written : Unmarked link text) : dropMark text = text := by
  refine dropMark_of_head? fun begins => ?_
  cases written with
  | joined parameters anchored =>
      -- the first character is one of the pieces, or the hash sign of the anchor
      rcases List.mem_append.1 (List.mem_of_head? begins) with among | behind
      · exact delimiter_notMem_pieces parameters (by decide) among
      · generalize link.anchor = anchor at anchored
        cases anchored with
        | none => simp at behind
        | some _ written =>
            have absent := written.delimiter_notMem (c := '?') (by decide) (by decide)
            simp [absent] at behind

/-- Named values and an anchor are read behind a mark as they are without one. -/
theorem Unmarked.ofChars_eq {marked : List Char} (written : Unmarked link text)
    (mark : dropMark marked = text) : ofChars marked = link := by
  obtain ⟨ps, kept⟩ := link
  cases written with
  | joined parameters anchored =>
      have absent := delimiter_notMem_pieces (c := '#') parameters (by decide)
      cases anchored with
      | none =>
          rw [List.append_nil] at mark
          simp only [ofChars, mark, Text.cutFirst?_eq_none absent, parameters.ofChars_eq]
      | @some name component named written =>
          have visible : component.isEmpty = false := by simpa using written.ne_nil named
          simp only [ofChars, mark, Text.cutFirst?_append absent, parameters.ofChars_eq, visible,
            written.component_eq, Bool.false_eq_true, if_false]

/-- **A text is read as the link that it writes.** -/
theorem ofChars_of_escaped (written : link.Escaped text) : ofChars text = link := by
  cases written with
  | unmarked written => exact written.ofChars_eq written.dropMark_eq
  | marked written => exact written.ofChars_eq rfl

theorem Escaped.anchor_ne_empty (written : link.Escaped text) : link.anchor ≠ some "" := by
  obtain ⟨text, written⟩ : ∃ text, link.Unmarked text := by
    cases written with
    | unmarked written => exact ⟨_, written⟩
    | marked written => exact ⟨_, written⟩
  cases written with
  | joined _ anchored =>
      intro empty
      rw [empty] at anchored
      cases anchored with
      | some named _ => exact named rfl

theorem anchorEscaped_anchorChars {anchor : Option String} (visible : anchor ≠ some "") :
    AnchorEscaped anchor (anchorChars anchor) := by
  cases anchor with
  | none => exact .none
  | some anchor =>
      have named : anchor ≠ "" := fun empty => visible (congrArg some empty)
      rw [anchorChars, if_neg named]
      exact .some named (Text.escaped_escape _)

/-- Writing a link gives one of the texts that write it. -/
theorem escaped_chars (visible : link.anchor ≠ some "") : link.Escaped link.chars :=
  .unmarked (.joined (.of_chars _) (anchorEscaped_anchorChars visible))

/-- **What a link says does not depend on how it is escaped.**  A text that writes a link is read as
its named values and its anchor, and any other text that writes it, such as the one that writing
gives, comes to the same selection and the same reports. -/
theorem decode_of_escaped (format : Format) (catalog : Catalog) {text : String}
    (written : link.Escaped text.toList) :
    ofChars text.toList = link ∧ link.Escaped link.chars ∧
      ∀ other : String, link.Escaped other.toList →
        format.decode catalog other = format.decode catalog text := by
  refine ⟨ofChars_of_escaped written, escaped_chars written.anchor_ne_empty, ?_⟩
  intro other rewritten
  rw [Format.decode, Format.decode, ofChars_of_escaped written, ofChars_of_escaped rewritten]

namespace Example

/-- A tag with a delimiter in its name, no article ids and an anchor. -/
def delimited : Link := ⟨[⟨"subject", "\x7b\x7bé&\x7d\x7d#b"⟩, ⟨"pmidai", ""⟩], some "ü"⟩

/-- Behind a mark, with empty pieces, digits of both cases and a value left out; the anchor stands
as it is. -/
def loose : String := "?&subj%65ct=\x7b\x7b%c3%A9%26\x7d\x7d%23b&&pmidai&#ü"

open Text in
theorem loose_escaped : delimited.Escaped loose.toList := by
  have shape : loose.toList =
      '?' :: (['&'].intercalate [[], "subj%65ct".toList ++
          '=' :: "\x7b\x7b%c3%A9%26\x7d\x7d%23b".toList, [], "pmidai".toList, []] ++
        '#' :: "ü".toList) := by decide +kernel
  have letter : CharEscaped 'e' "%65".toList :=
    .bytes (.cons (@ByteEscaped.digits 0x65 '6' '5' (.inl rfl) (.inl rfl)) .nil)
  have accented : CharEscaped 'é' "%c3%A9".toList :=
    .bytes (.cons (@ByteEscaped.digits 0xC3 'c' '3' (.inr rfl) (.inl rfl))
      (.cons (@ByteEscaped.digits 0xA9 'A' '9' (.inl rfl) (.inl rfl)) .nil))
  have ampersand : CharEscaped '&' "%26".toList :=
    .bytes (.cons (@ByteEscaped.digits 0x26 '2' '6' (.inl rfl) (.inl rfl)) .nil)
  have hash : CharEscaped '#' "%23".toList :=
    .bytes (.cons (@ByteEscaped.digits 0x23 '2' '3' (.inl rfl) (.inl rfl)) .nil)
  have plain (text : String) (free : text.toList.Forall fun c => c ∉ reserved) :
      Sequence CharEscaped text.toList text.toList :=
    escaped_of_free (List.forall_iff_forall_mem.1 free)
  have name : Text.Escaped "subject" "subj%65ct".toList :=
    (plain "subj" (by decide)).append (.cons letter (plain "ct" (by decide)))
  have value : Text.Escaped "\x7b\x7bé&\x7d\x7d#b" "\x7b\x7b%c3%A9%26\x7d\x7d%23b".toList :=
    (plain "\x7b\x7b" (by decide)).append (.cons accented (.cons ampersand
      ((plain "\x7d\x7d" (by decide)).append (.cons hash (plain "b" (by decide))))))
  have pmids : Text.Escaped "pmidai" "pmidai".toList := plain _ (by decide)
  have anchor : Text.Escaped "ü" "ü".toList := plain _ (by decide)
  rw [shape]
  exact .marked (.joined
    (.gap (.cons (.valued name value) (.gap (.cons (.bare (by decide) rfl pmids) (.gap .nil)))))
    (.some (by decide) anchor))

end Example

theorem decode_of_escaped_loosely :
    let written := "subject=%7B%7B%C3%A9%26%7D%7D%23b&pmidai=#%C3%BC"
    Example.delimited.Escaped Example.loose.toList ∧
      ofChars Example.loose.toList = Example.delimited ∧
      Example.delimited.Escaped written.toList ∧
      ({} : Format).decode Catalog.Example.catalog written =
        ({} : Format).decode Catalog.Example.catalog Example.loose ∧
      ({} : Format).decode Catalog.Example.catalog written =
        ⟨{ groups := [[.custom ⟨"é&", .broad, false, none⟩]], anchor := some "ü" }, []⟩ := by
  intro written
  have read := decode_of_escaped {} Catalog.Example.catalog Example.loose_escaped
  have chars : Example.delimited.chars = written.toList := by decide +kernel
  have rewritten : Example.delimited.Escaped written.toList := chars ▸ read.2.1
  exact ⟨Example.loose_escaped, read.1, rewritten, read.2.2 _ rewritten, by decide +kernel⟩

end Link

end FacetedSearch
