/-
# FacetedSearch.Proofs.Link.Parameters -- the parameters of a link read back

Any text reads as the parameters of its pieces and an anchor: texts joined by `&` read as the
parameters of both (`ofChars_append`), and what follows the first `#` as the anchor alone
(`ofChars_anchor`).

Names, values and the anchor of a link are any texts.  Escaping leaves none of the characters that
delimit in them (`delimiter_notMem_escape`), so reading cuts a written link exactly where writing
joined it: `ofChars_chars` holds for every link, and the one thing lost is that an empty anchor was
there.
-/
import FacetedSearch.Link.Basic
import FacetedSearch.Proofs.Text.Separator

namespace FacetedSearch

set_option autoImplicit false

/-! ## Escaped texts -/

namespace Text

theorem isPlain_hexDigit {n : Nat} (h : n < 16) : isPlain (hexDigit n) = true := by
  have hall : ∀ i : Fin 16, isPlain (hexDigit i) = true := by decide
  exact hall ⟨n, h⟩

theorem mem_escapeByte {byte : UInt8} {c : Char} (h : c ∈ escapeByte byte) :
    isPlain c = true ∨ c = '%' := by
  have hlt : byte.toNat < 256 := byte.toNat_lt
  simp only [escapeByte, List.mem_cons, List.not_mem_nil, or_false] at h
  rcases h with rfl | rfl | rfl
  · exact .inr rfl
  · exact .inl (isPlain_hexDigit (by omega))
  · exact .inl (isPlain_hexDigit (by omega))

theorem mem_escape {text : List Char} {c : Char} (h : c ∈ escape text) :
    isPlain c = true ∨ c = '%' := by
  obtain ⟨d, -, hd⟩ := List.mem_flatMap.1 h
  by_cases hplain : isPlain d = true
  · rw [escapeChar, if_pos hplain, List.mem_singleton] at hd
    exact .inl (hd ▸ hplain)
  · rw [escapeChar, if_neg hplain] at hd
    obtain ⟨byte, -, hbyte⟩ := List.mem_flatMap.1 hd
    exact mem_escapeByte hbyte

/-- What neither stands for itself nor begins an escape is in no component. -/
theorem delimiter_notMem_escape {c : Char} (plain : isPlain c = false) (percent : c ≠ '%')
    (text : List Char) : c ∉ escape text := by
  intro h
  rcases mem_escape h with hplain | rfl
  · rw [plain] at hplain
    cases hplain
  · exact percent rfl

theorem ofBytesFrom_ne_nil {state : Option Unfinished} {bytes : List UInt8}
    (h : state.isSome ∨ bytes ≠ []) : ofBytesFrom state bytes ≠ [] := by
  induction bytes generalizing state with
  | nil =>
      obtain ⟨unfinished, rfl⟩ := Option.isSome_iff_exists.1 (h.resolve_right (by simp))
      simp [ofBytesFrom]
  | cons byte rest ih =>
      rw [ofBytesFrom_cons]
      cases hnext : (Unfinished.step state byte).2 with
      | some unfinished =>
          have going : (some unfinished).isSome ∨ rest ≠ [] := .inl rfl
          simp [ih going]
      | none =>
          -- a byte that leaves no character unfinished has given one
          have given : (Unfinished.step state byte).1 ≠ [] := by
            revert hnext
            cases state <;>
              simp only [Unfinished.step, Unfinished.begin, Unfinished.extend] <;>
              (repeat' split) <;> simp
          simp [given]

theorem escapedBytes_ne_nil {component : List Char} (h : component ≠ []) :
    escapedBytes component ≠ [] := by
  have hchar : ∀ c : Char, String.utf8EncodeChar c ≠ [] := fun c =>
    List.ne_nil_of_length_pos (by rw [String.length_utf8EncodeChar]; exact Char.utf8Size_pos c)
  fun_cases escapedBytes component <;> simp_all

theorem escape_ne_nil {text : List Char} (h : text ≠ []) : escape text ≠ [] := by
  intro empty
  have := unescape_escape text
  rw [empty] at this
  exact h this.symm

/-- Only the empty component reads as the empty text. -/
theorem unescape_ne_nil {component : List Char} (h : component ≠ []) : unescape component ≠ [] :=
  ofBytesFrom_ne_nil (.inr (escapedBytes_ne_nil h))

end Text

/-! ## Parameters -/

theorem Link.component_escape (text : String) : Link.component (Text.escape text.toList) = text := by
  rw [Link.component, Text.unescape_escape, String.ofList_toList]

theorem Link.component_ne_empty {component : List Char} (h : component ≠ []) :
    Link.component component ≠ "" := by
  intro empty
  have := congrArg String.toList empty
  exact Text.unescape_ne_nil h (by simpa [Link.component] using this)

namespace Parameter

theorem chars_ne_nil (p : Parameter) : p.chars ≠ [] := by simp [chars]

/-- A delimiter other than the equals sign does not stand in a named value. -/
theorem delimiter_notMem_chars {c : Char} (plain : Text.isPlain c = false) (percent : c ≠ '%')
    (equals : c ≠ '=') (p : Parameter) : c ∉ p.chars := by
  simp only [chars, List.mem_append, List.mem_cons, not_or]
  exact ⟨Text.delimiter_notMem_escape plain percent _, equals,
    Text.delimiter_notMem_escape plain percent _⟩

theorem ofPiece_chars (p : Parameter) : ofPiece p.chars = p := by
  have hname := Text.delimiter_notMem_escape (c := '=') (by decide) (by decide) p.name.toList
  rw [ofPiece, chars, Text.cutFirst?_append hname]
  simp only [Link.component_escape]

/-- Texts joined by `&` write the parameters of both. -/
theorem ofChars_append (xs ys : List Char) :
    ofChars (xs ++ '&' :: ys) = ofChars xs ++ ofChars ys := by
  have cut : (xs ++ '&' :: ys).splitOn '&' = xs.splitOn '&' ++ ys.splitOn '&' :=
    List.splitOnP_append_cons xs ys (by decide)
  simp only [ofChars, cut, List.filter_append, List.map_append]

/-- The pieces of a text are its parameters, but for empty ones. -/
theorem ofChars_pieces {pieces : List (List Char)} (apart : ∀ piece ∈ pieces, '&' ∉ piece) :
    ofChars (['&'].intercalate pieces) =
      (pieces.filter fun piece => !piece.isEmpty).map ofPiece := by
  cases pieces with
  | nil => rfl
  | cons piece rest => rw [ofChars, List.splitOn_intercalate '&' apart (by simp)]

/-- The named values that a text was joined from. -/
theorem ofChars_intercalate (ps : List Parameter) :
    ofChars (['&'].intercalate (ps.map chars)) = ps := by
  have apart : ∀ piece ∈ ps.map chars, '&' ∉ piece := by
    intro piece hpiece
    obtain ⟨p, -, rfl⟩ := List.mem_map.1 hpiece
    exact p.delimiter_notMem_chars (by decide) (by decide) (by decide)
  have kept : (ps.map chars).filter (fun piece => !piece.isEmpty) = ps.map chars := by
    rw [List.filter_eq_self]
    intro piece hpiece
    obtain ⟨p, -, rfl⟩ := List.mem_map.1 hpiece
    simp [chars_ne_nil]
  rw [ofChars_pieces apart, kept, List.map_map]
  simp [Function.comp_def, ofPiece_chars]

end Parameter

/-! ## Links -/

namespace Link

/-- The anchor, unless it is empty. -/
def keptAnchor : Option String → Option String
  | none => none
  | some anchor => if anchor = "" then none else some anchor

theorem keptAnchor_keptAnchor (anchor : Option String) :
    keptAnchor (keptAnchor anchor) = keptAnchor anchor := by
  cases anchor with
  | none => rfl
  | some anchor => by_cases h : anchor = "" <;> simp [keptAnchor, h]

theorem anchorChars_keptAnchor (anchor : Option String) :
    anchorChars (keptAnchor anchor) = anchorChars anchor := by
  cases anchor with
  | none => rfl
  | some anchor => by_cases h : anchor = "" <;> simp [keptAnchor, anchorChars, h]

theorem delimiter_notMem_query {c : Char} (plain : Text.isPlain c = false) (percent : c ≠ '%')
    (equals : c ≠ '=') (ampersand : c ≠ '&') (ps : List Parameter) :
    c ∉ ['&'].intercalate (ps.map Parameter.chars) := by
  intro h
  rcases Text.mem_intercalate h with hc | ⟨piece, hpiece, hc⟩
  · exact ampersand (List.mem_singleton.1 hc)
  · obtain ⟨p, -, rfl⟩ := List.mem_map.1 hpiece
    exact p.delimiter_notMem_chars plain percent equals hc

/-! ### Reading texts -/

theorem dropMark_append (xs : List Char) {c : Char} (plain : c ≠ '?') (ys : List Char) :
    dropMark (xs ++ c :: ys) = dropMark xs ++ c :: ys := by
  unfold dropMark
  cases xs with
  | nil => simp [plain]
  | cons d rest => by_cases mark : d = '?' <;> simp [mark]

theorem dropMark_of_head? {text : List Char} (plain : text.head? ≠ some '?') :
    dropMark text = text := by
  unfold dropMark
  split
  · simp at plain
  · rfl

theorem notMem_dropMark {c : Char} {text : List Char} (absent : c ∉ text) : c ∉ dropMark text := by
  unfold dropMark
  split
  · exact fun member => absent (List.mem_cons_of_mem _ member)
  · exact absent

/-- A text without `#` has no anchor. -/
theorem ofChars_of_notMem {text : List Char} (absent : '#' ∉ text) :
    ofChars text = ⟨Parameter.ofChars (dropMark text), none⟩ := by
  simp only [ofChars, Text.cutFirst?_eq_none (notMem_dropMark absent)]

theorem ofChars_append {xs ys : List Char} (hx : '#' ∉ xs) (hy : '#' ∉ ys)
    (plain : ys.head? ≠ some '?') :
    ofChars (xs ++ '&' :: ys) = ⟨(ofChars xs).parameters ++ (ofChars ys).parameters, none⟩ := by
  have absent : '#' ∉ xs ++ '&' :: ys := by simp [hx, hy]
  rw [ofChars_of_notMem absent, ofChars_of_notMem hx, ofChars_of_notMem hy,
    dropMark_append xs (by decide), dropMark_of_head? plain, Parameter.ofChars_append]

/-- The anchor is what follows the first `#`. -/
theorem ofChars_anchor {text : List Char} (absent : '#' ∉ text) (anchor : List Char) :
    ofChars (text ++ '#' :: anchor) =
      { ofChars text with anchor := if anchor.isEmpty then none else some (component anchor) } := by
  simp only [ofChars, dropMark_append text (show '#' ≠ '?' by decide),
    Text.cutFirst?_append (notMem_dropMark absent), Text.cutFirst?_eq_none (notMem_dropMark absent)]

/-! ### Reading what was written -/

/-- **A written link reads back**, whatever its names, values and anchor are. -/
theorem ofChars_chars (link : Link) :
    ofChars link.chars = { link with anchor := keptAnchor link.anchor } := by
  obtain ⟨ps, anchor⟩ := link
  have hash := delimiter_notMem_query (c := '#') (by decide) (by decide) (by decide) (by decide) ps
  have mark := delimiter_notMem_query (c := '?') (by decide) (by decide) (by decide) (by decide) ps
  have plain : (['&'].intercalate (ps.map Parameter.chars)).head? ≠ some '?' := fun begins =>
    mark (List.mem_of_head? begins)
  have without : ofChars (['&'].intercalate (ps.map Parameter.chars)) = ⟨ps, none⟩ := by
    rw [ofChars_of_notMem hash, dropMark_of_head? plain, Parameter.ofChars_intercalate]
  simp only [chars]
  cases anchor with
  | none => simpa [anchorChars, keptAnchor] using without
  | some anchor =>
      by_cases empty : anchor = ""
      · simpa [anchorChars, keptAnchor, empty] using without
      · have escape : Text.escape anchor.toList ≠ [] := Text.escape_ne_nil (by simpa using empty)
        rw [anchorChars, if_neg empty, ofChars_anchor hash, without]
        simp [keptAnchor, empty, escape, component_escape]

end Link

end FacetedSearch
