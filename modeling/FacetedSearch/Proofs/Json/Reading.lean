/-
# FacetedSearch.Proofs.Json.Reading -- every JSON text is read as what it says

The lexer reads one character at a time and the reader one token at a time, so both are followed
along a spelling with any text after it.  A run of bare characters is only over when something else
follows, so a value is read up to its end where the text after it does not begin with one (`Ended`).
After the text of a value the reader stands where it would stand had the value been pushed at once
(`readFrom_chars`), and a whole text gives its document with no break (`read_chars`).
-/
import FacetedSearch.Proofs.Json.Spelling
import Mathlib.Data.List.TakeDrop

namespace FacetedSearch.Json

set_option autoImplicit false

/-! ## Between tokens -/

/-- The text does not begin with a character of a number or a name. -/
def Ended (text : List Char) : Prop := ∀ c ∈ text.head?, isBareChar c = false

theorem ended_nil : Ended [] := by simp [Ended]

theorem ended_cons {c : Char} (h : isBareChar c = false) (rest : List Char) :
    Ended (c :: rest) := by
  simpa [Ended] using h

theorem isBareChar_of_isSpace {c : Char} (h : isSpace c = true) : isBareChar c = false := by
  simp only [isSpace, Bool.or_eq_true, beq_iff_eq] at h
  rcases h with ((rfl | rfl) | rfl) | rfl <;> decide

theorem Gap.ended (gap : Gap) {tail : List Char} (h : Ended tail) : Ended (gap.chars ++ tail) := by
  obtain ⟨chars, spaces⟩ := gap
  cases chars with
  | nil => exact h
  | cons c rest =>
      rw [List.all_cons, Bool.and_eq_true] at spaces
      exact ended_cons (isBareChar_of_isSpace spaces.1) _

/-- White space gives no token. -/
theorem tokensFrom_gap (gap : Gap) (tail : List Char) :
    tokensFrom .between (gap.chars ++ tail) = tokensFrom .between tail := by
  obtain ⟨chars, spaces⟩ := gap
  induction chars with
  | nil => rfl
  | cons c rest ih =>
      rw [List.all_cons, Bool.and_eq_true] at spaces
      simpa [tokensFrom, Mode.step, begin, spaces.1] using ih spaces.2

/-! ## Numbers and names -/

theorem tokensFrom_bare {run : List Char} (read : List Char) (bare : ∀ c ∈ run, isBareChar c = true)
    {tail : List Char} (ended : Ended tail) :
    tokensFrom (.bare read) (run ++ tail) =
      bareToken (read.reverse ++ run) :: tokensFrom .between tail := by
  induction run generalizing read with
  | nil =>
      cases tail with
      | nil => simp [tokensFrom, Mode.finish]
      | cons c rest =>
          have hc : isBareChar c = false := ended c rfl
          simp [tokensFrom, Mode.step, hc]
  | cons c rest ih =>
      have hc := bare c List.mem_cons_self
      have hrest := ih (c :: read) fun d hd => bare d (List.mem_cons_of_mem _ hd)
      simp [tokensFrom, Mode.step, hc, hrest]

/-- A run of bare characters is one token. -/
theorem tokensFrom_run {run : List Char} (ne : run ≠ []) (bare : ∀ c ∈ run, isBareChar c = true)
    {tail : List Char} (ended : Ended tail) :
    tokensFrom .between (run ++ tail) = bareToken run :: tokensFrom .between tail := by
  cases run with
  | nil => exact absurd rfl ne
  | cons c rest =>
      have hc := bare c List.mem_cons_self
      have hspace : isSpace c = false :=
        Bool.eq_false_iff.2 fun h => absurd hc (by simp [isBareChar_of_isSpace h])
      have hrest := tokensFrom_bare [c] (fun d hd => bare d (List.mem_cons_of_mem _ hd)) ended
      simpa [tokensFrom, Mode.step, begin, hspace, hc] using hrest

theorem isBareChar_of_isDigit {c : Char} (h : c.isDigit = true) : isBareChar c = true := by
  simp [isBareChar, Char.isAlphanum, h]

theorem isDigit_of_isNumeral {digits : List Char} (h : Text.isNumeral digits = true) {c : Char}
    (hc : c ∈ digits) : c.isDigit = true := by
  simp only [Text.isNumeral, Text.isRun, Bool.and_eq_true, List.all_eq_true] at h
  exact h.2 c hc

/-- A numeral begins with a zero only if it is one digit. -/
theorem isWhole_numeral (n : Nat) : isWhole (Text.numeral n) = true := by
  have hhead : ∀ m, 0 < m → (Text.numeral m).head? ≠ some '0' := by
    intro m
    induction m using Nat.strongRecOn with
    | ind m ih =>
        intro hpos
        by_cases hm : m < 10
        · have hall : ∀ i : Fin 10, 0 < i.val → ([Nat.digitChar i].head? ≠ some '0') := by decide
          simpa [Text.numeral, Nat.toDigits_of_lt_base hm] using hall ⟨m, hm⟩ hpos
        · have hlead := ih (m / 10) (by omega) (by omega)
          have hne : Nat.toDigits 10 (m / 10) ≠ [] := Nat.toDigits_ne_nil
          obtain ⟨first, rest, hdigits⟩ := List.exists_cons_of_ne_nil hne
          rw [Text.numeral, Nat.toDigits_of_base_le (by decide) (by omega), hdigits]
          rwa [Text.numeral, hdigits] at hlead
  rcases Nat.eq_zero_or_pos n with rfl | hpos
  · decide
  · simp [isWhole, Text.isNumeral_numeral, hhead n hpos]

namespace Exponent

theorem isBareChar_of_mem {e : Exponent} {c : Char} (hc : c ∈ e.chars) : isBareChar c = true := by
  simp only [chars, List.mem_cons, List.mem_append, Option.mem_toList] at hc
  rcases hc with rfl | hsign | hdigit
  · rcases e.marks with h | h <;> rw [h] <;> decide
  · rcases e.signs c hsign with rfl | rfl <;> decide
  · exact isBareChar_of_isDigit (isDigit_of_isNumeral e.digits.numeral hdigit)

theorem isExponent_tail (e : Exponent) : isExponent (e.sign?.toList ++ e.digits.chars) = true := by
  have hdigits := e.digits.numeral
  cases hsign : e.sign? with
  | none =>
      -- without a sign the digits themselves must not begin with one
      obtain ⟨first, rest, hcons⟩ : ∃ first rest, e.digits.chars = first :: rest := by
        cases hchars : e.digits.chars with
        | nil => rw [hchars] at hdigits; exact absurd hdigits (by decide)
        | cons first rest => exact ⟨first, rest, rfl⟩
      have hfirst : first.isDigit = true :=
        isDigit_of_isNumeral hdigits (hcons ▸ List.mem_cons_self)
      rw [hcons] at hdigits ⊢
      have hplus : first ≠ '+' := by rintro rfl; exact absurd hfirst (by decide)
      have hminus : first ≠ '-' := by rintro rfl; exact absurd hfirst (by decide)
      simpa [isExponent, hplus, hminus] using hdigits
  | some sign =>
      rcases e.signs sign hsign with rfl | rfl <;> simpa [isExponent] using hdigits

end Exponent

namespace Numeric

theorem mantissa_cases {n : Numeric} {c : Char} (hc : c ∈ n.mantissa) :
    c.isDigit = true ∨ c = '.' := by
  have hwhole := Text.isNumeral_numeral n.whole
  unfold mantissa at hc
  split at hc
  · exact .inl (isDigit_of_isNumeral hwhole hc)
  · rename_i digits _
    rcases List.mem_append.1 hc with h | h
    · exact .inl (isDigit_of_isNumeral hwhole h)
    · rcases List.mem_cons.1 h with rfl | h
      · exact .inr rfl
      · exact .inl (isDigit_of_isNumeral digits.numeral h)

theorem isBareChar_of_mem {n : Numeric} {c : Char} (hc : c ∈ n.chars) : isBareChar c = true := by
  simp only [chars, List.mem_append] at hc
  rcases hc with hminus | hmantissa | hexponent
  · split at hminus
    · obtain rfl := List.mem_singleton.1 hminus
      decide
    · exact absurd hminus List.not_mem_nil
  · rcases mantissa_cases hmantissa with h | rfl
    · exact isBareChar_of_isDigit h
    · decide
  · cases he : n.exponent? with
    | none => simp [he] at hexponent
    | some e => exact e.isBareChar_of_mem (by simpa [he] using hexponent)

/-- The exponent begins at the first `e`, since the mantissa has none. -/
theorem cutExponent_append (n : Numeric) :
    cutExponent (n.mantissa ++ (n.exponent?.map Exponent.chars).getD []) =
      (n.mantissa, n.exponent?.map fun e => e.sign?.toList ++ e.digits.chars) := by
  have hmantissa : ∀ c ∈ n.mantissa, (c != 'e' && c != 'E') = true := by
    intro c hc
    rcases mantissa_cases hc with h | rfl
    · have he : c ≠ 'e' := by rintro rfl; exact absurd h (by decide)
      have hE : c ≠ 'E' := by rintro rfl; exact absurd h (by decide)
      simp [he, hE]
    · decide
  simp only [cutExponent, List.span_eq_takeWhile_dropWhile, List.takeWhile_append_of_pos hmantissa,
    List.dropWhile_append_of_pos hmantissa]
  cases n.exponent? with
  | none => simp
  | some e =>
      have hmark : (e.mark != 'e' && e.mark != 'E') = false := by
        rcases e.marks with h | h <;> rw [h] <;> decide
      simp [Exponent.chars, hmark]

theorem unsignedNumber_append (n : Numeric) :
    unsignedNumber n.negative (n.mantissa ++ (n.exponent?.map Exponent.chars).getD []) =
      .number n.integer? := by
  have hexponent : (n.exponent?.map fun e => e.sign?.toList ++ e.digits.chars).all isExponent := by
    cases n.exponent? with
    | none => rfl
    | some e => exact e.isExponent_tail
  have hpoint : '.' ∉ Text.numeral n.whole := fun h =>
    absurd (isDigit_of_isNumeral (Text.isNumeral_numeral n.whole) h) (by decide)
  have hvalue : Nat.ofDigitChars 10 (Text.numeral n.whole) 0 = n.whole :=
    Nat.ofDigitChars_toDigits (by decide) (by decide)
  have hzero : (Text.numeral n.whole == ['0']) = (n.whole == 0) := by
    rw [Bool.eq_iff_iff, beq_iff_eq, beq_iff_eq]
    exact ⟨fun h => by rw [← hvalue, h]; decide, fun h => by rw [h]; decide⟩
  simp only [unsignedNumber, cutExponent_append]
  cases hfraction : n.fraction? with
  | some digits =>
      simp [mantissa, hfraction, Text.cutFirst?_append hpoint, isWhole_numeral, digits.numeral,
        hexponent, integer?]
  | none =>
      simp [mantissa, hfraction, Text.cutFirst?_eq_none hpoint, isWhole_numeral, hexponent,
        integer?, hvalue, hzero, apply_ite Token.number]

theorem bareToken_of_isDigit {first : Char} (digit : first.isDigit = true) (rest : List Char) :
    bareToken (first :: rest) = unsignedNumber false (first :: rest) := by
  have hne : ∀ c : Char, c.isDigit = false → first ≠ c := by
    rintro c hc rfl
    rw [digit] at hc
    exact absurd hc (by decide)
  have htrue : first :: rest ≠ "true".toList := fun h => hne 't' (by decide) (List.cons.inj h).1
  have hfalse : first :: rest ≠ "false".toList := fun h => hne 'f' (by decide) (List.cons.inj h).1
  have hnull : first :: rest ≠ "null".toList := fun h => hne 'n' (by decide) (List.cons.inj h).1
  rw [bareToken, if_neg htrue, if_neg hfalse, if_neg hnull]
  exact fun _ h => hne '-' (by decide) (List.cons.inj h).1

theorem bareToken_minus (rest : List Char) :
    bareToken ('-' :: rest) = unsignedNumber true rest := by
  simp [bareToken]

/-- A number without its minus sign begins with a digit. -/
theorem exists_mantissa_eq (n : Numeric) :
    ∃ first rest, n.mantissa = first :: rest ∧ first.isDigit = true := by
  have hne : Nat.toDigits 10 n.whole ≠ [] := Nat.toDigits_ne_nil
  obtain ⟨first, rest, hnumeral⟩ := List.exists_cons_of_ne_nil hne
  have hfirst : first.isDigit = true :=
    isDigit_of_isNumeral (Text.isNumeral_numeral n.whole) (by simp [Text.numeral, hnumeral])
  unfold mantissa
  split
  · exact ⟨first, rest, hnumeral, hfirst⟩
  · exact ⟨first, _, by rw [Text.numeral, hnumeral, List.cons_append], hfirst⟩

/-- **A number is one token**, which has the integer that the number has. -/
theorem bareToken_chars (n : Numeric) : bareToken n.chars = .number n.integer? := by
  have hunsigned := n.unsignedNumber_append
  cases hsign : n.negative with
  | true => simpa [chars, hsign, bareToken_minus] using hunsigned
  | false =>
      obtain ⟨first, rest, hcons, hdigit⟩ := n.exists_mantissa_eq
      rw [hsign, hcons, List.cons_append] at hunsigned
      simpa [chars, hsign, hcons, bareToken_of_isDigit hdigit] using hunsigned

theorem chars_ne_nil (n : Numeric) : n.chars ≠ [] := by
  obtain ⟨first, rest, hcons, -⟩ := n.exists_mantissa_eq
  simp [chars, hcons]

end Numeric

/-! ## Strings -/

namespace Quoted

/-- The string after one more piece. -/
def add (q : Quoted) : Piece → Quoted
  | .literal c _ => q.push c
  | .short _ c _ => q.push c
  | .unit u => q.pushUnit u.value

end Quoted

/-- One more digit of an escape, which may be its last one. -/
theorem tokensFrom_hexDigit (q : Quoted) (d : HexDigit) (owed value : Nat) (tail : List Char) :
    tokensFrom (.unit q owed value) (d.char :: tail) =
      match owed with
      | 0 => tokensFrom (.quoted (q.pushUnit (value * 16 + d.value))) tail
      | owed + 1 => tokensFrom (.unit q owed (value * 16 + d.value)) tail := by
  cases owed <;> simp [tokensFrom, Mode.step, d.reads]

theorem tokensFrom_piece (q : Quoted) (piece : Piece) (tail : List Char) :
    tokensFrom (.quoted q) (piece.chars ++ tail) = tokensFrom (.quoted (q.add piece)) tail := by
  cases piece with
  | literal c allowed =>
      simp only [isLiteral, Bool.and_eq_true, bne_iff_ne, Bool.not_eq_true',
        decide_eq_false_iff_not] at allowed
      simp [Piece.chars, Quoted.add, tokensFrom, Mode.step, allowed]
  | short letter c stands =>
      have hletter : letter ≠ 'u' := by
        rintro rfl
        simp [escapedChar?] at stands
      simp [Piece.chars, Quoted.add, tokensFrom, Mode.step, hletter, stands]
  | unit u =>
      have hbegin : ∀ rest, tokensFrom (.quoted q) ('\\' :: 'u' :: rest) =
          tokensFrom (.unit q 3 0) rest := by simp [tokensFrom, Mode.step]
      simp only [Piece.chars, CodeUnit.chars, List.cons_append, List.nil_append, hbegin,
        tokensFrom_hexDigit, Nat.zero_mul, Nat.zero_add, Quoted.add, CodeUnit.value]

/-- The lexer takes a string piece by piece, up to the quote at its end. -/
theorem tokensFrom_pieces (pieces : List Piece) (q : Quoted) (tail : List Char) :
    tokensFrom (.quoted q) (pieces.flatMap Piece.chars ++ '"' :: tail) =
      (pieces.foldl Quoted.add q).close :: tokensFrom .between tail := by
  induction pieces generalizing q with
  | nil => simp [tokensFrom, Mode.step]
  | cons piece rest ih =>
      rw [List.flatMap_cons, List.append_assoc, tokensFrom_piece, ih, List.foldl_cons]

namespace Quoted

/-- A half that has no other half is never made good. -/
theorem close_foldl_add_of_unpaired {q : Quoted} (h : q.paired = false) (pieces : List Piece) :
    (pieces.foldl add q).close = .string none := by
  induction pieces generalizing q with
  | nil => simp [close, h]
  | cons piece rest ih =>
      refine ih ?_
      cases piece with
      | literal c allowed => simp [add, push, h]
      | short letter c stands => simp [add, push, h]
      | unit u =>
          simp only [add, pushUnit]
          split
          · split <;> simp [h]
          · split <;> simp [push, h]

theorem pushUnit_of_isHigh (q : Quoted) {u : CodeUnit} (high : u.isHigh = true) :
    q.pushUnit u.value = ⟨q.read, some u.value, q.paired && q.half.isNone⟩ := by
  simp only [CodeUnit.isHigh, Bool.and_eq_true, decide_eq_true_eq] at high
  rw [pushUnit, if_neg (by omega), if_pos high]

theorem pushUnit_of_isLow (q : Quoted) {u : CodeUnit} (low : u.isLow = true) :
    q.pushUnit u.value =
      match q.half with
      | some high =>
        ⟨Char.ofNat (0x10000 + (high - 0xD800) * 0x400 + (u.value - 0xDC00)) :: q.read, none,
          q.paired⟩
      | none => ⟨q.read, none, false⟩ := by
  simp only [CodeUnit.isLow, Bool.and_eq_true, decide_eq_true_eq] at low
  rw [pushUnit, if_pos low]
  cases q.half <;> simp

/-- A piece that is a character by itself adds just that character. -/
theorem add_of_char? (q : Quoted) {piece : Piece} {c : Char} (h : piece.char? = some c) :
    q.add piece = q.push c := by
  cases piece with
  | literal d allowed => obtain rfl := Option.some.inj h; rfl
  | short letter d stands => obtain rfl := Option.some.inj h; rfl
  | unit u =>
      simp only [Piece.char?, CodeUnit.char?, Option.ite_none_left_eq_some, Bool.or_eq_true, not_or,
        Option.some.injEq, CodeUnit.isHigh, CodeUnit.isLow, Bool.and_eq_true,
        decide_eq_true_eq] at h
      obtain ⟨⟨high, low⟩, rfl⟩ := h
      rw [add, pushUnit, if_neg low, if_neg high]

/-- The first half of a pair is lost unless the second one follows at once. -/
theorem paired_add_of_half {q : Quoted} (hhalf : q.half.isSome = true) {piece : Piece}
    (other : ∀ v, piece = .unit v → v.isLow = false) : (q.add piece).paired = false := by
  have hnone : q.half.isNone = false := by simpa using hhalf
  cases hc : piece.char? with
  | some c => simp [add_of_char? q hc, push, hnone]
  | none =>
      obtain ⟨v, rfl⟩ : ∃ v, piece = .unit v := by
        cases piece <;> simp [Piece.char?] at hc ⊢
      have hlow := other v rfl
      have hhigh : v.isHigh = true := by
        simpa [Piece.char?, CodeUnit.char?, hlow] using hc
      simp [add, pushUnit_of_isHigh q hhigh, hnone]

/-- A string with half of a pair alone has no text. -/
theorem close_foldl_add_of_alone {q : Quoted} {u : CodeUnit} (hhalf : q.half = none)
    (hu : u.char? = none) {rest : List Piece}
    (alone : ∀ v rest', rest = .unit v :: rest' → (u.isHigh && v.isLow) = false) :
    (rest.foldl add (q.add (.unit u))).close = .string none := by
  cases hhigh : u.isHigh with
  | false =>
      have hlow : u.isLow = true := by simpa [CodeUnit.char?, hhigh] using hu
      refine close_foldl_add_of_unpaired ?_ rest
      simp [add, pushUnit_of_isLow q hlow, hhalf]
  | true =>
      have hsome : (q.add (.unit u)).half.isSome = true := by
        simp [add, pushUnit_of_isHigh q hhigh]
      cases rest with
      | nil => simp [close, Option.isSome_iff_ne_none.1 hsome]
      | cons piece rest =>
          refine close_foldl_add_of_unpaired (paired_add_of_half hsome fun v hv => ?_) rest
          simpa [hhigh] using alone v rest (by rw [hv])

/-- **A string has the text of its pieces**, which are read from the left: two units that make a
pair are one character, and a half without the other leaves no text. -/
theorem close_foldl_add (pieces : List Piece) {q : Quoted} (hhalf : q.half = none)
    (hpaired : q.paired = true) :
    (pieces.foldl add q).close =
      .string ((Piece.text? pieces).map fun text => String.ofList (q.read.reverse ++ text)) := by
  fun_induction Piece.text? pieces generalizing q with
  | case1 => simp [close, hhalf, hpaired]
  | case2 u v rest pair ih =>
      obtain ⟨high, low⟩ := Bool.and_eq_true_iff.1 pair
      have hadd : (q.add (.unit u)).add (.unit v) =
          ⟨CodeUnit.paired u v :: q.read, none, true⟩ := by
        simp [add, pushUnit_of_isHigh q high, pushUnit_of_isLow _ low, hhalf, hpaired,
          CodeUnit.paired]
      rw [List.foldl_cons, List.foldl_cons, hadd, ih rfl rfl]
      cases Piece.text? rest <;> simp
  | case3 u v rest alone ih =>
      rw [List.foldl_cons]
      cases hc : u.char? with
      | none =>
          refine close_foldl_add_of_alone hhalf hc fun w rest' heq => ?_
          obtain ⟨rfl, -⟩ : v = w ∧ rest = rest' := by simpa using heq
          simpa using alone
      | some c =>
          have hpiece : Piece.char? (.unit u) = some c := hc
          rw [add_of_char? q hpiece, ih (by simp [push]) (by simp [push, hhalf, hpaired])]
          cases Piece.text? (.unit v :: rest) <;> simp [push]
  | case4 piece rest other ih =>
      rw [List.foldl_cons]
      cases hc : piece.char? with
      | none =>
          obtain ⟨u, rfl⟩ : ∃ u, piece = .unit u := by
            cases piece <;> simp [Piece.char?] at hc ⊢
          exact close_foldl_add_of_alone hhalf hc fun v rest' heq => (other u v rest' rfl heq).elim
      | some c =>
          rw [add_of_char? q hc, ih (by simp [push]) (by simp [push, hhalf, hpaired])]
          cases Piece.text? rest <;> simp [push]

end Quoted

theorem tokensFrom_quoted (pieces : List Piece) (tail : List Char) :
    tokensFrom .between (Piece.quoted pieces ++ tail) =
      .string (Piece.string? pieces) :: tokensFrom .between tail := by
  have hpieces := tokensFrom_pieces pieces {} tail
  rw [Quoted.close_foldl_add pieces rfl rfl] at hpieces
  simpa [Piece.quoted, Piece.string?, tokensFrom, Mode.step, begin, isSpace, isBareChar]
    using hpieces

/-! ## Values -/

/-- A character that is a token by itself. -/
theorem tokensFrom_mark {c : Char} {token : Token} (h : begin c = ([token], .between))
    (tail : List Char) :
    tokensFrom .between (c :: tail) = token :: tokensFrom .between tail := by
  simp [tokensFrom, Mode.step, h]

namespace Progress

/-- A value may come next. -/
def AwaitsValue (p : Progress) : Prop := p.expected = .value ∨ p.expected = .firstValue

/-- The name of a member may come next. -/
def AwaitsName (p : Progress) : Prop := p.expected = .name ∨ p.expected = .firstName

end Progress

open Progress (push readValue)

theorem readFrom_of_readValue {p next : Progress} {token : Token} (h : p.AwaitsValue)
    (hread : readValue p.stack token = some next) (rest : List Token) :
    readFrom p (token :: rest) = readFrom next rest := by
  obtain ⟨stack, expected, result⟩ := p
  have hstep : Progress.step ⟨stack, expected, result⟩ token = some next := by
    rcases h with rfl | rfl
    · exact hread
    · cases token with
      | closeArray => simp [readValue] at hread
      | _ => exact hread
  rw [readFrom, hstep]

theorem readFrom_openArray {p : Progress} (h : p.AwaitsValue) (rest : List Token) :
    readFrom p (.openArray :: rest) = readFrom ⟨.array [] :: p.stack, .firstValue, none⟩ rest :=
  readFrom_of_readValue h rfl rest

theorem readFrom_openObject {p : Progress} (h : p.AwaitsValue) (rest : List Token) :
    readFrom p (.openObject :: rest) =
      readFrom ⟨.object [] none :: p.stack, .firstName, none⟩ rest :=
  readFrom_of_readValue h rfl rest

/-- The name of a member and the colon after it. -/
theorem readFrom_name {p : Progress} (h : p.AwaitsName) {members : List (Option String × Document)}
    {name : Option String} {stack : List Frame} (hstack : p.stack = .object members name :: stack)
    (n : Name) (tail : List Char) :
    readFrom p (tokensFrom .between (n.chars ++ ':' :: tail)) =
      readFrom ⟨.object members (Piece.string? n.pieces) :: stack, .value, none⟩
        (tokensFrom .between tail) := by
  obtain ⟨stack', expected, result⟩ := p
  obtain rfl := hstack
  have hstep : Progress.step ⟨.object members name :: stack, expected, result⟩
      (.string (Piece.string? n.pieces)) =
        some ⟨.object members (Piece.string? n.pieces) :: stack, .colon, none⟩ := by
    rcases h with rfl | rfl <;> rfl
  rw [Name.chars, List.append_assoc, List.append_assoc, tokensFrom_gap, tokensFrom_quoted,
    tokensFrom_gap, tokensFrom_mark rfl]
  simp only [readFrom, hstep]
  rfl

namespace Spelling

mutual

/-- After the text of a value the reader stands where the value is pushed. -/
theorem readFrom_chars (s : Spelling) {p : Progress} (h : p.AwaitsValue) {tail : List Char}
    (ended : Ended tail) :
    readFrom p (tokensFrom .between (s.chars ++ tail)) =
      readFrom (push s.document p.stack) (tokensFrom .between tail) := by
  match s with
  | .null =>
      rw [chars, tokensFrom_run (by decide) (List.all_eq_true.1 (by decide)) ended]
      exact readFrom_of_readValue h rfl _
  | .boolean value =>
      cases value <;>
        rw [chars, Value.booleanText,
          tokensFrom_run (by decide) (List.all_eq_true.1 (by decide)) ended] <;>
        exact readFrom_of_readValue h rfl _
  | .number n =>
      rw [chars, tokensFrom_run n.chars_ne_nil (fun c => n.isBareChar_of_mem) ended,
        n.bareToken_chars]
      exact readFrom_of_readValue h rfl _
  | .string pieces =>
      rw [chars, tokensFrom_quoted]
      exact readFrom_of_readValue h rfl _
  | .array gap items =>
      simp only [chars, List.cons_append, List.append_assoc, List.nil_append]
      rw [tokensFrom_mark rfl, tokensFrom_gap, readFrom_openArray h]
      cases items with
      | nil => rw [itemsChars, List.intercalate_nil, List.nil_append, tokensFrom_mark rfl]; rfl
      | cons item rest => exact readFrom_items (item :: rest) (by simp) [] p.stack (.inr rfl) tail
  | .object gap members =>
      simp only [chars, List.cons_append, List.append_assoc, List.nil_append]
      rw [tokensFrom_mark rfl, tokensFrom_gap, readFrom_openObject h]
      cases members with
      | nil => rw [membersChars, List.intercalate_nil, List.nil_append, tokensFrom_mark rfl]; rfl
      | cons member rest =>
          exact readFrom_members (member :: rest) (by simp) [] p.stack (.inr rfl) tail
  | .spaced before value after =>
      rw [chars, List.append_assoc, List.append_assoc, tokensFrom_gap,
        readFrom_chars value h (after.ended ended), tokensFrom_gap, document]

/-- The items of an array up to its end, after those that are done. -/
theorem readFrom_items (items : List Spelling) (ne : items ≠ []) (done : List Document)
    (stack : List Frame) {expected : Expected}
    (h : Progress.AwaitsValue ⟨.array done :: stack, expected, none⟩) (tail : List Char) :
    readFrom ⟨.array done :: stack, expected, none⟩
        (tokensFrom .between ([','].intercalate (itemsChars items) ++ ']' :: tail)) =
      readFrom (push (.array (done.reverse ++ itemsDocuments items)) stack)
        (tokensFrom .between tail) := by
  match items, ne with
  | [item], _ =>
      rw [itemsChars, itemsChars, List.intercalate_singleton,
        readFrom_chars item h (ended_cons (by decide) _), tokensFrom_mark rfl]
      simp [readFrom, push, Progress.step, Progress.readClose, itemsDocuments]
  | item :: next :: rest, _ =>
      have hrest := readFrom_items (next :: rest) (by simp) (item.document :: done) stack
        (.inl rfl) tail
      rw [itemsChars, itemsChars, List.intercalate_cons_cons, List.append_assoc, List.append_assoc,
        List.singleton_append, readFrom_chars item h (ended_cons (by decide) _),
        tokensFrom_mark rfl]
      simpa [readFrom, push, Progress.step, Progress.readComma, itemsDocuments, itemsChars]
        using hrest

/-- The members of an object up to its end, after those that are done. -/
theorem readFrom_members (members : List (Name × Spelling)) (ne : members ≠ [])
    (done : List (Option String × Document)) (stack : List Frame) {expected : Expected}
    (h : Progress.AwaitsName ⟨.object done none :: stack, expected, none⟩) (tail : List Char) :
    readFrom ⟨.object done none :: stack, expected, none⟩
        (tokensFrom .between ([','].intercalate (membersChars members) ++ '}' :: tail)) =
      readFrom (push (.object (done.reverse ++ membersDocuments members)) stack)
        (tokensFrom .between tail) := by
  match members, ne with
  | [(name, value)], _ =>
      rw [membersChars, membersChars, List.intercalate_singleton, List.append_assoc,
        List.cons_append, readFrom_name h rfl,
        readFrom_chars value (.inl rfl) (ended_cons (by decide) _), tokensFrom_mark rfl]
      simp [readFrom, push, Progress.step, Progress.readClose, membersDocuments]
  | (name, value) :: next :: rest, _ =>
      have hrest := readFrom_members (next :: rest) (by simp)
        ((Piece.string? name.pieces, value.document) :: done) stack (.inl rfl) tail
      rw [membersChars, membersChars, List.intercalate_cons_cons, List.append_assoc,
        List.append_assoc, List.append_assoc, List.cons_append, List.singleton_append,
        readFrom_name h rfl, readFrom_chars value (.inl rfl) (ended_cons (by decide) _),
        tokensFrom_mark rfl]
      simpa [readFrom, push, Progress.step, Progress.readComma, membersDocuments, membersChars]
        using hrest

end

/-- **Every JSON text is read as what it says**, to its end. -/
theorem read_chars (s : Spelling) : read s.chars = ⟨some s.document, true⟩ := by
  have h := readFrom_chars s (p := .start) (.inl rfl) ended_nil
  rw [List.append_nil] at h
  exact h

end Spelling

end FacetedSearch.Json
