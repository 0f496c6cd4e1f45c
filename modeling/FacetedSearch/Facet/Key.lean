/-
# FacetedSearch.Facet.Key -- hierarchical facet keys

A key names a group and up to three numbered levels below it: topic, subtopic and subsubtopic.  Its
text is the group and the levels, each after a point, as in `onc.1.12`.  A key is well formed if its
group is one or more ASCII letters and digits and no level is set without the coarser ones; the
other keys arise only from values filled in by hand, and their text stops at the first level that is
not set.  `Key.ofText?` accepts leading zeros in a level, so several texts may name one key, but the
text of a well-formed key names that key (`Key.ofText?_text`).
-/
import FacetedSearch.Text.Numeral
import FacetedSearch.Text.Pieces

namespace FacetedSearch.Facet

set_option autoImplicit false

/-- The key of a facet. -/
structure Key where
  group : String
  /-- The first level below the group. -/
  topic : Option UInt32 := none
  /-- The second level. -/
  subtopic : Option UInt32 := none
  /-- The third and last level. -/
  subsubtopic : Option UInt32 := none
  deriving DecidableEq, Ord

namespace Key

/-! ## Levels -/

/-- The levels from the coarsest on, up to the first that is not set. -/
def levels (k : Key) : List UInt32 :=
  match k.topic, k.subtopic, k.subsubtopic with
  | none, _, _ => []
  | some t, none, _ => [t]
  | some t, some s, none => [t, s]
  | some t, some s, some u => [t, s, u]

/-- The key of a group and the first three of some levels. -/
def ofLevels (group : String) (levels : List UInt32) : Key :=
  ⟨group, levels[0]?, levels[1]?, levels[2]?⟩

/-- How many levels the key has below its group. -/
def depth (k : Key) : Nat := k.levels.length

/-- The key one level below, which a key of three levels does not have. -/
def child? (k : Key) (index : UInt32) : Option Key :=
  match k.topic, k.subtopic, k.subsubtopic with
  | none, _, _ => some { k with topic := some index }
  | some _, none, _ => some { k with subtopic := some index }
  | some _, some _, none => some { k with subsubtopic := some index }
  | some _, some _, some _ => none

/-- The key without its finest level, which a bare group does not have. -/
def parent? (k : Key) : Option Key :=
  match k.subsubtopic, k.subtopic, k.topic with
  | some _, _, _ => some { k with subsubtopic := none }
  | none, some _, _ => some { k with subtopic := none }
  | none, none, some _ => some { k with topic := none }
  | none, none, none => none

/-- The group is an identifier, and no level is set without the coarser ones. -/
structure WellFormed (k : Key) : Prop where
  /-- One or more ASCII letters and digits. -/
  group : Text.isIdentifier k.group.toList = true
  topic : k.subtopic.isSome → k.topic.isSome
  subtopic : k.subsubtopic.isSome → k.subtopic.isSome

instance (k : Key) : Decidable k.WellFormed :=
  decidable_of_iff
    (Text.isIdentifier k.group.toList = true ∧ (k.subtopic.isSome → k.topic.isSome) ∧
      (k.subsubtopic.isSome → k.subtopic.isSome))
    ⟨fun ⟨group, topic, subtopic⟩ => ⟨group, topic, subtopic⟩,
      fun h => ⟨h.group, h.topic, h.subtopic⟩⟩

/-! ## Order -/

/-- Keys in ascending order: by group, then level by level, where a missing level comes first. -/
def sort (keys : List Key) : List Key := keys.mergeSort fun a b => (compare a b).isLE

/-! ## Text -/

/-- The characters of the text of a key. -/
def chars (k : Key) : List Char :=
  ['.'].intercalate (k.group.toList :: k.levels.map fun level => Text.numeral level.toNat)

def text (k : Key) : String := String.ofList k.chars

/-- The group and the levels of the text of a key, as written. -/
def parts? (text : List Char) : Option (List Char × List (List Char)) :=
  match text.splitOn '.' with
  | [] => none
  | group :: levels =>
    if Text.isIdentifier group && levels.all Text.isNumeral && decide (levels.length ≤ 3) then
      some (group, levels)
    else none

/-- A level from its digits, if it fits 32 bits. -/
def readLevel? (digits : List Char) : Option UInt32 :=
  (Text.readNumeral? UInt32.size digits).map UInt32.ofNat

/-- The key that a text names. -/
def ofText? (text : String) : Option Key := do
  let (group, levels) ← parts? text.toList
  let levels ← levels.mapM readLevel?
  return ofLevels (String.ofList group) levels

theorem WellFormed.ofLevels_levels {k : Key} (h : k.WellFormed) :
    ofLevels k.group k.levels = k := by
  obtain ⟨group, topic, subtopic, subsubtopic⟩ := k
  have htopic := h.topic
  have hsubtopic := h.subtopic
  cases topic <;> cases subtopic <;> cases subsubtopic <;>
    simp_all [ofLevels, levels]

theorem length_levels_le (k : Key) : k.levels.length ≤ 3 := by
  obtain ⟨group, topic, subtopic, subsubtopic⟩ := k
  cases topic <;> cases subtopic <;> cases subsubtopic <;> simp [levels]

theorem readLevel?_numeral (level : UInt32) :
    readLevel? (Text.numeral level.toNat) = some level := by
  rw [readLevel?, Text.readNumeral?_numeral level.toNat_lt, Option.map_some, UInt32.ofNat_toNat]

theorem isAlphanum_of_isIdentifier {text : List Char} (h : Text.isIdentifier text = true) {c : Char}
    (hc : c ∈ text) : c.isAlphanum = true := by
  simp only [Text.isIdentifier, Text.isRun, Bool.and_eq_true, List.all_eq_true] at h
  exact h.2 c hc

/-- No point stands in an identifier. -/
theorem point_notMem_of_isIdentifier {text : List Char} (h : Text.isIdentifier text = true) :
    '.' ∉ text :=
  fun hmem => absurd (isAlphanum_of_isIdentifier h hmem) (by decide)

theorem isIdentifier_of_isNumeral {text : List Char} (h : Text.isNumeral text = true) :
    Text.isIdentifier text = true := by
  simp only [Text.isNumeral, Text.isIdentifier, Text.isRun, Bool.and_eq_true,
    List.all_eq_true] at h ⊢
  exact ⟨h.1, fun c hc => by simp [Char.isAlphanum, h.2 c hc]⟩

/-- The text of a group and levels has them as its parts. -/
theorem parts?_intercalate {group : List Char} {levels : List (List Char)}
    (hgroup : Text.isIdentifier group = true) (hlevels : ∀ l ∈ levels, Text.isNumeral l = true)
    (hlength : levels.length ≤ 3) :
    parts? (['.'].intercalate (group :: levels)) = some (group, levels) := by
  have hsplit : (['.'].intercalate (group :: levels)).splitOn '.' = group :: levels := by
    refine List.splitOn_intercalate '.' ?_ (by simp)
    intro piece hpiece
    rcases List.mem_cons.1 hpiece with rfl | hpiece
    · exact point_notMem_of_isIdentifier hgroup
    · exact point_notMem_of_isIdentifier (isIdentifier_of_isNumeral (hlevels piece hpiece))
  simp only [parts?, hsplit, hgroup, Bool.true_and]
  rw [if_pos]
  simp only [Bool.and_eq_true, List.all_eq_true, decide_eq_true_eq]
  exact ⟨hlevels, hlength⟩

/-- A well-formed key is the key that its text names. -/
theorem ofText?_text {k : Key} (h : k.WellFormed) : ofText? k.text = some k := by
  have hparts : parts? k.chars =
      some (k.group.toList, k.levels.map fun level => Text.numeral level.toNat) := by
    refine parts?_intercalate h.group ?_ (by simpa using length_levels_le k)
    intro piece hpiece
    obtain ⟨level, -, rfl⟩ := List.mem_map.1 hpiece
    exact Text.isNumeral_numeral _
  have hread : ∀ levels : List UInt32,
      (levels.map fun level => Text.numeral level.toNat).mapM readLevel? = some levels := by
    intro levels
    induction levels with
    | nil => rfl
    | cons level rest ih => simp [readLevel?_numeral, ih]
  simp [ofText?, text, hparts, hread, h.ofLevels_levels]

/-- Joined with points, a group and levels have ASCII letters and digits and points. -/
theorem mem_intercalate {group : List Char} {levels : List (List Char)}
    (hgroup : Text.isIdentifier group = true) (hlevels : ∀ l ∈ levels, Text.isNumeral l = true)
    {c : Char} (hc : c ∈ ['.'].intercalate (group :: levels)) : c = '.' ∨ c.isAlphanum = true := by
  rcases Text.mem_intercalate hc with hpoint | ⟨piece, hpiece, hmem⟩
  · exact .inl (List.mem_singleton.1 hpoint)
  · rcases List.mem_cons.1 hpiece with rfl | hpiece
    · exact .inr (isAlphanum_of_isIdentifier hgroup hmem)
    · exact .inr
        (isAlphanum_of_isIdentifier (isIdentifier_of_isNumeral (hlevels piece hpiece)) hmem)

/-- The text of a well-formed key has ASCII letters and digits and points. -/
theorem WellFormed.mem_chars {k : Key} (h : k.WellFormed) {c : Char} (hc : c ∈ k.chars) :
    c = '.' ∨ c.isAlphanum = true := by
  refine mem_intercalate h.group (fun piece hpiece => ?_) hc
  obtain ⟨level, -, rfl⟩ := List.mem_map.1 hpiece
  exact Text.isNumeral_numeral _

theorem eq_intercalate_of_parts? {text group : List Char} {levels : List (List Char)}
    (h : parts? text = some (group, levels)) :
    text = ['.'].intercalate (group :: levels) ∧ Text.isIdentifier group = true ∧
      ∀ l ∈ levels, Text.isNumeral l = true := by
  simp only [parts?] at h
  split at h
  · simp at h
  · rename_i first rest hsplit
    simp only [Option.ite_none_right_eq_some, Bool.and_eq_true, Option.some.injEq, Prod.mk.injEq,
      List.all_eq_true] at h
    obtain ⟨⟨⟨hgroup, hlevels⟩, -⟩, rfl, rfl⟩ := h
    exact ⟨by rw [← hsplit, List.intercalate_splitOn], hgroup, hlevels⟩

/-- Any text that names a key has ASCII letters and digits and points. -/
theorem mem_of_ofText? {text : String} {k : Key} (h : ofText? text = some k) {c : Char}
    (hc : c ∈ text.toList) : c = '.' ∨ c.isAlphanum = true := by
  simp only [ofText?, Option.bind_eq_bind, Option.bind_eq_some_iff, Prod.exists] at h
  obtain ⟨group, levels, hparts, -⟩ := h
  obtain ⟨htext, hgroup, hlevels⟩ := eq_intercalate_of_parts? hparts
  exact mem_intercalate hgroup hlevels (htext ▸ hc)

theorem wellFormed_ofLevels {group : String} (h : Text.isIdentifier group.toList = true)
    (levels : List UInt32) : (ofLevels group levels).WellFormed := by
  refine ⟨h, ?_, ?_⟩ <;>
    match levels with
    | [] => simp [ofLevels]
    | [_] => simp [ofLevels]
    | [_, _] => simp [ofLevels]
    | _ :: _ :: _ :: _ => simp [ofLevels]

/-- Only well-formed keys are named by a text. -/
theorem wellFormed_of_ofText? {text : String} {k : Key} (h : ofText? text = some k) :
    k.WellFormed := by
  simp only [ofText?, Option.bind_eq_bind, Option.bind_eq_some_iff, Prod.exists] at h
  obtain ⟨group, levels, hparts, values, -, hkey⟩ := h
  obtain rfl := Option.some.inj hkey
  have hgroup := (eq_intercalate_of_parts? hparts).2.1
  exact wellFormed_ofLevels (by simpa using hgroup) values

end Key

/-- A text that names no key. -/
structure KeyError where
  text : String
  deriving DecidableEq

/-- The wording of the refusal. -/
def KeyError.message (e : KeyError) : String := "Invalid facet key: " ++ e.text

/-- The key that a text names, or its refusal. -/
def Key.parse (text : String) : Except KeyError Key :=
  match Key.ofText? text with
  | some key => .ok key
  | none => .error ⟨text⟩

end FacetedSearch.Facet
