/-
# FacetedSearch.Proofs.Query.Layout -- which parentheses of a query belong together

A query is search texts, the keywords that join them, and the parentheses that keep them apart.
`Selection.parts` lays a selection out in such parts, and written one after the other they are its
query (`render_parts`).  Search texts may have parentheses of their own; a layout tells these from
the ones that are put around texts.

Layouts are nested (`Query.Nested`): a parenthesis of the layout has its other one there, and what
stands between the two is nested again, so it is whole texts and joints, and one text at least:

* `Nested.exists_closing`, `Nested.exists_opening`: the other parenthesis;
* `Nested.balanced`: if the parentheses in each text pair up, then so do all;
* `Nested.exists_emptyPair`: and then an empty pair of parentheses is one that some text has.
-/
import FacetedSearch.Proofs.Query.Glue

namespace FacetedSearch

set_option autoImplicit false

namespace Query

/-- A part of a query. -/
inductive Part
  /-- A search text, as it is. -/
  | text (chars : List Char)
  /-- A keyword between two operands. -/
  | joint (keyword : List Char)
  | opening
  | closing
  deriving DecidableEq

def Part.chars : Part → List Char
  | text chars => chars
  | joint keyword => Text.joint keyword
  | opening => ['(']
  | closing => [')']

def Part.text? : Part → Option (List Char)
  | text chars => some chars
  | _ => none

/-- The characters of the parts, one after the other. -/
def render (parts : List Part) : List Char := parts.flatMap Part.chars

/-- The search texts among the parts. -/
def texts (parts : List Part) : List (List Char) := parts.filterMap Part.text?

/-- The parts in parentheses, if they need them. -/
def encloseIf (needed : Bool) (parts : List Part) : List Part :=
  if needed then .opening :: parts ++ [.closing] else parts

/-- Operands with a keyword between any two. -/
def joinParts (keyword : List Char) (operands : List (List Part)) : List Part :=
  [Part.joint keyword].intercalate operands

/-- The layout of an entry: its search texts are alternatives. -/
def entryParts (e : Entry) : List Part :=
  joinParts "OR".toList ((usableTexts e).map fun text => [.text text])

/-- The layout of some entries, which stand beside others or alone. -/
def groupParts (besideOthers : Bool) (entries : List Entry) : List Part :=
  let usable := entries.filter Entry.isUsable
  let several := decide (usable.length > 1)
  encloseIf (several || (besideOthers && usable.any leadsWithOperators))
    (joinParts "OR".toList
      (usable.map fun e => encloseIf (leadsWithOperators e && several) (entryParts e)))

/-- Each parenthesis among the parts has its other one there, with parts in between that are nested
again and have a text. -/
inductive Nested : List Part → Prop
  | nil : Nested []
  | text {chars : List Char} (populated : chars ≠ []) : Nested [.text chars]
  | joint {keyword : List Char} (known : keyword ∈ Text.operators) : Nested [.joint keyword]
  | append {left right : List Part} (first : Nested left) (second : Nested right) :
      Nested (left ++ right)
  | enclose {inside : List Part} (nested : Nested inside) (populated : texts inside ≠ []) :
      Nested (.opening :: inside ++ [.closing])

/-- What stands between two parentheses that belong together. -/
structure Enclosed (inside : List Part) : Prop where
  nested : Nested inside
  populated : texts inside ≠ []

end Query

namespace Selection

/-- The ` AND ` that the glue may put in front of the first category. -/
def leadingParts (glue : FilterGlue) (s : Selection) : List Query.Part :=
  if glue = .unconditional ∧ s.contributingGroups = [] ∧ s.contributingCategories ≠ [] then
    [.joint "AND".toList]
  else []

/-- The layout of the query: what contributes, joined. -/
def parts (glue : FilterGlue) (s : Selection) : List Query.Part :=
  s.leadingParts glue ++
    Query.joinParts "AND".toList
      (s.contributingGroups.map (Query.groupParts s.isCombined) ++
        s.contributingCategories.map (Query.groupParts true))

end Selection

namespace Query

variable {parts inside : List Part} {keyword : List Char}

/-! ## Layouts and what they are written as -/

theorem render_append (left right : List Part) :
    render (left ++ right) = render left ++ render right :=
  List.flatMap_append

theorem texts_append (left right : List Part) :
    texts (left ++ right) = texts left ++ texts right :=
  List.filterMap_append

theorem render_text (chars : List Char) : render [.text chars] = chars := List.append_nil chars

theorem render_joint (keyword : List Char) : render [.joint keyword] = Text.joint keyword :=
  List.append_nil _

theorem render_enclose (inside : List Part) :
    render (.opening :: inside ++ [.closing]) = '(' :: render inside ++ [')'] := by
  rw [render_append]
  rfl

theorem texts_enclose (inside : List Part) :
    texts (.opening :: inside ++ [.closing]) = texts inside := by
  rw [texts_append]
  exact List.append_nil _

theorem render_encloseIf (needed : Bool) (parts : List Part) :
    render (encloseIf needed parts) = wrapIf needed (render parts) := by
  cases needed with
  | false => rfl
  | true => exact render_enclose parts

theorem texts_encloseIf (needed : Bool) (parts : List Part) :
    texts (encloseIf needed parts) = texts parts := by
  cases needed with
  | false => rfl
  | true => exact texts_enclose parts

/-- Operands are joined one after the other. -/
theorem joinParts_cons_cons (keyword : List Char) (first next : List Part)
    (rest : List (List Part)) :
    joinParts keyword (first :: next :: rest) =
      first ++ [.joint keyword] ++ joinParts keyword (next :: rest) :=
  List.intercalate_cons_cons

theorem render_joinParts (keyword : List Char) (operands : List (List Part)) :
    render (joinParts keyword operands) =
      (Text.joint keyword).intercalate (operands.map render) := by
  induction operands with
  | nil => rfl
  | cons first rest ih =>
      cases rest with
      | nil => simp [joinParts]
      | cons next rest =>
          rw [joinParts_cons_cons, render_append, render_append, ih, render_joint, List.map_cons,
            List.map_cons, List.map_cons, List.intercalate_cons_cons]

theorem texts_joinParts (keyword : List Char) (operands : List (List Part)) :
    texts (joinParts keyword operands) = operands.flatMap texts := by
  induction operands with
  | nil => rfl
  | cons first rest ih =>
      cases rest with
      | nil => simp [joinParts]
      | cons next rest =>
          rw [joinParts_cons_cons, texts_append, texts_append, ih, List.flatMap_cons]
          exact congrArg (· ++ _) (List.append_nil _)

/-! ## The layout of a query -/

theorem render_entryParts (e : Entry) :
    render (entryParts e) = " OR ".toList.intercalate (usableTexts e) := by
  have same : ((usableTexts e).map fun text => [Part.text text]).map render = usableTexts e := by
    rw [List.map_map]
    exact List.map_id'' render_text _
  rw [entryParts, render_joinParts, same]
  rfl

theorem texts_entryParts (e : Entry) : texts (entryParts e) = usableTexts e := by
  rw [entryParts, texts_joinParts, List.flatMap_map]
  exact List.flatMap_singleton' (usableTexts e)

theorem render_groupParts (besideOthers : Bool) (entries : List Entry) :
    render (groupParts besideOthers entries) = textOf besideOthers entries := by
  have alternatives (several : Bool) :
      ((entries.filter Entry.isUsable).map fun e =>
          encloseIf (leadsWithOperators e && several) (entryParts e)).map render =
        (entries.filter Entry.isUsable).map fun e =>
          wrapIf ((operand e).hasOperators && several) (operand e).text := by
    rw [List.map_map]
    refine List.map_congr_left fun e _ => (render_encloseIf _ _).trans ?_
    rw [render_entryParts]
    rfl
  rw [groupParts, render_encloseIf, render_joinParts, alternatives, textOf, groupText, operands_eq]
  simp only [List.length_map, List.map_map, List.any_map]
  rfl

theorem isUsable_iff {e : Entry} : e.isUsable = true ↔ usableTexts e ≠ [] := by
  have first := congrArg Option.isSome (head?_usableTexts e)
  rw [Option.isSome_map] at first
  rw [Entry.isUsable, ← first, List.isSome_head?]

/-- Entries without a text have no share in the texts of a group. -/
theorem flatMap_filter_isUsable (entries : List Entry) :
    (entries.filter Entry.isUsable).flatMap usableTexts = entries.flatMap usableTexts := by
  induction entries with
  | nil => rfl
  | cons e rest ih =>
      cases usable : e.isUsable with
      | true => rw [List.filter_cons_of_pos usable, List.flatMap_cons, List.flatMap_cons, ih]
      | false =>
          have none : usableTexts e = [] :=
            not_ne_iff.1 fun some => Bool.eq_false_iff.1 usable (isUsable_iff.2 some)
          rw [List.filter_cons_of_neg (Bool.eq_false_iff.1 usable), List.flatMap_cons, ih, none,
            List.nil_append]

theorem texts_groupParts (besideOthers : Bool) (entries : List Entry) :
    texts (groupParts besideOthers entries) = entries.flatMap usableTexts := by
  rw [groupParts, texts_encloseIf, texts_joinParts, List.flatMap_map, ← flatMap_filter_isUsable]
  simp only [texts_encloseIf, texts_entryParts]

end Query

namespace Selection

/-- **The parts of a query, one after the other, are the query.** -/
theorem render_parts (glue : FilterGlue) (s : Selection) :
    Query.render (s.parts glue) = (s.compile glue).toList := by
  have groups : (s.contributingGroups.map (Query.groupParts s.isCombined)).map Query.render =
      s.groupTexts := by
    rw [groupTexts_eq, List.map_map]
    exact List.map_congr_left fun entries _ => Query.render_groupParts _ entries
  have categories : (s.contributingCategories.map (Query.groupParts true)).map Query.render =
      s.filterTexts := by
    rw [filterTexts_eq, List.map_map]
    exact List.map_congr_left fun entries _ => Query.render_groupParts _ entries
  have leading : Query.render (s.leadingParts glue) =
      if glue = .unconditional ∧ s.groupTexts = [] ∧ s.filterTexts ≠ [] then " AND ".toList
        else [] := by
    simp only [leadingParts, groupTexts_eq_nil_iff, Ne, filterTexts_eq_nil_iff]
    split <;> rfl
  rw [parts, Query.render_append, leading, Query.render_joinParts, List.map_append, groups,
    categories, toList_compile]
  cases glue with
  | betweenTerms =>
      rw [queryChars_betweenTerms, if_neg fun leads => nomatch leads.1]
      rfl
  | unconditional =>
      rw [queryChars_unconditional, queryChars_betweenTerms]
      simp only [true_and]
      rfl

theorem texts_parts (glue : FilterGlue) (s : Selection) :
    Query.texts (s.parts glue) =
      (s.contributingGroups ++ s.contributingCategories).flatMap
        fun entries => entries.flatMap Query.usableTexts := by
  have leading : Query.texts (s.leadingParts glue) = [] := by
    unfold leadingParts
    split <;> rfl
  rw [parts, Query.texts_append, leading, Query.texts_joinParts, List.flatMap_append,
    List.flatMap_map, List.flatMap_map, List.flatMap_append, List.nil_append]
  simp only [Query.texts_groupParts]

end Selection

namespace Query

variable {parts inside : List Part} {keyword : List Char}

/-! ## Nesting -/

theorem Nested.encloseIf (nested : Nested parts) (populated : texts parts ≠ []) (needed : Bool) :
    Nested (encloseIf needed parts) := by
  cases needed with
  | false => exact nested
  | true => exact .enclose nested populated

theorem Nested.joinParts (known : keyword ∈ Text.operators) {operands : List (List Part)}
    (nested : ∀ parts ∈ operands, Nested parts) : Nested (joinParts keyword operands) := by
  induction operands with
  | nil => exact .nil
  | cons first rest ih =>
      have hfirst := nested first List.mem_cons_self
      have hrest := ih fun parts member => nested parts (List.mem_cons_of_mem _ member)
      cases rest with
      | nil => simpa [Query.joinParts] using hfirst
      | cons next rest =>
          rw [joinParts_cons_cons]
          exact (hfirst.append (.joint known)).append hrest

theorem nested_entryParts (e : Entry) : Nested (entryParts e) := by
  refine Nested.joinParts (by decide) fun parts member => ?_
  obtain ⟨text, found, rfl⟩ := List.mem_map.1 member
  exact .text (ne_nil_of_mem_usableTexts found)

theorem nested_groupParts (besideOthers : Bool) (entries : List Entry) :
    Nested (groupParts besideOthers entries) := by
  cases usable : entries.filter Entry.isUsable with
  | nil =>
      have nothing : groupParts besideOthers entries = [] := by
        rw [groupParts, usable]
        exact congrArg (encloseIf · []) (Bool.and_false besideOthers)
      exact nothing ▸ .nil
  | cons first rest =>
      have populated := texts_groupParts besideOthers entries
      rw [groupParts, texts_encloseIf] at populated
      refine Nested.encloseIf (Nested.joinParts (by decide) fun parts member => ?_) ?_ _
      · obtain ⟨e, found, rfl⟩ := List.mem_map.1 member
        have some_text := isUsable_iff.1 (List.mem_filter.1 found).2
        exact (nested_entryParts e).encloseIf (by rwa [texts_entryParts]) _
      · have leads : first ∈ entries.filter Entry.isUsable := usable ▸ List.mem_cons_self
        obtain ⟨member, isUsable⟩ := List.mem_filter.1 leads
        rw [populated]
        exact fun none => isUsable_iff.1 isUsable (List.flatMap_eq_nil_iff.1 none first member)

/-- **If the parentheses in each text pair up, then so do all.** -/
theorem Nested.balanced (nested : Nested parts)
    (balanced : ∀ text ∈ texts parts, Text.Balanced text) : Text.Balanced (render parts) := by
  induction nested with
  | nil => exact (by decide : Text.Balanced [])
  | @text chars _ =>
      rw [render_text]
      exact balanced chars List.mem_cons_self
  | @joint keyword known =>
      rw [render_joint]
      exact Text.balanced_joint known
  | append _ _ left right =>
      rw [texts_append] at balanced
      rw [render_append]
      exact (left fun text member => balanced text (List.mem_append_left _ member)).append
        (right fun text member => balanced text (List.mem_append_right _ member))
  | enclose _ _ inside =>
      rw [texts_enclose] at balanced
      rw [render_enclose]
      exact (inside balanced).wrap

/-- A text of a layout has characters, so what stands between two parentheses has. -/
theorem Nested.render_ne_nil (nested : Nested parts) (populated : texts parts ≠ []) :
    render parts ≠ [] := by
  induction nested with
  | nil => exact absurd rfl populated
  | text some_char => exact fun none => some_char (List.append_eq_nil_iff.1 none).1
  | joint => exact absurd rfl populated
  | append _ _ left right =>
      rw [texts_append] at populated
      rw [render_append]
      intro none
      obtain ⟨left_nil, right_nil⟩ := List.append_eq_nil_iff.1 none
      have left_texts := not_ne_iff.1 fun some => left some left_nil
      have right_texts := not_ne_iff.1 fun some => right some right_nil
      exact populated (List.append_eq_nil_iff.2 ⟨left_texts, right_texts⟩)
  | enclose =>
      rw [render_enclose]
      exact List.cons_ne_nil _ _

/-- **An empty pair of parentheses is one that a text has**, if the parentheses in each pair up. -/
theorem Nested.exists_emptyPair (nested : Nested parts)
    (balanced : ∀ text ∈ texts parts, Text.Balanced text)
    (occurs : ['(', ')'] <:+: render parts) : ∃ text ∈ texts parts, ['(', ')'] <:+: text := by
  induction nested with
  | nil => exact absurd occurs (by decide)
  | @text chars _ =>
      exact ⟨chars, List.mem_cons_self, render_text chars ▸ occurs⟩
  | @joint keyword known =>
      have none : ∀ k ∈ Text.operators, ¬['(', ')'] <:+: Text.joint k := by decide
      exact absurd (render_joint keyword ▸ occurs) (none keyword known)
  | @append _ right _ nested left_ih right_ih =>
      rw [texts_append] at balanced ⊢
      have left_balanced := fun text member => balanced text (List.mem_append_left _ member)
      have right_balanced := fun text member => balanced text (List.mem_append_right _ member)
      rw [render_append] at occurs
      have apart := (nested.balanced right_balanced).not_begins_closing
      rcases Text.emptyPair_infix_append (.inr apart) occurs with within | within
      · obtain ⟨text, member, has⟩ := left_ih left_balanced within
        exact ⟨text, List.mem_append_left _ member, has⟩
      · obtain ⟨text, member, has⟩ := right_ih right_balanced within
        exact ⟨text, List.mem_append_right _ member, has⟩
  | enclose nested populated ih =>
      rw [texts_enclose] at balanced ⊢
      rw [render_enclose] at occurs
      exact ih balanced (Text.emptyPair_infix_wrap (nested.balanced balanced)
        (nested.render_ne_nil populated) occurs)

/-! ## Pairs -/

/-- A part of two lists, one after the other, is a part of the first or of the second. -/
theorem eq_append_cons_of_append {left right before after : List Part} {p : Part}
    (same : left ++ right = before ++ p :: after) :
    (∃ more, left = before ++ p :: more ∧ after = more ++ right) ∨
      ∃ more, before = left ++ more ∧ right = more ++ p :: after := by
  rcases List.append_eq_append_iff.1 same with ⟨more, rfl, second⟩ | ⟨more, rfl, second⟩
  · exact .inr ⟨more, rfl, second⟩
  · rcases List.cons_eq_append_iff.1 second with ⟨rfl, rfl⟩ | ⟨more, rfl, rfl⟩
    · exact .inr ⟨[], by rw [List.append_nil, List.append_nil], rfl⟩
    · exact .inl ⟨more, rfl, rfl⟩

theorem eq_of_singleton_eq {p q : Part} {before after : List Part}
    (same : [p] = before ++ q :: after) : q = p :=
  List.mem_singleton.1 (same ▸ List.mem_append_right _ List.mem_cons_self)

/-- **What is opened is closed.** -/
theorem Nested.exists_closing (nested : Nested parts) {left rest : List Part}
    (opened : parts = left ++ .opening :: rest) :
    ∃ inside right, rest = inside ++ .closing :: right ∧ Enclosed inside := by
  induction nested generalizing left rest with
  | nil => exact absurd opened.symm (by simp)
  | text => cases eq_of_singleton_eq opened
  | joint => cases eq_of_singleton_eq opened
  | append _ _ first second =>
      rcases eq_append_cons_of_append opened with ⟨more, within, rfl⟩ | ⟨more, rfl, within⟩
      · obtain ⟨inside, right, rfl, enclosed⟩ := first within
        exact ⟨inside, _, List.append_assoc _ _ _, enclosed⟩
      · exact second within
  | enclose nested populated ih =>
      rcases eq_append_cons_of_append opened with ⟨more, within, rfl⟩ | ⟨more, rfl, within⟩
      · rcases List.cons_eq_append_iff.1 within with ⟨rfl, same⟩ | ⟨before, rfl, deeper⟩
        · obtain rfl := (List.cons.inj same).2
          exact ⟨_, [], rfl, nested, populated⟩
        · obtain ⟨inside, right, rfl, enclosed⟩ := ih deeper
          exact ⟨inside, _, List.append_assoc _ _ _, enclosed⟩
      · cases eq_of_singleton_eq within

/-- **What is closed has been opened.** -/
theorem Nested.exists_opening (nested : Nested parts) {front right : List Part}
    (closed : parts = front ++ .closing :: right) :
    ∃ left inside, front = left ++ .opening :: inside ∧ Enclosed inside := by
  induction nested generalizing front right with
  | nil => exact absurd closed.symm (by simp)
  | text => cases eq_of_singleton_eq closed
  | joint => cases eq_of_singleton_eq closed
  | append _ _ first second =>
      rcases eq_append_cons_of_append closed with ⟨more, within, rfl⟩ | ⟨more, rfl, within⟩
      · exact first within
      · obtain ⟨left, inside, rfl, enclosed⟩ := second within
        exact ⟨_, inside, (List.append_assoc _ _ _).symm, enclosed⟩
  | @enclose whole nested populated ih =>
      rcases eq_append_cons_of_append closed with ⟨more, within, rfl⟩ | ⟨more, rfl, within⟩
      · rcases List.cons_eq_append_iff.1 within with ⟨rfl, same⟩ | ⟨before, rfl, deeper⟩
        · cases same
        · obtain ⟨left, inside, rfl, enclosed⟩ := ih deeper
          exact ⟨.opening :: left, inside, rfl, enclosed⟩
      · rcases List.cons_eq_append_iff.1 within with ⟨rfl, -⟩ | ⟨before, rfl, none⟩
        · exact ⟨[], whole, List.append_nil _, nested, populated⟩
        · exact absurd none.symm (by simp)

/-- With the texts of a layout the parentheses between any two of its parentheses pair up. -/
theorem Enclosed.balanced (enclosed : Enclosed inside) {left right : List Part}
    (balanced : ∀ text ∈ texts (left ++ .opening :: (inside ++ .closing :: right)),
      Text.Balanced text) : Text.Balanced (render inside) := by
  refine enclosed.nested.balanced fun text member => balanced text ?_
  have later : text ∈ texts (inside ++ .closing :: right) := by
    rw [texts_append]
    exact List.mem_append_left _ member
  rw [texts_append]
  exact List.mem_append_right _ later

end Query

/-! ## Queries -/

namespace Selection

variable {s : Selection}

theorem nested_parts (glue : FilterGlue) (s : Selection) : Query.Nested (s.parts glue) := by
  have known : "AND".toList ∈ Text.operators := by decide
  refine Query.Nested.append ?_ (Query.Nested.joinParts known fun parts member => ?_)
  · unfold leadingParts
    split
    · exact .joint known
    · exact .nil
  · rcases List.mem_append.1 member with member | member
    · obtain ⟨entries, -, rfl⟩ := List.mem_map.1 member
      exact Query.nested_groupParts _ entries
    · obtain ⟨entries, -, rfl⟩ := List.mem_map.1 member
      exact Query.nested_groupParts _ entries

/-- The texts of a query are texts of its entries. -/
theorem exists_of_mem_texts_parts {glue : FilterGlue} {text : List Char}
    (member : text ∈ Query.texts (s.parts glue)) :
    ∃ e ∈ s.entries, text ∈ Query.usableTexts e := by
  rw [texts_parts] at member
  obtain ⟨entries, listed, member⟩ := List.mem_flatMap.1 member
  obtain ⟨e, he, found⟩ := List.mem_flatMap.1 member
  rcases List.mem_append.1 listed with group | category
  · exact ⟨e, mem_entries_of_group (List.mem_filter.1 group).1 he, found⟩
  · obtain ⟨row, populated, rfl⟩ := List.mem_map.1 (List.mem_filter.1 category).1
    exact ⟨e, mem_entries_of_category populated he, found⟩

/-- **The parentheses that a query puts around texts are pairs.**  If the parentheses in each text
pair up, then so do those of the query, and an empty pair is one that a text has.  Each parenthesis
of the layout has its other one there, with whole texts, joints and such pairs in between. -/
theorem compile_pairs_parentheses (glue : FilterGlue)
    (balanced : ∀ e ∈ s.entries, ∀ text ∈ Query.usableTexts e, Text.Balanced text) :
    Text.Balanced (s.compile glue).toList ∧
      (['(', ')'] <:+: (s.compile glue).toList →
        ∃ e ∈ s.entries, ∃ text ∈ Query.usableTexts e, ['(', ')'] <:+: text) ∧
      Query.render (s.parts glue) = (s.compile glue).toList ∧
      Query.texts (s.parts glue) =
        (s.contributingGroups ++ s.contributingCategories).flatMap
          (fun entries => entries.flatMap Query.usableTexts) ∧
      (∀ left rest, s.parts glue = left ++ .opening :: rest →
        ∃ inside right, rest = inside ++ .closing :: right ∧ Query.Enclosed inside ∧
          Text.Balanced (Query.render inside)) ∧
      ∀ front right, s.parts glue = front ++ .closing :: right →
        ∃ left inside, front = left ++ .opening :: inside ∧ Query.Enclosed inside ∧
          Text.Balanced (Query.render inside) := by
  have nested := nested_parts glue s
  have all : ∀ text ∈ Query.texts (s.parts glue), Text.Balanced text := by
    intro text member
    obtain ⟨e, he, found⟩ := exists_of_mem_texts_parts member
    exact balanced e he text found
  refine ⟨?_, fun occurs => ?_, s.render_parts glue, s.texts_parts glue, ?_, ?_⟩
  · rw [← render_parts]
    exact nested.balanced all
  · rw [← render_parts] at occurs
    obtain ⟨text, member, has⟩ := nested.exists_emptyPair all occurs
    obtain ⟨e, he, found⟩ := exists_of_mem_texts_parts member
    exact ⟨e, he, text, found, has⟩
  · intro left rest opened
    obtain ⟨inside, right, rfl, enclosed⟩ := nested.exists_closing opened
    exact ⟨inside, right, rfl, enclosed, enclosed.balanced (opened ▸ all)⟩
  · intro front right closed
    obtain ⟨left, inside, rfl, enclosed⟩ := nested.exists_opening closed
    rw [List.append_assoc, List.cons_append] at closed
    exact ⟨left, inside, rfl, enclosed, enclosed.balanced (closed ▸ all)⟩

theorem compile_pairs_parentheses_of_nested :
    (∀ e ∈ Example.combined.entries, ∀ text ∈ Query.usableTexts e, Text.Balanced text) ∧
      Text.Balanced (Example.combined.compile .unconditional).toList ∧
      ¬['(', ')'] <:+: (Example.combined.compile .unconditional).toList := by
  have balanced : ∀ e ∈ Example.combined.entries, ∀ text ∈ Query.usableTexts e,
      Text.Balanced text := fun e member => (Example.readable_combined e member).balanced
  have none : ∀ e ∈ Example.combined.entries, ∀ text ∈ Query.usableTexts e,
      ¬['(', ')'] <:+: text := by decide
  have pairs := compile_pairs_parentheses .unconditional balanced
  refine ⟨balanced, pairs.1, fun occurs => ?_⟩
  obtain ⟨e, member, text, found, has⟩ := pairs.2.1 occurs
  exact none e member text found has

example :
    let s : Selection := { groups := [[Example.plainTag "x OR (y)", Example.plainTag "z"]] }
    s.parts .unconditional =
      [.opening, .opening, .text "x OR (y)".toList, .closing, .joint "OR".toList,
        .text "z".toList, .closing] := by
  decide

end Selection

end FacetedSearch
