/-
# FacetedSearch.Proofs.Query.Reading -- a query reads back as what was combined

The search texts of a catalog are opaque, so a query could mean something else than the selection:
an operator in one text might combine with the text of another.  It does not, if the parentheses of
each text pair up and an entry of several texts has an operator in the first (`Entry.Readable`):

* outside parentheses a query has its own ` AND `s and no other keyword, and cut at these it gives
  the texts of the groups and categories, in order;
* the text of a group with several operands is one pair of parentheses, in which the only keywords
  right inside are its own ` OR `s, and cut at these it gives the operands, in parentheses of their
  own where they have operators (`Query.Alternatives`);
* the text of one operand is the operand, in parentheses if it has operators and is combined.

Parentheses are put by what the first text of an entry has.  For readable entries this tells of the
whole operand (`operators_eq`); an entry of several texts without operators would be missed.
-/
import FacetedSearch.Proofs.Catalog.Built
import FacetedSearch.Proofs.Text.Outermost
import FacetedSearch.Query.Compile

namespace FacetedSearch

set_option autoImplicit false

/-- The parentheses of each search text pair up, and the first of several has an operator. -/
structure Entry.Readable (e : Entry) : Prop where
  balanced : ∀ text ∈ Query.usableTexts e, Text.Balanced text
  guarded : (Query.usableTexts e).length ≤ 1 ∨
    ∀ first ∈ (Query.usableTexts e).head?, Text.hasOperators first = true

instance (e : Entry) : Decidable e.Readable :=
  decidable_of_iff
    ((∀ text ∈ Query.usableTexts e, Text.Balanced text) ∧
      ((Query.usableTexts e).length ≤ 1 ∨
        ∀ first ∈ (Query.usableTexts e).head?, Text.hasOperators first = true))
    ⟨fun h => ⟨h.1, h.2⟩, fun h => ⟨h.balanced, h.guarded⟩⟩

namespace Query

/-- An operand that is put in parentheses where it has to be. -/
structure Operand.Guarded (o : Operand) : Prop where
  populated : o.text ≠ []
  balanced : Text.Balanced o.text
  operators_eq : o.hasOperators = Text.hasOperators o.text

/-- An operand beside others. -/
def Operand.alternative (o : Operand) : List Char := wrapIf (Text.hasOperators o.text) o.text

/-- The text is a pair of parentheses around the operands, and reads back as them. -/
structure Alternatives (operands : List Operand) (text inside : List Char) : Prop where
  pair : text = '(' :: inside ++ [')']
  balanced : Text.Balanced inside
  keywords : Text.keywordsAt 1 text = List.replicate (operands.length - 1) "OR".toList
  pieces : Text.cutOutside " OR ".toList inside = operands.map Operand.alternative
  operands_balanced : ∀ o ∈ operands, Text.Balanced o.text

/-! ## Operands -/

/-- Joined texts are not empty if the first of them is not. -/
theorem intercalate_ne_nil (sep : List Char) {first : List Char} (populated : first ≠ [])
    (rest : List (List Char)) : sep.intercalate (first :: rest) ≠ [] := by
  cases rest with
  | nil => rwa [List.intercalate_singleton]
  | cons next rest =>
      intro none
      rw [List.intercalate_cons_cons, List.append_assoc] at none
      exact populated (List.append_eq_nil_iff.1 none).1

/-- Joined texts have operators if the first of them has. -/
theorem hasOperators_intercalate {first : List Char} (operators : Text.hasOperators first = true)
    (rest : List (List Char)) :
    Text.hasOperators (" OR ".toList.intercalate (first :: rest)) = true := by
  cases rest with
  | nil => rwa [List.intercalate_singleton]
  | cons next rest =>
      have joined : " OR ".toList.intercalate (first :: next :: rest) =
          first ++ ' ' :: ("OR ".toList ++ " OR ".toList.intercalate (next :: rest)) := by
        simp [List.intercalate_cons_cons]
      rw [joined, Text.hasOperators_append_cons (by decide), operators]
      rfl

theorem guarded_of_ofTexts? {texts : List (List Char)} {o : Operand}
    (populated : ∀ text ∈ texts, text ≠ []) (balanced : ∀ text ∈ texts, Text.Balanced text)
    (guarded : texts.length ≤ 1 ∨ ∀ first ∈ texts.head?, Text.hasOperators first = true)
    (made : Operand.ofTexts? texts = some o) : o.Guarded := by
  cases texts with
  | nil => cases made
  | cons first rest =>
      obtain rfl := Option.some.inj made
      have hjoint : Text.Balanced " OR ".toList := by decide
      have joined := intercalate_ne_nil " OR ".toList (populated first List.mem_cons_self)
      cases rest with
      | nil =>
          have single : " OR ".toList.intercalate [first] = first := List.intercalate_singleton
          exact
            { populated := joined []
              balanced := hjoint.intercalate balanced
              operators_eq := by rw [single] }
      | cons next rest =>
          have hfirst : Text.hasOperators first = true := by
            rcases guarded with short | all
            · simp at short
            · exact all first rfl
          exact
            { populated := joined (next :: rest)
              balanced := hjoint.intercalate balanced
              operators_eq := hfirst.trans (hasOperators_intercalate hfirst (next :: rest)).symm }

theorem ne_nil_of_mem_usableTexts {e : Entry} {text : List Char} (member : text ∈ usableTexts e) :
    text ≠ [] := by
  rintro rfl
  have notBlank := (List.mem_filter.1 member).2
  simp [Text.isBlank] at notBlank

/-- **Operands of readable entries are put in parentheses where they have to be.** -/
theorem guarded_of_ofEntry? {e : Entry} (readable : e.Readable) {o : Operand}
    (made : Operand.ofEntry? e = some o) : o.Guarded :=
  guarded_of_ofTexts? (fun _ => ne_nil_of_mem_usableTexts) readable.balanced readable.guarded made

theorem guarded_of_mem {entries : List Entry} (readable : ∀ e ∈ entries, e.Readable) :
    ∀ o ∈ entries.filterMap Operand.ofEntry?, o.Guarded := by
  intro o ho
  obtain ⟨e, he, made⟩ := List.mem_filterMap.1 ho
  exact guarded_of_ofEntry? (readable e he) made

theorem Operand.Guarded.closed_alternative {o : Operand} (guarded : o.Guarded) :
    Text.Closed o.alternative := by
  unfold Operand.alternative wrapIf
  split
  · exact guarded.balanced.closed_wrap
  · rename_i plain
    exact guarded.balanced.closed (by simpa using plain)

/-! ## Groups -/

theorem groupText_single (besideOthers : Bool) (o : Operand) :
    groupText besideOthers [o] = wrapIf (besideOthers && o.hasOperators) o.text := by
  simp [groupText, wrapIf]

/-- Several operands are in parentheses, whatever they stand beside. -/
theorem groupText_of_several {operands : List Operand} (several : 2 ≤ operands.length)
    (besideOthers : Bool) :
    groupText besideOthers operands =
      '(' :: " OR ".toList.intercalate (operands.map fun o => wrapIf o.hasOperators o.text) ++
        [')'] := by
  have hseveral : decide (operands.length > 1) = true := decide_eq_true several
  simp only [groupText, hseveral, Bool.and_true, Bool.true_or]
  rfl

theorem groupText_several {operands : List Operand} (guarded : ∀ o ∈ operands, o.Guarded)
    (several : 2 ≤ operands.length) (besideOthers : Bool) :
    groupText besideOthers operands =
      '(' :: " OR ".toList.intercalate (operands.map Operand.alternative) ++ [')'] := by
  have halternatives : operands.map (fun o => wrapIf o.hasOperators o.text) =
      operands.map Operand.alternative := by
    refine List.map_congr_left fun o ho => ?_
    rw [Operand.alternative, (guarded o ho).operators_eq]
  rw [groupText_of_several several, halternatives]

theorem alternatives_groupText {operands : List Operand} (guarded : ∀ o ∈ operands, o.Guarded)
    (several : 2 ≤ operands.length) (besideOthers : Bool) :
    Alternatives operands (groupText besideOthers operands)
      (" OR ".toList.intercalate (operands.map Operand.alternative)) := by
  have hk : "OR".toList ∈ Text.operators := by decide
  have hjoint : Text.joint "OR".toList = " OR ".toList := rfl
  have closed : ∀ text ∈ operands.map Operand.alternative, Text.Closed text := by
    intro text htext
    obtain ⟨o, ho, rfl⟩ := List.mem_map.1 htext
    exact (guarded o ho).closed_alternative
  have hne : operands.map Operand.alternative ≠ [] := by
    intro hnil
    rw [List.map_eq_nil_iff.1 hnil] at several
    exact absurd several (by decide)
  exact
    { pair := groupText_several guarded several besideOthers
      balanced := (Text.balanced_joint hk).intercalate fun text htext => (closed text htext).balanced
      keywords := by
        have inside := Text.keywordsAt_intercalate hk closed
        rw [hjoint, List.length_map] at inside
        rw [groupText_several guarded several, Text.keywordsAt_wrap]
        exact inside
      pieces := Text.cutOutside_intercalate hk hne closed
      operands_balanced := fun o ho => (guarded o ho).balanced }

theorem contribution?_eq_some {besideOthers : Bool} {entries : List Entry}
    (populated : groupText besideOthers (entries.filterMap Operand.ofEntry?) ≠ [])
    (proper : groupText besideOthers (entries.filterMap Operand.ofEntry?) ≠ ['(', ')']) :
    contribution? besideOthers entries =
      some (groupText besideOthers (entries.filterMap Operand.ofEntry?)) := by
  simp only [contribution?]
  rw [if_neg (not_or.2 ⟨populated, proper⟩)]

/-- **A group of several operands contributes a pair of parentheses around them**, which reads back
as the operands. -/
theorem contribution?_several {entries : List Entry} (readable : ∀ e ∈ entries, e.Readable)
    (several : 2 ≤ (entries.filterMap Operand.ofEntry?).length) (besideOthers : Bool) :
    ∃ text inside, contribution? besideOthers entries = some text ∧
      Alternatives (entries.filterMap Operand.ofEntry?) text inside := by
  have reads := alternatives_groupText (guarded_of_mem readable) several besideOthers
  refine ⟨_, _, contribution?_eq_some ?_ ?_, reads⟩
  · rw [reads.pair]
    exact List.cons_ne_nil _ _
  · intro none
    -- nothing between the parentheses would leave no keyword there
    have nothing : Text.keywordsAt 1 ['(', ')'] = [] := by decide
    have keywords := reads.keywords
    rw [none, nothing, eq_comm, List.replicate_eq_nil_iff] at keywords
    omega

/-- One operand contributes its text, in parentheses if its first text has operators and it stands
beside others. -/
theorem contribution?_operand {entries : List Entry} {o : Operand}
    (single : entries.filterMap Operand.ofEntry? = [o]) (populated : o.text ≠ [])
    (proper : o.text ≠ ['(', ')']) (besideOthers : Bool) :
    contribution? besideOthers entries =
      some (wrapIf (besideOthers && o.hasOperators) o.text) := by
  have htext : groupText besideOthers (entries.filterMap Operand.ofEntry?) =
      wrapIf (besideOthers && o.hasOperators) o.text := by
    rw [single, groupText_single]
  rw [contribution?_eq_some, htext]
  · rw [htext, wrapIf]
    split
    · exact List.cons_ne_nil _ _
    · exact populated
  · rw [htext, wrapIf]
    split
    · intro none
      have hempty : o.text ++ [')'] = [] ++ [')'] := (List.cons.inj none).2
      exact populated (List.append_cancel_right hempty)
    · exact proper

/-- The text of one operand is in parentheses if it has operators and stands beside others. -/
theorem contribution?_single {entries : List Entry} (readable : ∀ e ∈ entries, e.Readable)
    {o : Operand} (single : entries.filterMap Operand.ofEntry? = [o])
    (proper : o.text ≠ ['(', ')']) (besideOthers : Bool) :
    contribution? besideOthers entries =
      some (wrapIf (besideOthers && Text.hasOperators o.text) o.text) := by
  have guarded : o.Guarded := guarded_of_mem readable o (single ▸ List.mem_singleton_self o)
  rw [contribution?_operand single guarded.populated proper, guarded.operators_eq]

/-- What a group contributes beside others keeps its keywords inside parentheses. -/
theorem closed_of_contribution? {entries : List Entry} (readable : ∀ e ∈ entries, e.Readable)
    {text : List Char} (contributes : contribution? true entries = some text) :
    Text.Closed text := by
  have guarded := guarded_of_mem readable
  have hmade : groupText true (entries.filterMap Operand.ofEntry?) = text := by
    simp only [contribution?] at contributes
    split at contributes
    · cases contributes
    · exact Option.some.inj contributes
  match hoperands : entries.filterMap Operand.ofEntry? with
  | [] =>
      rw [contribution?, hoperands] at contributes
      cases contributes
  | [o] =>
      have ho := guarded o (hoperands ▸ List.mem_singleton_self o)
      rw [hoperands, groupText_single, Bool.true_and, ho.operators_eq] at hmade
      exact hmade ▸ ho.closed_alternative
  | first :: second :: rest =>
      rw [hoperands] at guarded hmade
      have reads := alternatives_groupText guarded (by simp) true
      rw [← hmade, reads.pair]
      exact reads.balanced.closed_wrap

end Query

/-! ## Queries -/

theorem Text.intercalate_append {α : Type} (sep : List α) {xs ys : List (List α)} (hx : xs ≠ [])
    (hy : ys ≠ []) : sep.intercalate (xs ++ ys) = sep.intercalate xs ++ sep ++ sep.intercalate ys := by
  induction xs with
  | nil => exact absurd rfl hx
  | cons first rest ih =>
      cases rest with
      | nil => simp [List.intercalate_cons_of_ne_nil hy]
      | cons next rest =>
          simp only [List.cons_append, List.intercalate_cons_cons, List.append_assoc] at ih ⊢
          rw [ih (by simp)]

namespace FilterGlue

theorem attach_betweenTerms {texts : List (List Char)} (populated : ∀ text ∈ texts, text ≠ [])
    (text : List Char) :
    betweenTerms.attach (" AND ".toList.intercalate texts) text =
      " AND ".toList.intercalate (texts ++ [text]) := by
  cases texts with
  | nil =>
      rw [List.nil_append, List.intercalate_singleton]
      rfl
  | cons first rest =>
      have hfirst := populated first List.mem_cons_self
      have some_before : (" AND ".toList.intercalate (first :: rest)).isEmpty = false :=
        List.isEmpty_eq_false_iff.2 (Query.intercalate_ne_nil _ hfirst rest)
      rw [Text.intercalate_append _ (by simp) (by simp), List.intercalate_singleton]
      simp only [attach, some_before, Bool.false_eq_true, if_false]

theorem foldl_attach_betweenTerms {texts more : List (List Char)}
    (populated : ∀ text ∈ texts, text ≠ []) (others : ∀ text ∈ more, text ≠ []) :
    more.foldl betweenTerms.attach (" AND ".toList.intercalate texts) =
      " AND ".toList.intercalate (texts ++ more) := by
  induction more generalizing texts with
  | nil => rw [List.append_nil]; rfl
  | cons text more ih =>
      have grown : ∀ t ∈ texts ++ [text], t ≠ [] := by
        intro t ht
        rcases List.mem_append.1 ht with ht | ht
        · exact populated t ht
        · exact List.mem_singleton.1 ht ▸ others text List.mem_cons_self
      rw [List.foldl_cons, attach_betweenTerms populated,
        ih grown fun t ht => others t (List.mem_cons_of_mem _ ht), List.append_assoc]
      rfl

end FilterGlue

namespace Selection

variable {s : Selection}

theorem ne_nil_of_contribution? {besideOthers : Bool} {entries : List Entry} {text : List Char}
    (contributes : Query.contribution? besideOthers entries = some text) : text ≠ [] := by
  simp only [Query.contribution?] at contributes
  split at contributes
  · cases contributes
  · rename_i proper
    obtain rfl := Option.some.inj contributes
    exact (not_or.1 proper).1

theorem ne_nil_of_mem_texts : ∀ text ∈ s.groupTexts ++ s.filterTexts, text ≠ [] := by
  intro text htext
  rcases List.mem_append.1 htext with htext | htext
  · obtain ⟨group, -, contributes⟩ := List.mem_filterMap.1 htext
    exact ne_nil_of_contribution? contributes
  · obtain ⟨row, -, contributes⟩ := List.mem_filterMap.1 htext
    exact ne_nil_of_contribution? contributes

/-- Between terms, a query joins all texts alike. -/
theorem queryChars_betweenTerms (s : Selection) :
    s.queryChars .betweenTerms = " AND ".toList.intercalate (s.groupTexts ++ s.filterTexts) := by
  rw [queryChars_eq]
  exact FilterGlue.foldl_attach_betweenTerms
    (fun text htext => ne_nil_of_mem_texts text (List.mem_append_left _ htext))
    fun text htext => ne_nil_of_mem_texts text (List.mem_append_right _ htext)

theorem isCombined_iff :
    s.isCombined = true ↔ 2 ≤ s.populatedGroups.length ∨ s.filters.populated ≠ [] := by
  rw [isCombined, Bool.or_eq_true, decide_eq_true_eq, Bool.not_eq_true',
    List.isEmpty_eq_false_iff]
  exact Iff.rfl

/-- Where two contribute, each stands beside others. -/
theorem isCombined_of_texts (several : 2 ≤ (s.groupTexts ++ s.filterTexts).length) :
    s.isCombined = true := by
  rw [isCombined_iff]
  by_cases populated : s.filters.populated = []
  · left
    have none : s.filterTexts = [] := by rw [filterTexts, populated]; rfl
    have := List.length_filterMap_le (Query.contribution? s.isCombined) s.populatedGroups
    rw [none, List.append_nil] at several
    exact Nat.le_trans several this
  · exact .inr populated

theorem mem_entries_of_group {group : List Entry} (hgroup : group ∈ s.populatedGroups) {e : Entry}
    (he : e ∈ group) : e ∈ s.entries :=
  List.mem_append_left _ (List.mem_flatten.2 ⟨group, hgroup, he⟩)

theorem mem_entries_of_category {row : String × List Entry} (hrow : row ∈ s.filters.populated)
    {e : Entry} (he : e ∈ row.2) : e ∈ s.entries :=
  List.mem_append_right _ (List.mem_flatMap.2 ⟨row, hrow, he⟩)

theorem closed_texts (readable : ∀ e ∈ s.entries, e.Readable)
    (several : 2 ≤ (s.groupTexts ++ s.filterTexts).length) :
    ∀ text ∈ s.groupTexts ++ s.filterTexts, Text.Closed text := by
  intro text htext
  rcases List.mem_append.1 htext with htext | htext
  · obtain ⟨group, hgroup, contributes⟩ := List.mem_filterMap.1 htext
    rw [isCombined_of_texts several] at contributes
    have members : ∀ e ∈ group, e.Readable := fun e he =>
      readable e (mem_entries_of_group hgroup he)
    exact Query.closed_of_contribution? members contributes
  · obtain ⟨row, hrow, contributes⟩ := List.mem_filterMap.1 htext
    have members : ∀ e ∈ row.2, e.Readable := fun e he =>
      readable e (mem_entries_of_category hrow he)
    exact Query.closed_of_contribution? members contributes

/-- **A query reads back.**  Where several groups and categories contribute, the keywords outside
parentheses are the `AND`s between them, and cut at these the query gives what they contribute; and
each group or category contributes its operands, several of them as alternatives. -/
theorem query_reads_back (readable : ∀ e ∈ s.entries, e.Readable) :
    (2 ≤ (s.groupTexts ++ s.filterTexts).length →
      Text.keywordsAt 0 (s.compile .betweenTerms).toList =
          List.replicate ((s.groupTexts ++ s.filterTexts).length - 1) "AND".toList ∧
        Text.cutOutside " AND ".toList (s.compile .betweenTerms).toList =
          s.groupTexts ++ s.filterTexts) ∧
      ∀ entries ∈ s.populatedGroups ++ s.filters.populated.map Prod.snd, ∀ besideOthers,
        (2 ≤ (entries.filterMap Query.Operand.ofEntry?).length →
          ∃ text inside, Query.contribution? besideOthers entries = some text ∧
            Query.Alternatives (entries.filterMap Query.Operand.ofEntry?) text inside) ∧
        ∀ o, entries.filterMap Query.Operand.ofEntry? = [o] → o.text ≠ ['(', ')'] →
          Query.contribution? besideOthers entries =
            some (Query.wrapIf (besideOthers && Text.hasOperators o.text) o.text) := by
  constructor
  · intro several
    have hk : "AND".toList ∈ Text.operators := by decide
    have hne : s.groupTexts ++ s.filterTexts ≠ [] := List.ne_nil_of_length_pos (by omega)
    have closed := closed_texts readable several
    rw [toList_compile, queryChars_betweenTerms]
    exact ⟨Text.keywordsAt_intercalate hk closed, Text.cutOutside_intercalate hk hne closed⟩
  · intro entries hentries besideOthers
    have members : ∀ e ∈ entries, e.Readable := by
      intro e he
      rcases List.mem_append.1 hentries with hgroup | hcategory
      · exact readable e (mem_entries_of_group hgroup he)
      · obtain ⟨row, hrow, rfl⟩ := List.mem_map.1 hcategory
        exact readable e (mem_entries_of_category hrow he)
    exact ⟨fun several => Query.contribution?_several members several besideOthers,
      fun o single proper => Query.contribution?_single members single proper besideOthers⟩

namespace Example

/-- Two groups and a category, with operators in an entry of several texts and in a tag. -/
def combined : Selection where
  groups :=
    [[.facet Catalog.Example.subject .normal, .facet Catalog.Example.subject .broad], [],
      [.custom ⟨"(x OR y) AND z", .normal, true, none⟩]]
  filters :=
    { rows := [("type", [.facet Catalog.Example.choice .normal])]
      nodup := by simp }

theorem readable_combined : ∀ e ∈ combined.entries, e.Readable := by decide

end Example

theorem query_reads_back_of_nested :
    (∀ e ∈ Example.combined.entries, e.Readable) ∧
      Text.cutOutside " AND ".toList (Example.combined.compile .betweenTerms).toList =
        ["((a[ti] OR b[ti] OR c[ti]) OR d[ti])".toList, "((x OR y) AND z)".toList,
          "review[pt]".toList] :=
  ⟨Example.readable_combined,
    ((query_reads_back Example.readable_combined).1 (by decide)).2.trans (by decide)⟩

end Selection

end FacetedSearch
