/-
# FacetedSearch.Proofs.Catalog.Loading -- sources give the definitions that they write

A record is read member by member into a draft.  What a draft lacks of a field the members still to
come must say: that is `Pending`, which holds of every field before the first member and is kept by
each one, whatever its name.  After the last member a field is read or is left out, and then its
content is the default.  From the values up, every document that writes something is therefore read
as just that, as long as no more containers are open than there is room for, and a source gives the
catalog or the breach that building its definitions gives (`ofJson_eq_build`).
-/
import FacetedSearch.Proofs.Catalog.Written
import FacetedSearch.Proofs.Json.Reading

namespace FacetedSearch

set_option autoImplicit false

namespace Json.Document

theorem depth_le_itemsDepth {item : Document} {items : List Document} (h : item ∈ items) :
    item.depth ≤ itemsDepth items := by
  induction items with
  | nil => exact absurd h List.not_mem_nil
  | cons first rest ih =>
      rw [itemsDepth]
      rcases List.mem_cons.1 h with rfl | h
      · exact Nat.le_max_left ..
      · exact Nat.le_trans (ih h) (Nat.le_max_right ..)

theorem depth_le_membersDepth {m : Option String × Document}
    {members : List (Option String × Document)} (h : m ∈ members) :
    m.2.depth ≤ membersDepth members := by
  induction members with
  | nil => exact absurd h List.not_mem_nil
  | cons first rest ih =>
      obtain ⟨name, value⟩ := first
      rw [membersDepth]
      rcases List.mem_cons.1 h with rfl | h
      · exact Nat.le_max_left ..
      · exact Nat.le_trans (ih h) (Nat.le_max_right ..)

end Json.Document

namespace Source

open Json (Document)

variable {α : Type}

/-! ## Values -/

/-- A container is read inside another one if there is room for its depth. -/
theorem inside_eq_ok {room : Nat} {read : Nat → Document → Read α} {d : Document} {content : α}
    (container : 0 < d.depth) (fits : d.depth ≤ room)
    (reads : ∀ inner, d.depth ≤ inner + 1 → read inner d = .ok content) :
    inside room read d = .ok content := by
  cases room with
  | zero => omega
  | succ inner => exact reads inner fits

theorem readItems_eq_ok {read : Document → Read α} {list : List α} {items : List Document}
    (reads : List.Forall₂ (fun a d => read d = .ok a) list items) :
    readItems read (.array items) = .ok list := by
  rw [readItems]
  induction reads with
  | nil => rfl
  | cons first _ ih =>
      rw [List.mapM_cons, first, ih]
      rfl

/-- Rows that each have an effect of their own are read one after the other. -/
theorem foldlM_eq_ok {σ : Type} {add : σ → Member → Read σ} {set : σ → α → σ} {write : α → Member}
    (rows : List α) (reads : ∀ row ∈ rows, ∀ known, add known (write row) = .ok (set known row))
    (known : σ) : (rows.map write).foldlM add known = .ok (rows.foldl set known) := by
  induction rows generalizing known with
  | nil => rfl
  | cons row rest ih =>
      rw [List.map_cons, List.foldlM_cons, reads row List.mem_cons_self, List.foldl_cons]
      exact ih (fun r hr => reads r (List.mem_cons_of_mem _ hr)) _

theorem readString_eq_ok {text : String} {d : Document} (h : WritesText text d) :
    readString d = .ok text := by
  rw [WritesText] at h
  rw [h, readString]

theorem readKey_eq_ok {key : Facet.Key} {d : Document} (h : WritesKey key d) :
    readKey d = .ok key := by
  obtain ⟨text, hkey, htext⟩ := h
  have hparse : Facet.Key.parse text = .ok key := by rw [Facet.Key.parse, hkey]
  rw [readKey, readString_eq_ok htext]
  show (Facet.Key.parse text).mapError SourceError.badKey = .ok key
  rw [hparse]
  rfl

theorem readOrder_eq_ok {n : Int} {d : Document} (h : WritesOrder n d) : readOrder d = .ok n := by
  obtain ⟨rfl, fits⟩ := h
  exact if_pos fits

theorem readLabels_eq_ok {labels : Facet.Labels} {d : Document} (h : WritesLabels labels d) :
    readLabels d = .ok labels := by
  obtain ⟨rows, rfl, rfl⟩ := h
  rw [readLabels, Facet.Labels.ofList]
  refine foldlM_eq_ok rows (fun row _ known => ?_) _
  rfl

theorem readTexts_eq_ok {texts : SearchTexts} {d : Document} (h : WritesTexts texts d)
    {room : Nat} (fits : d.depth ≤ room + 1) : readTexts room d = .ok texts := by
  obtain ⟨rows, rfl, rfl⟩ := h
  rw [readTexts, SearchTexts.ofList]
  refine foldlM_eq_ok rows (fun row hrow known => ?_) _
  have hlist : inside room (fun _ => readItems readString)
      (.array (row.2.map fun text => .string (some text))) = .ok row.2 := by
    refine inside_eq_ok (by simp [Document.depth]) ?_ fun _ _ => readItems_eq_ok ?_
    · have hmem := List.mem_map_of_mem (f := fun row : Scope × List String =>
        (some row.1.name, Document.array (row.2.map fun text => .string (some text)))) hrow
      have hle := Document.depth_le_membersDepth hmem
      rw [Document.depth] at fits
      exact Nat.le_trans hle (Nat.le_of_succ_le_succ fits)
    · rw [List.forall₂_map_right_iff]
      exact List.forall₂_same.2 fun text _ => rfl
  rw [addTexts, Scope.ofName?_name]
  simp only [hlist]
  rfl

theorem insideLabels_eq_ok {labels : Facet.Labels} {d : Document} (h : WritesLabels labels d)
    {room : Nat} (fits : d.depth ≤ room) : inside room (fun _ => readLabels) d = .ok labels := by
  refine inside_eq_ok ?_ fits fun _ _ => readLabels_eq_ok h
  obtain ⟨rows, -, rfl⟩ := h
  exact Nat.succ_pos _

theorem insideTexts_eq_ok {texts : SearchTexts} {d : Document} (h : WritesTexts texts d)
    {room : Nat} (fits : d.depth ≤ room) : inside room readTexts d = .ok texts := by
  refine inside_eq_ok ?_ fits fun _ => readTexts_eq_ok h
  obtain ⟨rows, -, rfl⟩ := h
  exact Nat.succ_pos _

/-! ## Fields -/

theorem valuesOf_cons (own name : String) (d : Document) (rest : List Member) :
    valuesOf own ((some name, d) :: rest) =
      if name = own then d :: valuesOf own rest else valuesOf own rest := by
  by_cases h : name = own <;> simp [valuesOf, h]

/-- Members of other names do not matter to a field. -/
theorem Field.standsIn_cons_iff {f : Field} {name : String} (other : name ≠ f.name) (d : Document)
    (rest : List Member) : f.StandsIn ((some name, d) :: rest) ↔ f.StandsIn rest := by
  have hvalues : valuesOf f.name ((some name, d) :: rest) = valuesOf f.name rest := by
    rw [valuesOf_cons, if_neg other]
  constructor
  · rintro (⟨only, writes⟩ | ⟨absent, default⟩)
    · exact .once (hvalues ▸ only) writes
    · exact .leftOut (hvalues ▸ absent) default
  · rintro (⟨only, writes⟩ | ⟨absent, default⟩)
    · exact .once (hvalues ▸ only) writes
    · exact .leftOut (hvalues ▸ absent) default

/-- What is known of a field that has some content, and what the members still to come say of it. -/
inductive Pending (f : Field) (content : α) (known : Option α) (members : List Member) : Prop
  | read (same : known = some content) (absent : valuesOf f.name members = [])
  | unread (none : known = none) (stands : f.StandsIn members)

namespace Pending

variable {f : Field} {content : α} {known : Option α} {name : String} {d : Document}
  {rest : List Member}

/-- A member of the field's name is the only one, and it writes the content. -/
theorem own (h : Pending f content known ((some f.name, d) :: rest)) :
    known = none ∧ f.Writes d ∧ valuesOf f.name rest = [] := by
  cases h with
  | read same absent => simp [valuesOf_cons] at absent
  | unread none stands =>
      cases stands with
      | once only writes =>
          simp only [valuesOf_cons, if_true, List.cons.injEq] at only
          obtain ⟨rfl, hrest⟩ := only
          exact ⟨none, writes, hrest⟩
      | leftOut absent default => simp [valuesOf_cons] at absent

/-- The value of a field is read once. -/
theorem readOnce_eq_ok (h : Pending f content known ((some f.name, d) :: rest)) {value : Read α}
    (reads : f.Writes d → value = .ok content) : readOnce known value = .ok (some content) := by
  obtain ⟨rfl, writes, -⟩ := h.own
  rw [reads writes]
  rfl

/-- A member of the field's name makes its content known; any other one changes nothing. -/
theorem step (h : Pending f content known ((some name, d) :: rest)) :
    Pending f content (if name = f.name then some content else known) rest := by
  by_cases hname : name = f.name
  · subst hname
    rw [if_pos rfl]
    exact .read rfl h.own.2.2
  · rw [if_neg hname]
    cases h with
    | read same absent => exact .read same (by rwa [valuesOf_cons, if_neg hname] at absent)
    | unread none stands => exact .unread none ((Field.standsIn_cons_iff hname d rest).1 stands)

theorem start {members : List Member} (h : f.StandsIn members) :
    Pending f content none members := .unread rfl h

/-- After the last member a field that was never left out is known. -/
theorem eq_some (h : Pending f content known []) (required : ¬ f.isDefault) :
    known = some content := by
  cases h with
  | read same absent => exact same
  | unread none stands =>
      cases stands with
      | once only writes => simp [valuesOf] at only
      | leftOut absent default => exact absurd default required

/-- After the last member the content of a field is known, or it is the default. -/
theorem getD_eq (h : Pending f content known []) {default : α}
    (left : f.isDefault → content = default) : known.getD default = content := by
  cases h with
  | read same absent => rw [same, Option.getD_some]
  | unread none stands =>
      cases stands with
      | once only writes => simp [valuesOf] at only
      | leftOut absent isDefault => rw [none, Option.getD_none, left isDefault]

end Pending

/-! ## Records -/

theorem valuesOf_eq_nil {name : String} {members : List Member}
    (other : ∀ m ∈ members, m.1 ≠ some name) : valuesOf name members = [] := by
  rw [valuesOf, List.filterMap_eq_nil_iff]
  intro m hm
  rw [if_neg (other m hm)]

/-- The items of an array with the names of the fields that they are values of. -/
def namedItems (fields : List Field) (items : List Document) : List Member :=
  List.zipWith (fun f d => (some f.name, d)) fields items

theorem exists_of_mem_namedItems {fields : List Field} {items : List Document} {m : Member}
    (h : m ∈ namedItems fields items) :
    ∃ f ∈ fields, ∃ d ∈ items, m = (some f.name, d) := by
  rw [namedItems, ← List.map_uncurry_zip_eq_zipWith] at h
  obtain ⟨⟨f, d⟩, hpair, rfl⟩ := List.mem_map.1 h
  exact ⟨f, (List.of_mem_zip hpair).1, d, (List.of_mem_zip hpair).2, rfl⟩

/-- As many items as an array has, so many fields are given, from the first one on. -/
theorem zipIdx_eq_namedItems {given : List Field} {items : List Document}
    (writes : List.Forall₂ Field.Writes given items) (names : List String) {k : Nat}
    (agree : ∀ i f, given[i]? = some f → names[k + i]? = some f.name) :
    ((items.zipIdx k).map fun item => (names[item.2]?, item.1)) = namedItems given items := by
  induction writes generalizing k with
  | nil => rfl
  | @cons f d given items _ _ ih =>
      have hfirst := agree 0 f rfl
      rw [List.zipIdx_cons, List.map_cons, namedItems, List.zipWith_cons_cons]
      refine congrArg₂ List.cons (by rw [← hfirst, Nat.add_zero]) (ih fun i g hg => ?_)
      have hnext := agree (i + 1) g (by simpa using hg)
      rwa [← Nat.add_assoc, Nat.add_right_comm] at hnext

theorem standsIn_namedItems {given : List Field} {items : List Document}
    (writes : List.Forall₂ Field.Writes given items) (nodup : (given.map Field.name).Nodup) :
    ∀ f ∈ given, f.StandsIn (namedItems given items) := by
  induction writes with
  | nil => exact fun f hf => absurd hf List.not_mem_nil
  | @cons first d given items value _ ih =>
      obtain ⟨hfresh, hnodup⟩ := List.nodup_cons.1 nodup
      intro f hf
      rcases List.mem_cons.1 hf with rfl | hf
      · refine .once ?_ value
        rw [namedItems, List.zipWith_cons_cons, valuesOf_cons, if_pos rfl]
        refine congrArg _ (valuesOf_eq_nil fun m hm heq => hfresh ?_)
        obtain ⟨g, hg, e, -, rfl⟩ := exists_of_mem_namedItems hm
        exact List.mem_map.2 ⟨g, hg, Option.some.inj heq⟩
      · have hne : first.name ≠ f.name := fun heq => hfresh (heq ▸ List.mem_map_of_mem hf)
        exact (Field.standsIn_cons_iff hne d _).2 (ih hnodup f hf)

/-- **A record is read as members among which each field stands**, also if it is an array. -/
theorem IsRecord.exists_members {fields : List Field} {d : Document} (h : IsRecord fields d)
    (nodup : (fields.map Field.name).Nodup) :
    ∃ members, readMembers (fields.map Field.name) d = .ok members ∧
      (∀ m ∈ members, m.1.isSome = true ∧ m.2.depth < d.depth) ∧
      ∀ f ∈ fields, f.StandsIn members := by
  cases h with
  | @object members named stands =>
      refine ⟨members, rfl, fun m hm => ⟨named m hm, ?_⟩, stands⟩
      exact Nat.lt_succ_of_le (Document.depth_le_membersDepth hm)
  | @array items writes defaults =>
      obtain ⟨given, rest, rfl, writes, defaults⟩ : ∃ given rest, fields = given ++ rest ∧
          List.Forall₂ Field.Writes given items ∧ ∀ f ∈ rest, f.isDefault :=
        ⟨_, _, (List.take_append_drop items.length fields).symm, writes, defaults⟩
      rw [List.map_append] at nodup
      obtain ⟨hgiven, -, hdisjoint⟩ := List.nodup_append.1 nodup
      refine ⟨namedItems given items, ?_, fun m hm => ?_, fun f hf => ?_⟩
      · rw [readMembers, zipIdx_eq_namedItems writes]
        intro i f hf
        have hlt := (List.getElem?_eq_some_iff.1 hf).1
        rw [Nat.zero_add, List.getElem?_map, List.getElem?_append_left hlt, hf, Option.map_some]
      · obtain ⟨f, -, item, hitem, rfl⟩ := exists_of_mem_namedItems hm
        exact ⟨rfl, Nat.lt_succ_of_le (Document.depth_le_itemsDepth hitem)⟩
      · rcases List.mem_append.1 hf with hf | hf
        · exact standsIn_namedItems writes hgiven f hf
        · refine .leftOut (valuesOf_eq_nil fun m hm heq => ?_) (defaults f hf)
          obtain ⟨g, hg, item, -, rfl⟩ := exists_of_mem_namedItems hm
          exact hdisjoint _ (List.mem_map_of_mem hg) _ (List.mem_map_of_mem hf)
            (Option.some.inj heq)

theorem IsRecord.depth_pos {fields : List Field} {d : Document} (h : IsRecord fields d) :
    0 < d.depth := by
  cases h <;> exact Nat.succ_pos _

/-- What one member after the other keeps true of the draft and the members still to come is true
after the last one. -/
theorem exists_foldlM_eq_ok {σ : Type} {add : σ → Member → Read σ} {room : Nat}
    (Inv : σ → List Member → Prop)
    (step : ∀ draft name d rest, Inv draft ((some name, d) :: rest) → d.depth ≤ room →
      ∃ next, add draft (some name, d) = .ok next ∧ Inv next rest)
    (members : List Member) (named : ∀ m ∈ members, m.1.isSome = true ∧ m.2.depth ≤ room)
    (draft : σ) (h : Inv draft members) :
    ∃ last, members.foldlM add draft = .ok last ∧ Inv last [] := by
  induction members generalizing draft with
  | nil => exact ⟨draft, rfl, h⟩
  | cons m rest ih =>
      obtain ⟨hname, hdepth⟩ := named m List.mem_cons_self
      obtain ⟨name?, d⟩ := m
      obtain ⟨name, rfl⟩ := Option.isSome_iff_exists.1 hname
      obtain ⟨next, hnext, hinv⟩ := step draft name d rest h hdepth
      rw [List.foldlM_cons, hnext]
      exact ih (fun n hn => named n (List.mem_cons_of_mem _ hn)) next hinv

/-- A record is read, member by member, into a draft to which nothing more is to come. -/
theorem IsRecord.exists_last {fields : List Field} {d : Document} (h : IsRecord fields d)
    (nodup : (fields.map Field.name).Nodup) {room : Nat} (fits : d.depth ≤ room + 1) {σ : Type}
    {add : σ → Member → Read σ} {Inv : σ → List Member → Prop}
    (step : ∀ draft name v rest, Inv draft ((some name, v) :: rest) → v.depth ≤ room →
      ∃ next, add draft (some name, v) = .ok next ∧ Inv next rest)
    {draft : σ} (start : ∀ members, (∀ f ∈ fields, f.StandsIn members) → Inv draft members) :
    ∃ members last, readMembers (fields.map Field.name) d = .ok members ∧
      members.foldlM add draft = .ok last ∧ Inv last [] := by
  obtain ⟨members, hread, hnamed, hstands⟩ := h.exists_members nodup
  have hinside : ∀ m ∈ members, m.1.isSome = true ∧ m.2.depth ≤ room := fun m hm =>
    ⟨(hnamed m hm).1, Nat.le_of_lt_succ (Nat.lt_of_lt_of_le (hnamed m hm).2 fits)⟩
  obtain ⟨last, hfold, hlast⟩ :=
    exists_foldlM_eq_ok Inv step members hinside draft (start members hstands)
  exact ⟨members, last, hread, hfold, hlast⟩

/-! ## Facets -/

/-- The draft of a facet after a member of the name. -/
def FacetDraft.after (draft : FacetDraft) (facet : Facet) (children : List Facet.Tree)
    (name : String) : FacetDraft where
  key? := if name = "id" then some facet.key else draft.key?
  labels? := if name = "labels" then some facet.labels else draft.labels?
  order? := if name = "order" then some facet.order else draft.order?
  texts? := if name = "searchStrings" then some facet.texts else draft.texts?
  children? := if name = "children" then some children else draft.children?

/-- The members still to come say what the draft lacks of the facet. -/
structure FacetDraft.Leads (facet : Facet) (children : List Facet.Tree) (draft : FacetDraft)
    (members : List Member) : Prop where
  key : Pending (keyField facet.key) facet.key draft.key? members
  labels : Pending (labelsField facet.labels) facet.labels draft.labels? members
  order : Pending (orderField facet.order) facet.order draft.order? members
  texts : Pending (textsField facet.texts) facet.texts draft.texts? members
  children : Pending (listField "children" children (WritesTrees children)) children
    draft.children? members

namespace FacetDraft

variable {facet : Facet} {children : List Facet.Tree} {draft : FacetDraft} {name : String}
  {d : Document} {rest : List Member}

theorem Leads.after (h : Leads facet children draft ((some name, d) :: rest)) :
    Leads facet children (draft.after facet children name) rest :=
  ⟨h.key.step, h.labels.step, h.order.step, h.texts.step, h.children.step⟩

theorem Leads.add_eq_ok (h : Leads facet children draft ((some name, d) :: rest)) {room : Nat}
    (fits : d.depth ≤ room) {readChildren : Document → Read (List Facet.Tree)}
    (reads : ∀ items, d = .array items → WritesTrees children items →
      readChildren d = .ok children) :
    draft.add room readChildren (some name, d) = .ok (draft.after facet children name) := by
  by_cases hid : name = "id"
  · subst hid
    have hread := h.key.readOnce_eq_ok readKey_eq_ok
    simp [add, FacetDraft.after, hread]
  by_cases hlabels : name = "labels"
  · subst hlabels
    have hread := h.labels.readOnce_eq_ok fun writes => insideLabels_eq_ok writes fits
    simp [add, FacetDraft.after, hread]
  by_cases horder : name = "order"
  · subst horder
    have hread := h.order.readOnce_eq_ok readOrder_eq_ok
    simp [add, FacetDraft.after, hread]
  by_cases htexts : name = "searchStrings"
  · subst htexts
    have hread := h.texts.readOnce_eq_ok fun writes => insideTexts_eq_ok writes fits
    simp [add, FacetDraft.after, hread]
  by_cases hchildren : name = "children"
  · subst hchildren
    have hread := h.children.readOnce_eq_ok fun ⟨items, heq, writes⟩ => reads items heq writes
    simp [add, FacetDraft.after, hread]
  simp [add, FacetDraft.after, hid, hlabels, horder, htexts, hchildren]
  rfl

end FacetDraft

theorem readFacetRecord_eq_ok {facet : Facet} {children : List Facet.Tree} {d : Document}
    (h : WritesTree (.node facet children) d) {room : Nat} (fits : d.depth ≤ room + 1)
    {readChildren : Document → Read (List Facet.Tree)}
    (reads : ∀ items, WritesTrees children items → (Document.array items).depth ≤ room →
      readChildren (.array items) = .ok children) :
    readFacetRecord room readChildren d = .ok (.node facet children) := by
  rw [WritesTree] at h
  obtain ⟨members, last, hread, hfold, hlast⟩ : ∃ members last,
      readMembers facetFields d = .ok members ∧
        members.foldlM (FacetDraft.add room readChildren) {} = .ok last ∧
          FacetDraft.Leads facet children last [] := by
    refine h.exists_last (by decide : facetFields.Nodup) fits (fun draft name v rest leads hv => ?_)
      fun members stands => ?_
    · refine ⟨_, leads.add_eq_ok hv fun items heq writes => ?_, leads.after⟩
      exact heq ▸ reads items writes (heq ▸ hv)
    · simp only [List.forall_mem_cons] at stands
      obtain ⟨key, labels, order, texts, children, -⟩ := stands
      exact ⟨.start key, .start labels, .start order, .start texts, .start children⟩
  have hfinish : last.finish = .ok (.node facet children) := by
    rw [FacetDraft.finish, hlast.key.eq_some id]
    simp only [hlast.labels.getD_eq id, hlast.order.getD_eq id, hlast.texts.getD_eq id,
      hlast.children.getD_eq id]
  rw [readFacetRecord, hread]
  show members.foldlM (FacetDraft.add room readChildren) {} >>= FacetDraft.finish = _
  rw [hfold]
  exact hfinish

/-- One container of the room is the record itself. -/
theorem readFacet_succ (room : Nat) :
    readFacet (room + 1) =
      readFacetRecord room (inside room fun room => readItems (readFacet room)) := by
  cases room <;> rfl

/-- A list of trees, each of which is read as it is written. -/
theorem insideTrees_eq_ok {trees : List Facet.Tree} {items : List Document} {room : Nat}
    (fits : (Document.array items).depth ≤ room)
    (reads : ∀ inner, Document.itemsDepth items ≤ inner →
      List.Forall₂ (fun tree d => readFacet inner d = .ok tree) trees items) :
    inside room (fun room => readItems (readFacet room)) (.array items) = .ok trees :=
  inside_eq_ok (Nat.succ_pos _) fits fun inner hdepth =>
    readItems_eq_ok (reads inner (Nat.le_of_succ_le_succ hdepth))

mutual

/-- A document that writes a tree is read as that tree. -/
theorem readFacet_eq_ok (tree : Facet.Tree) {d : Document} (h : WritesTree tree d) {room : Nat}
    (fits : d.depth ≤ room) : readFacet room d = .ok tree := by
  match tree with
  | .node facet children =>
      have hpos : 0 < d.depth := by
        rw [WritesTree] at h
        exact h.depth_pos
      obtain ⟨inner, rfl⟩ : ∃ inner, room = inner + 1 := ⟨room - 1, by omega⟩
      rw [readFacet_succ]
      refine readFacetRecord_eq_ok h fits fun items writes hitems => ?_
      exact insideTrees_eq_ok hitems fun inner hdepth => readTrees_eq_ok children writes hdepth

/-- Documents that write trees are each read as its tree. -/
theorem readTrees_eq_ok (trees : List Facet.Tree) {items : List Document}
    (h : WritesTrees trees items) {room : Nat} (fits : Document.itemsDepth items ≤ room) :
    List.Forall₂ (fun tree d => readFacet room d = .ok tree) trees items := by
  match trees with
  | [] =>
      rw [WritesTrees] at h
      exact h ▸ .nil
  | tree :: rest =>
      rw [WritesTrees] at h
      obtain ⟨first, others, rfl, hfirst, hothers⟩ := h
      rw [Document.itemsDepth] at fits
      exact .cons (readFacet_eq_ok tree hfirst (by omega)) (readTrees_eq_ok rest hothers (by omega))

end

/-- A field with trees, read where `room` more containers may be opened. -/
theorem insideTrees_of_writesTrees {trees : List Facet.Tree} {d : Document} {room : Nat}
    (h : ∃ items, d = .array items ∧ WritesTrees trees items) (fits : d.depth ≤ room) :
    inside room (fun room => readItems (readFacet room)) d = .ok trees := by
  obtain ⟨items, rfl, writes⟩ := h
  exact insideTrees_eq_ok fits fun inner hdepth => readTrees_eq_ok trees writes hdepth

/-! ## Categories -/

/-- The draft of a category after a member of the name. -/
def CategoryDraft.after (draft : CategoryDraft) (c : CategoryDefinition) (name : String) :
    CategoryDraft where
  id? := if name = "id" then some c.id else draft.id?
  labels? := if name = "labels" then some c.labels else draft.labels?
  order? := if name = "order" then some c.order else draft.order?
  choices? := if name = "choices" then some c.choices else draft.choices?

/-- The members still to come say what the draft lacks of the category. -/
structure CategoryDraft.Leads (c : CategoryDefinition) (draft : CategoryDraft)
    (members : List Member) : Prop where
  id : Pending (idField c.id) c.id draft.id? members
  labels : Pending (labelsField c.labels) c.labels draft.labels? members
  order : Pending (orderField c.order) c.order draft.order? members
  choices : Pending (listField "choices" c.choices (WritesTrees c.choices)) c.choices draft.choices?
    members

namespace CategoryDraft

variable {c : CategoryDefinition} {draft : CategoryDraft} {name : String} {d : Document}
  {rest : List Member}

theorem Leads.after (h : Leads c draft ((some name, d) :: rest)) :
    Leads c (draft.after c name) rest :=
  ⟨h.id.step, h.labels.step, h.order.step, h.choices.step⟩

theorem Leads.add_eq_ok (h : Leads c draft ((some name, d) :: rest)) {room : Nat}
    (fits : d.depth ≤ room) : draft.add room (some name, d) = .ok (draft.after c name) := by
  by_cases hid : name = "id"
  · subst hid
    have hread := h.id.readOnce_eq_ok readString_eq_ok
    simp [add, CategoryDraft.after, hread]
  by_cases hlabels : name = "labels"
  · subst hlabels
    have hread := h.labels.readOnce_eq_ok fun writes => insideLabels_eq_ok writes fits
    simp [add, CategoryDraft.after, hread]
  by_cases horder : name = "order"
  · subst horder
    have hread := h.order.readOnce_eq_ok readOrder_eq_ok
    simp [add, CategoryDraft.after, hread]
  by_cases hchoices : name = "choices"
  · subst hchoices
    have hread := h.choices.readOnce_eq_ok fun writes => insideTrees_of_writesTrees writes fits
    simp [add, CategoryDraft.after, hread]
  simp [add, CategoryDraft.after, hid, hlabels, horder, hchoices]
  rfl

end CategoryDraft

theorem readCategory_eq_ok {c : CategoryDefinition} {d : Document} (h : WritesCategory c d)
    {room : Nat} (fits : d.depth ≤ room + 1) : readCategory room d = .ok c := by
  obtain ⟨members, last, hread, hfold, hlast⟩ : ∃ members last,
      readMembers categoryFields d = .ok members ∧
        members.foldlM (CategoryDraft.add room) {} = .ok last ∧ CategoryDraft.Leads c last [] := by
    refine h.exists_last (by decide : categoryFields.Nodup) fits
      (fun draft name v rest leads hv => ⟨_, leads.add_eq_ok hv, leads.after⟩)
      fun members stands => ?_
    simp only [List.forall_mem_cons] at stands
    obtain ⟨id, labels, order, choices, -⟩ := stands
    exact ⟨.start id, .start labels, .start order, .start choices⟩
  have hfinish : last.finish = .ok c := by
    rw [CategoryDraft.finish, hlast.id.eq_some id]
    simp only [hlast.labels.getD_eq id, hlast.order.getD_eq id, hlast.choices.getD_eq id]
  rw [readCategory, hread]
  show members.foldlM (CategoryDraft.add room) {} >>= CategoryDraft.finish = _
  rw [hfold]
  exact hfinish

theorem readCategories_eq_ok {list : List CategoryDefinition} {items : List Document}
    (h : List.Forall₂ WritesCategory list items) {room : Nat}
    (fits : Document.itemsDepth items ≤ room) :
    List.Forall₂ (fun c d => inside room readCategory d = .ok c) list items := by
  induction h with
  | nil => exact .nil
  | cons writes _ ih =>
      rw [Document.itemsDepth] at fits
      refine .cons (inside_eq_ok (IsRecord.depth_pos writes) (by omega) fun _ => ?_) (ih (by omega))
      exact readCategory_eq_ok writes

/-- A field with categories, read where `room` more containers may be opened. -/
theorem insideCategories_eq_ok {list : List CategoryDefinition} {d : Document} {room : Nat}
    (h : ∃ items, d = .array items ∧ List.Forall₂ WritesCategory list items)
    (fits : d.depth ≤ room) :
    inside room (fun room => readItems (inside room readCategory)) d = .ok list := by
  obtain ⟨items, rfl, writes⟩ := h
  refine inside_eq_ok (Nat.succ_pos _) fits fun inner hdepth => readItems_eq_ok ?_
  exact readCategories_eq_ok writes (Nat.le_of_succ_le_succ hdepth)

/-! ## Catalogs -/

/-- The draft of a catalog after a member of the name. -/
def CatalogDraft.after (draft : CatalogDraft) (d : Definitions) (name : String) : CatalogDraft where
  subjects? := if name = "subjects" then some d.subjects else draft.subjects?
  filters? := if name = "filters" then some d.categories else draft.filters?

/-- The members still to come say what the draft lacks of the definitions. -/
structure CatalogDraft.Leads (d : Definitions) (draft : CatalogDraft) (members : List Member) :
    Prop where
  subjects : Pending (listField "subjects" d.subjects (WritesTrees d.subjects)) d.subjects
    draft.subjects? members
  filters : Pending (listField "filters" d.categories (List.Forall₂ WritesCategory d.categories))
    d.categories draft.filters? members

namespace CatalogDraft

variable {d : Definitions} {draft : CatalogDraft} {name : String} {v : Document}
  {rest : List Member}

theorem Leads.after (h : Leads d draft ((some name, v) :: rest)) :
    Leads d (draft.after d name) rest :=
  ⟨h.subjects.step, h.filters.step⟩

theorem Leads.add_eq_ok (h : Leads d draft ((some name, v) :: rest)) {room : Nat}
    (fits : v.depth ≤ room) : draft.add room (some name, v) = .ok (draft.after d name) := by
  by_cases hsubjects : name = "subjects"
  · subst hsubjects
    have hread := h.subjects.readOnce_eq_ok fun writes => insideTrees_of_writesTrees writes fits
    simp [add, CatalogDraft.after, hread]
  by_cases hfilters : name = "filters"
  · subst hfilters
    have hread := h.filters.readOnce_eq_ok fun writes => insideCategories_eq_ok writes fits
    simp [add, CatalogDraft.after, hread]
  simp [add, CatalogDraft.after, hsubjects, hfilters]
  rfl

end CatalogDraft

theorem readCatalog_eq_ok {d : Definitions} {v : Document} (h : WritesDefinitions d v) {room : Nat}
    (fits : v.depth ≤ room + 1) : readCatalog room v = .ok d := by
  obtain ⟨members, last, hread, hfold, hlast⟩ : ∃ members last,
      readMembers catalogFields v = .ok members ∧
        members.foldlM (CatalogDraft.add room) {} = .ok last ∧ CatalogDraft.Leads d last [] := by
    refine h.exists_last (by decide : catalogFields.Nodup) fits
      (fun draft name v rest leads hv => ⟨_, leads.add_eq_ok hv, leads.after⟩)
      fun members stands => ?_
    simp only [List.forall_mem_cons] at stands
    obtain ⟨subjects, filters, -⟩ := stands
    exact ⟨.start subjects, .start filters⟩
  rw [readCatalog, hread]
  show (members.foldlM (CatalogDraft.add room) {} >>= fun draft =>
    pure (⟨draft.subjects?.getD [], draft.filters?.getD []⟩ : Definitions)) = _
  rw [hfold]
  show Except.ok (⟨last.subjects?.getD [], last.filters?.getD []⟩ : Definitions) = .ok d
  rw [hlast.subjects.getD_eq id, hlast.filters.getD_eq id]

end Source

/-! ## Sources -/

open Json (Gap Piece Spelling)

/-- **A source gives the definitions that it writes**, however it spells them. -/
theorem Definitions.ofJson_chars {d : Definitions} {source : Spelling}
    (writes : Source.WritesDefinitions d source.document)
    (fits : source.document.depth ≤ Source.maxNesting) :
    Definitions.ofJson (String.ofList source.chars) = .ok d := by
  have hinside : Source.inside Source.maxNesting Source.readCatalog source.document = .ok d :=
    Source.inside_eq_ok writes.depth_pos fits fun _ => Source.readCatalog_eq_ok writes
  simp only [Definitions.ofJson, String.toList_ofList, source.read_chars, hinside]
  rfl

/-- **Loading a source is building its definitions**: the same catalog or the same breach. -/
theorem Catalog.ofJson_eq_build {d : Definitions} {source : Spelling}
    (writes : Source.WritesDefinitions d source.document)
    (fits : source.document.depth ≤ Source.maxNesting) :
    Catalog.ofJson (String.ofList source.chars) = (Catalog.build d).mapError .build := by
  rw [Catalog.ofJson, Definitions.ofJson_chars writes fits]
  rfl

namespace Source.Example

def unit (first second third fourth : Nat) : Piece :=
  .unit ⟨.ofNat first, .ofNat second, .ofNat third, .ofNat fourth⟩

def space : Gap := { chars := ['\n', ' '] }

def subject : Facet.Tree :=
  .node { key := ⟨"onc", none, none, none⟩
          labels := .ofList [("en", "Oncology")]
          texts := { normal := some ["a😀"] } } []

/-- The id comes after search texts with an escaped surrogate pair, and one label twice. -/
def subjectSource : Spelling := .ofMembers
  [("searchStrings", .ofMembers [("normal", .ofItems
      [.string [.literal 'a', unit 0xD 8 3 0xD, unit 0xD 0xE 0 0]])]),
    ("id", .ofText "onc"),
    ("labels", .ofMembers [("en", .ofText "Cancer"), ("en", .ofText "Oncology")])]

def category : CategoryDefinition where
  id := "type"
  order := -2
  choices := [.node { key := ⟨"rev", none, none, none⟩ }
    [.node { key := ⟨"rev", some 1, none, none⟩ } []]]

/-- A category as an array, with an object in it whose child is an array again. -/
def categorySource : Spelling := .ofItems
  [.ofText "type", .ofMembers [], .ofInt (-2), .ofItems [.object .none
    [({ pieces := Piece.ofText "children" }, .ofItems [.ofItems [.ofText "rev.01"]]),
      ({ pieces := [unit 0 0 6 9, .literal 'd'] }, .ofText "rev")]]]

def definitions : Definitions := ⟨[subject], [category]⟩

/-- The categories before the subjects, and before both a member with half a surrogate pair. -/
def source : Spelling := .spaced space
  (.ofMembers
    [("note", .array space [.string [unit 0xD 8 0 0], .boolean true]),
      ("filters", .ofItems [categorySource]),
      ("subjects", .ofItems [.spaced .none subjectSource space])]) .none

theorem writes_subject : WritesTree subject subjectSource.document := by
  refine .object (by decide +kernel) ?_
  simp only [List.forall_mem_cons]
  exact ⟨.once rfl ⟨"onc", by decide +kernel, rfl⟩,
    .once rfl ⟨[("en", "Cancer"), ("en", "Oncology")], by decide +kernel, rfl⟩, .leftOut rfl rfl,
    .once rfl ⟨[(.normal, ["a😀"])], rfl, rfl⟩, .leftOut rfl rfl, List.forall_mem_nil _⟩

theorem writes_category : WritesCategory category categorySource.document := by
  have child : WritesTree (.node { key := ⟨"rev", some 1, none, none⟩ } [])
      (.array [.string (some "rev.01")]) := by
    refine .array (.cons ⟨"rev.01", by decide +kernel, rfl⟩ .nil) ?_
    simp only [List.drop_succ_cons, List.drop_zero, List.length_singleton, List.forall_mem_cons]
    exact ⟨rfl, rfl, rfl, rfl, List.forall_mem_nil _⟩
  have choice : WritesTree (.node { key := ⟨"rev", none, none, none⟩ }
      [.node { key := ⟨"rev", some 1, none, none⟩ } []])
      (.object [(some "children", .array [.array [.string (some "rev.01")]]),
        (some "id", .string (some "rev"))]) := by
    refine .object (by simp) ?_
    simp only [List.forall_mem_cons]
    exact ⟨.once rfl ⟨"rev", by decide +kernel, rfl⟩, .leftOut rfl rfl, .leftOut rfl rfl,
      .leftOut rfl rfl, .once rfl ⟨_, rfl, _, _, rfl, child, rfl⟩, List.forall_mem_nil _⟩
  exact .array (.cons rfl (.cons ⟨[], rfl, rfl⟩ (.cons ⟨rfl, by decide, by decide⟩
    (.cons ⟨_, rfl, _, _, rfl, choice, rfl⟩ .nil))))
    (List.forall_mem_nil _)

theorem writes_source : WritesDefinitions definitions source.document := by
  refine .object (by decide +kernel) ?_
  simp only [List.forall_mem_cons]
  exact ⟨.once rfl ⟨_, rfl, _, _, rfl, writes_subject, rfl⟩,
    .once rfl ⟨_, rfl, .cons writes_category .nil⟩, List.forall_mem_nil _⟩

def catalog : Catalog where
  subjects := { roots := [subject], index := [subject.facet] }
  categories := [⟨"type", {}, -2,
    { roots := category.choices
      index := [{ key := ⟨"rev", none, none, none⟩ }, { key := ⟨"rev", some 1, none, none⟩ }] }⟩]

end Source.Example

namespace Catalog

theorem ofJson_eq_build_of_mixed :
    String.ofList Source.Example.source.chars =
        "\n \x7b\"note\":[\n \"\\uD800\",true]," ++
        "\"filters\":[[\"type\",\x7b\x7d,-2," ++
        "[\x7b\"children\":[[\"rev.01\"]],\"\\u0069d\":\"rev\"\x7d]]]," ++
        "\"subjects\":[\x7b\"searchStrings\":\x7b\"normal\":[\"a\\uD83D\\uDE00\"]\x7d," ++
        "\"id\":\"onc\",\"labels\":\x7b\"en\":\"Cancer\",\"en\":\"Oncology\"\x7d\x7d\n ]\x7d" ∧
      Source.WritesDefinitions Source.Example.definitions Source.Example.source.document ∧
      Source.Example.source.document.depth ≤ Source.maxNesting ∧
      Catalog.ofJson (String.ofList Source.Example.source.chars) =
        (Catalog.build Source.Example.definitions).mapError .build ∧
      Catalog.build Source.Example.definitions = .ok Source.Example.catalog :=
  have fits : Source.Example.source.document.depth ≤ Source.maxNesting := by decide +kernel
  ⟨by decide +kernel, Source.Example.writes_source, fits,
    Catalog.ofJson_eq_build Source.Example.writes_source fits, by with_unfolding_all rfl⟩

end Catalog

end FacetedSearch
