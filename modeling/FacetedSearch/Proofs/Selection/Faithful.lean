/-
# FacetedSearch.Proofs.Selection.Faithful -- a selection is known from its JSON text

The value that stands for a selection holds every part of it: an entry tells its kind, a text that
is missing is told from an empty one, and lists and filters keep their order.  Keys are there as
texts, which tell well-formed keys apart.  So selections whose facets have such keys are equal if
their values are (`Selection.eq_of_toJson_eq`), and hence if their compact texts are
(`compact_toJson_inj`).
-/
import FacetedSearch.Proofs.Catalog.Sources
import FacetedSearch.Proofs.Json.Compact
import FacetedSearch.Selection.Document

namespace FacetedSearch

set_option autoImplicit false

open Json (Value)

/-- Every facet among the entries has a key that can be written. -/
def Entry.WellKeyed (e : Entry) : Prop := ∀ key ∈ e.key?, key.WellFormed

instance (e : Entry) : Decidable e.WellKeyed :=
  inferInstanceAs (Decidable (∀ key ∈ e.key?, key.WellFormed))

/-- Every facet of the selection has a key that can be written. -/
structure Selection.WellKeyed (s : Selection) : Prop where
  subjects : ∀ group ∈ s.groups, ∀ e ∈ group, e.WellKeyed
  choices : ∀ row ∈ s.filters.rows, ∀ e ∈ row.2, e.WellKeyed

/-! ## Parts -/

/-- Members of two lists that their images tell apart are the same if the images are. -/
theorem eq_of_map_eq {α β : Type} {f : α → β} {xs ys : List α}
    (apart : ∀ x ∈ xs, ∀ y ∈ ys, f x = f y → x = y) (same : xs.map f = ys.map f) : xs = ys := by
  induction xs generalizing ys with
  | nil => exact (List.map_eq_nil_iff.1 same.symm).symm
  | cons x xs ih =>
      cases ys with
      | nil => cases same
      | cons y ys =>
          obtain ⟨first, rest⟩ := List.cons.inj same
          rw [apart x List.mem_cons_self y List.mem_cons_self first,
            ih (fun a ha b hb => apart a (List.mem_cons_of_mem _ ha) b (List.mem_cons_of_mem _ hb))
              rest]

theorem Scope.name_injective : Function.Injective Scope.name := by
  intro s t same
  have read := Scope.ofName?_name s
  rw [same, Scope.ofName?_name] at read
  exact (Option.some.inj read).symm

theorem SortMethod.name_injective : Function.Injective SortMethod.name := by
  intro s t same
  cases s <;> cases t <;> simp_all [SortMethod.name]

theorem Json.Value.ofText?_injective : Function.Injective Value.ofText? := by
  intro a b same
  cases a <;> cases b <;> simp_all [Value.ofText?]

theorem Json.Value.strings_injective :
    Function.Injective fun texts : List String => Value.array (texts.map .string) := by
  intro a b same
  exact eq_of_map_eq (fun x _ y _ h => Value.string.inj h) (Value.array.inj same)

theorem Facet.Labels.toJson_injective : Function.Injective Facet.Labels.toJson := by
  intro a b same
  apply eq_of_entries_eq
  refine eq_of_map_eq (fun x _ y _ h => ?_) (Value.object.inj same)
  obtain ⟨locale, label⟩ := Prod.mk.inj h
  exact Prod.ext locale (Value.string.inj label)

theorem SearchTexts.toJson_injective : Function.Injective SearchTexts.toJson := by
  intro a b same
  have rows : a.toList = b.toList := by
    refine eq_of_map_eq (fun x _ y _ h => ?_) (Value.object.inj same)
    obtain ⟨scope, texts⟩ := Prod.mk.inj h
    exact Prod.ext (Scope.name_injective scope) (Value.strings_injective texts)
  rw [← ofList_toList a, rows, ofList_toList]

theorem Facet.Key.WellFormed.eq_of_text_eq {a b : Facet.Key} (ha : a.WellFormed)
    (hb : b.WellFormed) (same : a.text = b.text) : a = b := by
  have read := Facet.Key.ofText?_text ha
  rw [same, Facet.Key.ofText?_text hb] at read
  exact (Option.some.inj read).symm

theorem Facet.eq_of_toJson_eq {f g : Facet} (hf : f.key.WellFormed) (hg : g.key.WellFormed)
    (same : f.toJson = g.toJson) : f = g := by
  simp only [toJson, Value.object.injEq, List.cons.injEq, Prod.mk.injEq, true_and, and_true,
    Value.string.injEq, Value.number.injEq] at same
  obtain ⟨key, labels, order, texts⟩ := same
  obtain ⟨fkey, flabels, forder, ftexts⟩ := f
  obtain ⟨gkey, glabels, gorder, gtexts⟩ := g
  obtain rfl : fkey = gkey := hf.eq_of_text_eq hg key
  obtain rfl : flabels = glabels := Labels.toJson_injective labels
  obtain rfl : forder = gorder := order
  obtain rfl : ftexts = gtexts := SearchTexts.toJson_injective texts
  rfl

/-- An entry tells its kind, and the rest according to it. -/
theorem Entry.eq_of_toJson_eq {a b : Entry} (ha : a.WellKeyed) (hb : b.WellKeyed)
    (same : a.toJson = b.toJson) : a = b := by
  cases a with
  | facet f scope =>
      cases b with
      | facet g other =>
          simp only [toJson, Value.object.injEq, List.cons.injEq, Prod.mk.injEq, true_and, and_true,
            Value.string.injEq] at same
          obtain ⟨facet, scopes⟩ := same
          rw [Facet.eq_of_toJson_eq (ha _ rfl) (hb _ rfl) facet, Scope.name_injective scopes]
      | custom tag => simp [toJson] at same
  | custom tag =>
      cases b with
      | facet g other => simp [toJson] at same
      | custom other =>
          simp only [toJson, Value.object.injEq, List.cons.injEq, Prod.mk.injEq, true_and, and_true,
            Value.string.injEq, Value.boolean.injEq] at same
          obtain ⟨name, scope, translated, typedName⟩ := same
          obtain ⟨tname, tscope, ttranslated, ttyped⟩ := tag
          obtain ⟨oname, oscope, otranslated, otyped⟩ := other
          obtain rfl : tname = oname := name
          obtain rfl : tscope = oscope := Scope.name_injective scope
          obtain rfl : ttranslated = otranslated := translated
          obtain rfl : ttyped = otyped := Value.ofText?_injective typedName
          rfl

theorem Entry.eq_of_listToJson_eq {as bs : List Entry} (has : ∀ e ∈ as, e.WellKeyed)
    (hbs : ∀ e ∈ bs, e.WellKeyed) (same : listToJson as = listToJson bs) : as = bs :=
  eq_of_map_eq (fun a ha b hb => eq_of_toJson_eq (has a ha) (hbs b hb)) (Value.array.inj same)

/-! ## Selections -/

namespace Selection

theorem eq_of_toJson_eq {a b : Selection} (ha : a.WellKeyed) (hb : b.WellKeyed)
    (same : a.toJson = b.toJson) : a = b := by
  simp only [toJson, Value.object.injEq, List.cons.injEq, Prod.mk.injEq, true_and, and_true,
    Value.array.injEq, Value.string.injEq, Value.boolean.injEq, Value.number.injEq,
    Int.ofNat_inj] at same
  obtain ⟨groups, filters, advanced, sort, page, pageSize, collapsed, pmids, anchor⟩ := same
  have groups : a.groups = b.groups :=
    eq_of_map_eq (fun x hx y hy => Entry.eq_of_listToJson_eq (ha.subjects x hx) (hb.subjects y hy))
      groups
  have rows : a.filters.rows = b.filters.rows := by
    refine eq_of_map_eq (fun x hx y hy h => ?_) filters
    obtain ⟨category, entries⟩ := Prod.mk.inj h
    exact Prod.ext category
      (Entry.eq_of_listToJson_eq (ha.choices x hx) (hb.choices y hy) entries)
  have pmids : a.pmids = b.pmids := Value.strings_injective (congrArg Value.array pmids)
  exact Selection.ext groups (Filters.ext rows) advanced (SortMethod.name_injective sort) page
    pageSize collapsed pmids (Value.ofText?_injective anchor)

/-- **The compact text of a selection tells all of it**: selections whose facets have well-formed
keys have one text only if they are equal, in every part and in the order of the categories. -/
theorem compact_toJson_inj {a b : Selection} (ha : a.WellKeyed) (hb : b.WellKeyed) :
    a.toJson.compact = b.toJson.compact ↔ a = b := by
  constructor
  · intro same
    exact eq_of_toJson_eq ha hb (Value.compact_injective same)
  · rintro rfl
    rfl

namespace Example

def breast : Facet where
  key := ⟨"onc", some 1, none, none⟩
  labels := Facet.Labels.ofList [("en", "Breast"), ("de", "\"Brust\"")]
  texts := { normal := some ["a[ti]", ""] }

/-- Texts with the marks of JSON in them, an empty group and texts that are empty. -/
def marked : Selection where
  groups := [[.custom ⟨"\"\x7d,\x7b\\", .narrow, true, some ""⟩], [], [.facet breast .broad]]
  filters := Filters.extend {} "]" [.facet breast .normal]
  pmids := ["", "\n"]
  anchor := some ""

/-- The same by way of another category. -/
def restored : Selection :=
  ((marked.addFilter "" (.facet breast .narrow)).removeFilter "" breast.key).2

theorem wellKeyed_marked : marked.WellKeyed := ⟨by decide, by decide⟩

theorem wellKeyed_restored : restored.WellKeyed := ⟨by decide, by decide⟩

end Example

open Example in
theorem compact_toJson_inj_of_marks :
    restored.toJson.compact = marked.toJson.compact ∧ restored = marked ∧
      marked.toJson.compact ≠ { marked with anchor := none }.toJson.compact := by
  have same : restored.toJson.compact = marked.toJson.compact := rfl
  have unanchored : { marked with anchor := none }.WellKeyed :=
    ⟨wellKeyed_marked.subjects, wellKeyed_marked.choices⟩
  refine ⟨same, (compact_toJson_inj wellKeyed_restored wellKeyed_marked).1 same, ?_⟩
  exact mt (compact_toJson_inj wellKeyed_marked unanchored).1 (by simp [marked])

end Selection

end FacetedSearch
