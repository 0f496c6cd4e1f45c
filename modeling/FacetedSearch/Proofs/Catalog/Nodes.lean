/-
# FacetedSearch.Proofs.Catalog.Nodes -- the nodes of facet trees

A node of a tree stands some levels below its root (`Tree.NodeAt`).  The placements of trees, which
a forest is checked and indexed by, are their nodes with the keys right above them
(`mem_placementsAll_iff`).  So what a forest has to obey is said of nodes (`Tree.Lawful`): each
facet below another has a key that is a child of the other's, no facet has an empty list of search
texts, and no key stands twice.

A parent has one level less than its child, whether or not the keys are well formed
(`Key.setLevels_parent?`), and no key has more than three.  So lawful trees are not deeper than
three levels below their roots (`Tree.Lawful.level_le`).
-/
import FacetedSearch.Proofs.Catalog.Facets

namespace FacetedSearch.Facet

set_option autoImplicit false

/-! ## Levels of keys -/

namespace Key

/-- How many levels are set, also where a coarser one is missing. -/
def setLevels (k : Key) : Nat :=
  k.topic.toList.length + k.subtopic.toList.length + k.subsubtopic.toList.length

variable {k parent : Key}

theorem setLevels_le (k : Key) : k.setLevels ≤ 3 := by
  have length_le (level : Option UInt32) : level.toList.length ≤ 1 := by cases level <;> simp
  have := length_le k.topic
  have := length_le k.subtopic
  have := length_le k.subsubtopic
  unfold setLevels
  omega

/-- A parent has one level less. -/
theorem setLevels_parent? (h : k.parent? = some parent) : k.setLevels = parent.setLevels + 1 := by
  obtain ⟨group, topic, subtopic, subsubtopic⟩ := k
  unfold parent? at h
  split at h
  · rename_i level last
    obtain rfl := Option.some.inj h
    obtain rfl : subsubtopic = some level := last
    simp [setLevels]
  · rename_i level last second
    obtain rfl := Option.some.inj h
    obtain rfl : subsubtopic = none := last
    obtain rfl : subtopic = some level := second
    simp [setLevels]
  · rename_i level last second first
    obtain rfl := Option.some.inj h
    obtain rfl : subsubtopic = none := last
    obtain rfl : subtopic = none := second
    obtain rfl : topic = some level := first
    simp [setLevels]
  · cases h

end Key

namespace Tree

/-! ## Nodes -/

/-- The node stands that many levels below the root of the tree. -/
inductive NodeAt : Tree → Nat → Tree → Prop
  | root (tree : Tree) : NodeAt tree 0 tree
  | deeper {facet : Facet} {children : List Tree} {child : Tree} {level : Nat} {node : Tree}
      (member : child ∈ children) (inside : NodeAt child level node) :
      NodeAt (.node facet children) (level + 1) node

mutual

/-- The keys of a tree, each before those below it. -/
def keys : Tree → List Key
  | node facet children => facet.key :: keysAll children

/-- The keys of sibling trees. -/
def keysAll : List Tree → List Key
  | [] => []
  | tree :: rest => tree.keys ++ keysAll rest

end

variable {above? : Option Key} {tree : Tree} {trees : List Tree} {p : Placement}

mutual

theorem map_key_placements (above? : Option Key) : (tree : Tree) →
    ((tree.placements above?).map fun p => p.facet.key) = tree.keys
  | node facet children => by
      rw [placements, keys, List.map_cons, map_key_placementsAll (some facet.key) children]

theorem map_key_placementsAll (above? : Option Key) : (trees : List Tree) →
    ((placementsAll above? trees).map fun p => p.facet.key) = keysAll trees
  | [] => rfl
  | tree :: rest => by
      rw [placementsAll, keysAll, List.map_append, map_key_placements above? tree,
        map_key_placementsAll above? rest]

end

/-- A placement of a tree is that of its root, or of a child of a node. -/
def Places (tree : Tree) (above? : Option Key) (p : Placement) : Prop :=
  p = ⟨above?, tree.facet⟩ ∨
    ∃ level node, tree.NodeAt level node ∧
      ∃ child ∈ node.children, p = ⟨some node.facet.key, child.facet⟩

/-- What is placed by a child is placed by its parent. -/
theorem places_node_iff {facet : Facet} {children : List Tree} :
    (node facet children).Places above? p ↔
      p = ⟨above?, facet⟩ ∨ ∃ child ∈ children, child.Places (some facet.key) p := by
  constructor
  · rintro (rfl | ⟨level, inner, stands, child, member, rfl⟩)
    · exact .inl rfl
    · cases stands with
      | root => exact .inr ⟨child, member, .inl rfl⟩
      | deeper outer inside => exact .inr ⟨_, outer, .inr ⟨_, inner, inside, child, member, rfl⟩⟩
  · rintro (rfl | ⟨child, member, rfl | ⟨level, inner, inside, grandchild, below, rfl⟩⟩)
    · exact .inl rfl
    · exact .inr ⟨0, _, .root _, child, member, rfl⟩
    · exact .inr ⟨level + 1, inner, .deeper member inside, grandchild, below, rfl⟩

mutual

theorem mem_placements_iff (above? : Option Key) : (tree : Tree) →
    (p ∈ tree.placements above? ↔ tree.Places above? p)
  | node facet children => by
      rw [placements, List.mem_cons, mem_placementsAll_iff (some facet.key) children,
        places_node_iff]

/-- **The placements of trees are their nodes with the keys above them.** -/
theorem mem_placementsAll_iff (above? : Option Key) : (trees : List Tree) →
    (p ∈ placementsAll above? trees ↔ ∃ tree ∈ trees, tree.Places above? p)
  | [] => by simp [placementsAll]
  | tree :: rest => by
      rw [placementsAll, List.mem_append, mem_placements_iff above? tree,
        mem_placementsAll_iff above? rest]
      simp only [List.mem_cons, exists_eq_or_imp]

end

theorem NodeAt.child {level : Nat} {node child : Tree} (stands : tree.NodeAt level node)
    (member : child ∈ node.children) : tree.NodeAt (level + 1) child := by
  induction stands with
  | root tree =>
      cases tree
      exact .deeper member (.root child)
  | deeper outer inside ih => exact .deeper outer (ih member)

/-- Every node is placed. -/
theorem NodeAt.places {level : Nat} {node : Tree} (stands : tree.NodeAt level node)
    (above? : Option Key) : ∃ parent?, tree.Places above? ⟨parent?, node.facet⟩ := by
  induction stands generalizing above? with
  | root tree => exact ⟨above?, .inl rfl⟩
  | @deeper facet children child level node member inside ih =>
      obtain ⟨parent?, placed⟩ := ih (some facet.key)
      exact ⟨parent?, places_node_iff.2 (.inr ⟨child, member, placed⟩)⟩

/-- Whatever is placed is a node. -/
theorem Places.exists_nodeAt (placed : tree.Places above? p) :
    ∃ level node, tree.NodeAt level node ∧ node.facet = p.facet := by
  rcases placed with rfl | ⟨level, node, stands, child, member, rfl⟩
  · exact ⟨0, tree, .root tree, rfl⟩
  · exact ⟨level + 1, child, stands.child member, rfl⟩

/-! ## Lawful trees -/

/-- What the trees of a forest have to obey. -/
structure Lawful (trees : List Tree) : Prop where
  /-- The key of a facet is the parent of each key right below. -/
  parents : ∀ root ∈ trees, ∀ level node, root.NodeAt level node →
    ∀ child ∈ node.children, child.facet.key.parent? = some node.facet.key
  /-- Where there is a list of search texts, it has some. -/
  texts : ∀ root ∈ trees, ∀ level node, root.NodeAt level node →
    ∀ scope, node.facet.texts.get? scope ≠ some []
  /-- No key stands at two nodes. -/
  keys : (keysAll trees).Nodup

theorem lawful_iff_placements :
    Lawful trees ↔
      (∀ p ∈ placementsAll none trees, p.Lawful) ∧
        ((placementsAll none trees).map fun p => p.facet.key).Nodup := by
  rw [map_key_placementsAll]
  constructor
  · intro lawful
    refine ⟨fun p placed => ?_, lawful.keys⟩
    obtain ⟨root, member, rfl | ⟨level, node, stands, child, below, rfl⟩⟩ :=
      (mem_placementsAll_iff none trees).1 placed
    · exact ⟨nofun, lawful.texts root member 0 root (.root root)⟩
    · refine ⟨?_, lawful.texts root member (level + 1) child (stands.child below)⟩
      rintro parent ⟨⟩
      exact lawful.parents root member level node stands child below
  · rintro ⟨placed, nodup⟩
    refine ⟨fun root member level node stands child below => ?_,
      fun root member level node stands => ?_, nodup⟩
    · have place : (⟨some node.facet.key, child.facet⟩ : Placement) ∈ placementsAll none trees :=
        (mem_placementsAll_iff none trees).2
          ⟨root, member, .inr ⟨level, node, stands, child, below, rfl⟩⟩
      exact (placed _ place).parent _ rfl
    · obtain ⟨parent?, place⟩ := stands.places none
      exact (placed _ ((mem_placementsAll_iff none trees).2 ⟨root, member, place⟩)).texts

/-- The rules ask nothing of the order of trees. -/
theorem lawful_congr {others : List Tree}
    (moved : (placementsAll none trees).Perm (placementsAll none others)) :
    Lawful trees ↔ Lawful others := by
  rw [lawful_iff_placements, lawful_iff_placements, (moved.map fun p => p.facet.key).nodup_iff]
  simp only [moved.mem_iff]

/-- Along a path down each key has one level more. -/
theorem NodeAt.setLevels {level : Nat} {node : Tree} (stands : tree.NodeAt level node)
    (parents : ∀ level node, tree.NodeAt level node →
      ∀ child ∈ node.children, child.facet.key.parent? = some node.facet.key) :
    node.facet.key.setLevels = tree.facet.key.setLevels + level := by
  induction stands with
  | root tree => rw [Nat.add_zero]
  | @deeper facet children child level node member inside ih =>
      have first := Key.setLevels_parent? (parents 0 _ (.root _) child member)
      have rest := ih fun level node stands => parents (level + 1) node (.deeper member stands)
      rw [rest, first]
      show facet.key.setLevels + 1 + level = facet.key.setLevels + (level + 1)
      omega

/-- **No node of lawful trees is more than three levels below its root.** -/
theorem Lawful.level_le (lawful : Lawful trees) {root : Tree} (member : root ∈ trees) {level : Nat}
    {node : Tree} (stands : root.NodeAt level node) : level ≤ 3 := by
  have grown := stands.setLevels (lawful.parents root member)
  have := node.facet.key.setLevels_le
  omega

end Tree

end FacetedSearch.Facet
