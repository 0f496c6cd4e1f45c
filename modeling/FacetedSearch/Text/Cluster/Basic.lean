/-
# FacetedSearch.Text.Cluster.Basic -- characters as a reader sees them

What a reader takes for one character may be a cluster of several: a letter with its accents, a
Hangul syllable spelled in letters, consonants joined to a conjunct, pictographs joined to one, a
flag.  A text is read from the left; what was read last (`Context`) and what the next character does
(`Role`) decide whether that one joins (`Context.joins`).  Clusters cut a text and drop nothing
(`flatten_clusters`).
-/
import FacetedSearch.Text.Cluster.Role
import FacetedSearch.Text.Pieces

namespace FacetedSearch.Text

set_option autoImplicit false

namespace Cluster

/-- What has been read, as far as it matters to the next character. -/
inductive Context where
  /-- Nothing, or a control: whatever follows begins a cluster. -/
  | closed
  | carriageReturn
  /-- A character that only marks join. -/
  | plain
  /-- A sign that waits for its character. -/
  | prepended
  /-- Half a flag. -/
  | flagLetter
  /-- A Hangul syllable without a vowel. -/
  | lead
  /-- A Hangul syllable up to a vowel. -/
  | vowel
  /-- A Hangul syllable up to its end. -/
  | trail
  /-- A consonant and its accents. -/
  | consonant
  /-- A consonant and its accents, a linker among them. -/
  | linkedConsonant
  /-- A pictograph and its accents. -/
  | pictograph
  /-- A pictograph, its accents and a joiner. -/
  | joinedPictograph
  deriving DecidableEq, Repr

/-- The next character, of this role, joins the cluster that was read last. -/
def Context.joins : Context → Role → Bool
  | context, .lineFeed => context == .carriageReturn
  | _, .carriageReturn | _, .control | .closed, _ | .carriageReturn, _ => false
  | _, .accent | _, .nonJoiner | _, .joiner | _, .linker | _, .spacingMark => true
  | .prepended, _ => true
  | .flagLetter, .flagLetter => true
  | .lead, .lead | .lead, .vowel | .lead, .openSyllable | .lead, .closedSyllable => true
  | .vowel, .vowel | .vowel, .trail => true
  | .trail, .trail => true
  | .linkedConsonant, .consonant => true
  | .joinedPictograph, .pictograph => true
  | _, _ => false

/-- What has been read once a character of this role is read, too. -/
def Context.next : Context → Role → Context
  | _, .carriageReturn => .carriageReturn
  | _, .lineFeed | _, .control => .closed
  | .consonant, .accent | .consonant, .joiner => .consonant
  | .consonant, .linker => .linkedConsonant
  | .linkedConsonant, .accent | .linkedConsonant, .joiner | .linkedConsonant, .linker =>
    .linkedConsonant
  | .pictograph, .accent | .pictograph, .nonJoiner | .pictograph, .linker => .pictograph
  | .pictograph, .joiner => .joinedPictograph
  | .flagLetter, .flagLetter => .plain
  | _, .prepended => .prepended
  | _, .flagLetter => .flagLetter
  | _, .lead => .lead
  | _, .vowel | _, .openSyllable => .vowel
  | _, .trail | _, .closedSyllable => .trail
  | _, .consonant => .consonant
  | _, .pictograph => .pictograph
  | _, _ => .plain

/-- The clusters of the rest of a text.  The first of them goes on from the one that was read last,
and is empty if nothing joins that one. -/
def piecesFrom : Context → List Char → List (List Char)
  | _, [] => [[]]
  | context, c :: rest =>
    let pieces := prependChar c (piecesFrom (context.next (role c)) rest)
    if context.joins (role c) then pieces else [] :: pieces

theorem flatten_piecesFrom (context : Context) (text : List Char) :
    (piecesFrom context text).flatten = text := by
  induction text generalizing context with
  | nil => rfl
  | cons c rest ih =>
    simp only [piecesFrom]
    split <;> simp [flatten_prependChar, ih]

end Cluster

/-- The clusters of a text, in order. -/
def clusters (text : List Char) : List (List Char) :=
  (Cluster.piecesFrom .closed text).filter fun cluster => !cluster.isEmpty

/-- Nothing is lost between clusters. -/
theorem flatten_clusters (text : List Char) : (clusters text).flatten = text := by
  rw [clusters, List.flatten_filter_not_isEmpty, Cluster.flatten_piecesFrom]

end FacetedSearch.Text
