/-
# FacetedSearch.Code.Kebab -- names in kebab case

A name is cut into words at `_`, `-` and space, which are dropped, before an upper-case letter that
follows a lower-case one, between a letter and an ASCII digit in either order, and before the last
capital of an acronym that a lower-case letter follows: `HTTPServer2` has the words `HTTP`, `Server`
and `2`.  The units are clusters of characters (`Text.clusters`): a letter keeps its accents, and a
digit or a delimiter with an accent is neither.  The words in lower case, joined by `-`, are the
code of the name.
-/
import FacetedSearch.Text.Cluster.Basic
import FacetedSearch.Text.LetterCase

namespace FacetedSearch.Code

set_option autoImplicit false

/-- Clusters between words that belong to none. -/
def isDelimiter (cluster : List Char) : Bool :=
  cluster == ['_'] || cluster == ['-'] || cluster == [' ']

/-- A cluster with another lower case, which is its own upper case. -/
def isUpper (cluster : List Char) : Bool :=
  cluster.any Text.isUpper && !cluster.any fun c => Text.isLower c || Text.isTitle c

/-- A cluster with another upper case, which is its own lower case. -/
def isLower (cluster : List Char) : Bool :=
  cluster.any Text.isLower && !cluster.any fun c => Text.isUpper c || Text.isTitle c

/-- Clusters in upper and lower case; letters without case separate nothing. -/
def isLetter (cluster : List Char) : Bool := isUpper cluster || isLower cluster

/-- A cluster of ASCII digits. -/
def isDigit (cluster : List Char) : Bool := cluster.all Char.isDigit

/-- A word ends between `previous` and `current`, given the cluster after them. -/
def isBoundary (previous current : List Char) (next : Option (List Char)) : Bool :=
  (isLower previous && isUpper current) ||
    (isLetter previous && isDigit current) ||
    (isDigit previous && isLetter current) ||
    (isUpper previous && isUpper current && next.any isLower)

/-- Puts a cluster in front of the first word. -/
def addToWords (cluster : List Char) : List (List Char) → List (List Char)
  | [] => [cluster]
  | word :: words => (cluster ++ word) :: words

/-- The words of the rest of a name, the first of which goes on from `previous`. -/
def wordsFrom : Option (List Char) → List (List Char) → List (List Char)
  | _, [] => [[]]
  | previous, cluster :: rest =>
    let words := wordsFrom (some cluster) rest
    if isDelimiter cluster then [] :: words
    else if previous.any fun p => isBoundary p cluster rest.head? then
      [] :: addToWords cluster words
    else addToWords cluster words

/-- The name in kebab case. -/
def kebab (name : String) : String :=
  let words := (wordsFrom none (Text.clusters name.toList)).filter fun word => !word.isEmpty
  String.ofList (['-'].intercalate (words.map Text.lower))

end FacetedSearch.Code
