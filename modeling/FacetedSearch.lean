import FacetedSearch.Code.Declaration
import FacetedSearch.Main
import FacetedSearch.Session
import FacetedSearch.Proofs.Link.Parameters
import FacetedSearch.Proofs.Link.Entries
import FacetedSearch.Proofs.Catalog.Built
import FacetedSearch.Proofs.Link.Kept
import FacetedSearch.Proofs.Link.Changes
import FacetedSearch.Proofs.Link.RoundTrip
import FacetedSearch.Proofs.Link.Sound
import FacetedSearch.Proofs.Link.Decoded
import FacetedSearch.Proofs.Link.Settings
import FacetedSearch.Proofs.Link.Composition
import FacetedSearch.Proofs.Session.Invariant
import FacetedSearch.Proofs.Text.Outermost
import FacetedSearch.Proofs.Query.Reading
import FacetedSearch.Proofs.Link.Stale
import FacetedSearch.Proofs.Link.Damage
import FacetedSearch.Proofs.Link.ScopeCodes
import FacetedSearch.Proofs.Link.Components
import FacetedSearch.Proofs.Link.Accounts
import FacetedSearch.Proofs.Catalog.Sorting
import FacetedSearch.Proofs.Catalog.Facets
import FacetedSearch.Proofs.Link.Addresses
import FacetedSearch.Proofs.Json.Spelling
import FacetedSearch.Proofs.Json.Reading
import FacetedSearch.Proofs.Catalog.Written
import FacetedSearch.Proofs.Catalog.Loading
import FacetedSearch.Proofs.Catalog.Sources
import FacetedSearch.Proofs.Catalog.Nodes
import FacetedSearch.Proofs.Catalog.Breaches
import FacetedSearch.Proofs.Catalog.Index
import FacetedSearch.Proofs.Catalog.Arrangement
import FacetedSearch.Proofs.Query.Skipping
import FacetedSearch.Proofs.Query.Glue
import FacetedSearch.Proofs.Query.Layout
import FacetedSearch.Proofs.Link.Normal
import FacetedSearch.Proofs.Facet.KeyTexts
import FacetedSearch.Proofs.Facet.Hierarchy
import FacetedSearch.Proofs.Link.Escaping
import FacetedSearch.Proofs.Text.Words
import FacetedSearch.Proofs.Scope.Tables
import FacetedSearch.Proofs.Selection.Additions
import FacetedSearch.Proofs.Selection.Removals
import FacetedSearch.Proofs.Code.Declarations
import FacetedSearch.Proofs.Json.Compact
import FacetedSearch.Proofs.Selection.Faithful
