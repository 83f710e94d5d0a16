import CatalogQuery.Geometry.Wkt.Leading
import CatalogQuery.Json.Fragments
import CatalogQuery.Json.Settings
import CatalogQuery.Json.Values
import CatalogQuery.Predicate.Session
import CatalogQuery.Predicate.Transcript
import CatalogQuery.Proofs.Absence
import CatalogQuery.Proofs.BarePoints
import CatalogQuery.Proofs.Comparisons
import CatalogQuery.Proofs.DateComparisons
import CatalogQuery.Proofs.DistanceSort
import CatalogQuery.Proofs.DistinctTexts
import CatalogQuery.Proofs.Enclosure
import CatalogQuery.Proofs.EqualityTerms
import CatalogQuery.Proofs.Escaping
import CatalogQuery.Proofs.InstantTexts
import CatalogQuery.Proofs.Meaning
import CatalogQuery.Proofs.Merging
import CatalogQuery.Proofs.Parameters
import CatalogQuery.Proofs.PathGroups
import CatalogQuery.Proofs.Precedence
import CatalogQuery.Proofs.RangeBounds
import CatalogQuery.Proofs.Refusals
import CatalogQuery.Proofs.RelativeWindow
import CatalogQuery.Proofs.Runs
import CatalogQuery.Proofs.SearchedFields
import CatalogQuery.Proofs.ShapeTexts
import CatalogQuery.Proofs.Structure
import CatalogQuery.Proofs.Wildcards
import CatalogQuery.Text.Plain
import CatalogQuery.Text.Utf8
import CatalogQuery.Time.Reading
import CatalogQuery.Proofs.Namespaces
import CatalogQuery.Proofs.Qualifiers
import CatalogQuery.Proofs.PathFilters
import CatalogQuery.Proofs.Reports
import CatalogQuery.Proofs.FuzzyTerms
import CatalogQuery.Proofs.RangeReadings
import CatalogQuery.Json.Written
import CatalogQuery.Proofs.DocumentTexts
