import CatalogQuery.Main
import CatalogQuery.Proofs.Query.Words
import CatalogQuery.Proofs.Query.Grammar
import CatalogQuery.Proofs.Query.Levels
import CatalogQuery.Proofs.Query.Exactness
import CatalogQuery.Proofs.Query.Literals
import CatalogQuery.Proofs.Query.Spelling
import CatalogQuery.Proofs.Query.Nesting
import CatalogQuery.Proofs.Query.RoundTrip
import CatalogQuery.Proofs.Query.Brackets
import CatalogQuery.Proofs.Query.Composition
import CatalogQuery.Proofs.Query.Chains
import CatalogQuery.Proofs.Query.Unlimited
import CatalogQuery.Proofs.Query.Simulation
import CatalogQuery.Proofs.Query.Places
import CatalogQuery.Proofs.Query.Spacing
import CatalogQuery.Proofs.Query.Colons
import CatalogQuery.Proofs.Query.Whitespace
import CatalogQuery.Proofs.Text.Blank
import CatalogQuery.Proofs.Text.LetterCase
import CatalogQuery.Proofs.Filter.LetterCase
import CatalogQuery.Proofs.Query.LetterCase
import CatalogQuery.Proofs.ActiveFilter
import CatalogQuery.Proofs.Terminal.Session
import CatalogQuery.Proofs.Query.Limit
import CatalogQuery.Proofs.Filter.Verbatim
import CatalogQuery.Proofs.Filter.Fields
import CatalogQuery.Proofs.Text.ByteOrder
import CatalogQuery.Proofs.Dictionary
import CatalogQuery.Proofs.KeySet
import CatalogQuery.Proofs.Query.SingleLiteral
import CatalogQuery.Proofs.Config
import CatalogQuery.Proofs.Filter.Bracketed
import CatalogQuery.Proofs.Filter.Size
import CatalogQuery.Proofs.Terminal.Outline
import CatalogQuery.Proofs.Json.Strings
import CatalogQuery.Proofs.Filter.Json
import CatalogQuery.Proofs.Query.Consumption
import CatalogQuery.Proofs.Query.Loops
import CatalogQuery.Proofs.Query.Descent
