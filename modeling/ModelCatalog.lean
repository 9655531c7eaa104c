import ModelCatalog.Files.Tree
import ModelCatalog.Main
import ModelCatalog.Proofs.Catalog.Tables
import ModelCatalog.Proofs.Catalog.Chronicle
import ModelCatalog.Proofs.Catalog.LineCodec
import ModelCatalog.Proofs.Engine.Calls
import ModelCatalog.Proofs.Engine.Degrading
import ModelCatalog.Proofs.Engine.Protocol
import ModelCatalog.Proofs.Highlight.Fallback
import ModelCatalog.Proofs.Highlight.Searched
import ModelCatalog.Proofs.Query.NormalForm
import ModelCatalog.Proofs.Query.QuotedRuns
import ModelCatalog.Proofs.TextMatch.NormalForm
import ModelCatalog.Proofs.Store.Import
import ModelCatalog.Proofs.Store.Indexes
import ModelCatalog.Proofs.Store.Reachable
import ModelCatalog.Proofs.Store.Rebuilding
import ModelCatalog.Proofs.Store.Replay
import ModelCatalog.Proofs.Store.SavedMap
import ModelCatalog.Proofs.Store.Stamps
import ModelCatalog.Proofs.Store.Suggestions
import ModelCatalog.Proofs.Store.Transfer
import ModelCatalog.Proofs.Search.Answer
import ModelCatalog.Proofs.Search.Undegraded
import ModelCatalog.Proofs.Search.Statements
import ModelCatalog.Proofs.Search.Tagging
import ModelCatalog.Proofs.Search.Words
import ModelCatalog.Proofs.Time.Written
import ModelCatalog.Proofs.Time.Embedding
import ModelCatalog.Proofs.Search.Recency
import ModelCatalog.Proofs.Search.Slicing
import ModelCatalog.Proofs.Decimal.Rounding
import ModelCatalog.Proofs.Time.Meaning
import ModelCatalog.Proofs.Search.DateBounds
import ModelCatalog.Proofs.Filter.Merging
import ModelCatalog.Proofs.Store.KeywordSuggestions
import ModelCatalog.Proofs.Store.Viewing
