import ModelCatalog.Json.Value
import ModelCatalog.Store.Basic

/-!
Reports on a store: how much it holds, and whether its indexes are as long as their tables.
-/

namespace ModelCatalog

structure StoreStats where
  modelCount : Nat
  metadataCount : Nat
  projectCount : Nat
  projectLinkCount : Nat
  historyCount : Nat
  savedSearchCount : Nat
  databaseBytes : Nat
  deriving DecidableEq, Repr

def StoreStats.toJson (stats : StoreStats) : Json :=
  .object [("db_size_bytes", .int stats.databaseBytes), ("history_count", .int stats.historyCount),
    ("metadata_count", .int stats.metadataCount), ("model_count", .int stats.modelCount),
    ("project_count", .int stats.projectCount),
    ("project_link_count", .int stats.projectLinkCount),
    ("saved_search_count", .int stats.savedSearchCount)]

structure ConsistencyReport where
  modelCount : Nat
  modelIndexCount : Nat
  metadataCount : Nat
  metadataIndexCount : Nat
  deriving DecidableEq, Repr

namespace ConsistencyReport

def modelsOk (report : ConsistencyReport) : Bool := report.modelCount == report.modelIndexCount

def metadataOk (report : ConsistencyReport) : Bool :=
  report.metadataCount == report.metadataIndexCount

def toJson (report : ConsistencyReport) : Json :=
  .object [("metadata_count", .int report.metadataCount),
    ("metadata_fts_count", .int report.metadataIndexCount),
    ("model_count", .int report.modelCount), ("models_fts_count", .int report.modelIndexCount)]

end ConsistencyReport

namespace Store

/-- What the store holds; a store in memory takes no bytes of a file. -/
def stats (store : Store) (databaseBytes : Nat) : StoreStats :=
  { modelCount := store.models.length, metadataCount := store.metadata.length
    projectCount := store.projects.length, projectLinkCount := store.links.length
    historyCount := store.history.length, savedSearchCount := store.saved.length, databaseBytes }

def consistency (store : Store) : ConsistencyReport :=
  { modelCount := store.models.length, modelIndexCount := store.modelIndex.length
    metadataCount := store.metadata.length, metadataIndexCount := store.metadataIndex.length }

end Store

end ModelCatalog
