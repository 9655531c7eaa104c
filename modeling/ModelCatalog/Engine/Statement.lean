import ModelCatalog.Config
import ModelCatalog.Error
import ModelCatalog.Search.Plan
import ModelCatalog.Sql.Record

/-!
What the engine asks a store for, and the SQL in which it asks. An engine consists of a backend that
answers, the settings, and the time of the call.
-/

namespace ModelCatalog

inductive Question where
  | countFound (plan : SearchPlan)
  | foundPage (plan : SearchPlan)
  /-- The history, newest first. -/
  | recentSearches (limit : UInt64)
  | savedSearches
  | savedSearch (name : String)
  | savedSearchId (name : String)
  | filenamesLike (pattern : String)
  | titlesLike (pattern : String)
  | keywordsLike (pattern : String)
  deriving Repr

inductive Change where
  | recordSearch (query filters : String) (resultCount : Int64) (createdAt : String)
  /-- Drops the history before a time stamp. -/
  | clearHistory (cutoff : String)
  /-- Adds a saved search, or replaces the one of that name. -/
  | saveSearch (name query filters createdAt : String)
  | deleteSavedSearch (id : Int64)
  deriving Repr

def Question.fragment : Question → Sql.Fragment
  | countFound plan => plan.count
  | foundPage plan => plan.page
  | recentSearches limit =>
    ⟨"SELECT id, query, filters, result_count, created_at FROM search_history\n"
      ++ "             ORDER BY created_at DESC, id DESC LIMIT ?", [.integer limit.toInt64]⟩
  | savedSearches =>
    .raw ("SELECT id, name, query, filters, created_at FROM saved_searches "
      ++ "ORDER BY name ASC, id ASC")
  | savedSearch name =>
    ⟨"SELECT id, name, query, filters, created_at FROM saved_searches WHERE name = ?", [.text name]⟩
  | savedSearchId name => ⟨"SELECT id FROM saved_searches WHERE name = ?", [.text name]⟩
  | filenamesLike pattern =>
    ⟨"SELECT DISTINCT filename FROM models WHERE filename LIKE ? ESCAPE '\\'", [.text pattern]⟩
  | titlesLike pattern =>
    ⟨"SELECT DISTINCT title FROM model_metadata WHERE title LIKE ? ESCAPE '\\'", [.text pattern]⟩
  | keywordsLike pattern =>
    ⟨"SELECT DISTINCT keywords FROM model_metadata WHERE keywords LIKE ? ESCAPE '\\'",
      [.text pattern]⟩

def Change.fragment : Change → Sql.Fragment
  | recordSearch query filters resultCount createdAt =>
    ⟨"INSERT INTO search_history (query, filters, result_count, created_at) VALUES (?, ?, ?, ?)",
      [.text query, .text filters, .integer resultCount, .text createdAt]⟩
  | clearHistory cutoff =>
    ⟨"DELETE FROM search_history WHERE julianday(created_at) < julianday(?)", [.text cutoff]⟩
  | saveSearch name query filters createdAt =>
    ⟨"INSERT INTO saved_searches (name, query, filters, created_at) VALUES (?, ?, ?, ?)\n"
      ++ "         ON CONFLICT(name) DO UPDATE SET\n"
      ++ "           query = excluded.query,\n"
      ++ "           filters = excluded.filters,\n"
      ++ "           created_at = excluded.created_at",
      [.text name, .text query, .text filters, .text createdAt]⟩
  | deleteSavedSearch id => ⟨"DELETE FROM saved_searches WHERE id = ?", [.integer id]⟩

/-- A computation that talks to a backend with state `σ`. What it changed stays changed when it
fails. -/
abbrev Session (σ : Type) := ExceptT SearchError (StateM σ)

structure Backend (σ : Type) where
  query : Question → Session σ (List Sql.Record)
  /-- Answers with the number of rows changed. -/
  execute : Change → Session σ Nat
  rebuild : Session σ Unit

structure Engine (σ : Type) where
  backend : Backend σ
  config : Config
  now : Time.Instant

end ModelCatalog
