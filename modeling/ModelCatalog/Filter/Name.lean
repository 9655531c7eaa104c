/-!
The names under which filters are written, as `KEY=VALUE` texts and as fields of stored filters.
-/

namespace ModelCatalog

inductive FilterName where
  | tagsInclude
  | tagsExclude
  | inProject
  | latDays
  | category
  | format
  | minRating
  | dateAddedStart
  | dateAddedEnd
  | lastViewedStart
  | lastViewedEnd
  | minFileSize
  | maxFileSize
  deriving DecidableEq, Repr

namespace FilterName

def all : List FilterName :=
  [tagsInclude, tagsExclude, inProject, latDays, category, format, minRating, dateAddedStart,
    dateAddedEnd, lastViewedStart, lastViewedEnd, minFileSize, maxFileSize]

def text : FilterName → String
  | tagsInclude => "tags_include"
  | tagsExclude => "tags_exclude"
  | inProject => "in_project"
  | latDays => "lat_days"
  | category => "category"
  | format => "format"
  | minRating => "min_rating"
  | dateAddedStart => "date_added_start"
  | dateAddedEnd => "date_added_end"
  | lastViewedStart => "last_viewed_start"
  | lastViewedEnd => "last_viewed_end"
  | minFileSize => "min_file_size"
  | maxFileSize => "max_file_size"

def ofText? (text : String) : Option FilterName := all.find? fun name => name.text == text

theorem ofText?_text (name : FilterName) : ofText? name.text = some name := by
  cases name <;> decide

end FilterName

end ModelCatalog
