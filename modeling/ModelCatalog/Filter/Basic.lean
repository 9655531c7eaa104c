import ModelCatalog.Text.Character
import ModelCatalog.Text.Lowercase

/-!
Filters: what a search demands of a model beside its text. A `FilterSet` holds at most one demand of
each kind, tags excepted, which add up.
-/

namespace ModelCatalog

inductive Choice where
  | one (value : String)
  | many (values : List String)
  deriving DecidableEq, Repr

namespace Choice

def isEmpty : Choice → Bool
  | one value => value.isEmpty
  | many values => values.isEmpty

def nonempty? (choice : Choice) : Option Choice := if choice.isEmpty then none else some choice

end Choice

inductive FilterKind where
  | tagsInclude (tags : List String)
  | tagsExclude (tags : List String)
  | inProject (value : Bool)
  | latDays (days : UInt32)
  | category (choice : Choice)
  | format (choice : Choice)
  | minRating (rating : Int64)
  | dateAddedStart (bound : String)
  | dateAddedEnd (bound : String)
  | lastViewedStart (bound : String)
  | lastViewedEnd (bound : String)
  | minFileSize (size : Int64)
  | maxFileSize (size : Int64)
  deriving DecidableEq, Repr

structure FilterSet where
  tagsInclude : List String := []
  tagsExclude : List String := []
  inProject : Option Bool := none
  /-- Not viewed within the last so many days. -/
  latDays : Option UInt32 := none
  category : Option Choice := none
  format : Option Choice := none
  minRating : Option Int64 := none
  dateAddedStart : Option String := none
  dateAddedEnd : Option String := none
  lastViewedStart : Option String := none
  lastViewedEnd : Option String := none
  minFileSize : Option Int64 := none
  maxFileSize : Option Int64 := none
  deriving DecidableEq, Repr, Inhabited

/-- Adds a trimmed tag at the end, unless it is blank or there up to letter case. -/
def addTag (tags : List String) (tag : String) : List String :=
  let tag := trimmed tag
  if tag.isEmpty || tags.any (fun present => lowered present == lowered tag) then tags
  else tags ++ [tag]

def addTags (tags more : List String) : List String := more.foldl addTag tags

def boundOf (text : String) : Option String :=
  let text := trimmed text
  if text.isEmpty then none else some text

namespace FilterSet

/-- Tags add up; a demand of any other kind replaces the earlier one, and an empty choice or a blank
bound removes it. -/
def insert (filters : FilterSet) : FilterKind → FilterSet
  | .tagsInclude tags => { filters with tagsInclude := addTags filters.tagsInclude tags }
  | .tagsExclude tags => { filters with tagsExclude := addTags filters.tagsExclude tags }
  | .inProject value => { filters with inProject := some value }
  | .latDays days => { filters with latDays := some days }
  | .category choice => { filters with category := choice.nonempty? }
  | .format choice => { filters with format := choice.nonempty? }
  | .minRating rating => { filters with minRating := some rating }
  | .dateAddedStart bound => { filters with dateAddedStart := boundOf bound }
  | .dateAddedEnd bound => { filters with dateAddedEnd := boundOf bound }
  | .lastViewedStart bound => { filters with lastViewedStart := boundOf bound }
  | .lastViewedEnd bound => { filters with lastViewedEnd := boundOf bound }
  | .minFileSize size => { filters with minFileSize := some size }
  | .maxFileSize size => { filters with maxFileSize := some size }

def ofKinds (kinds : List FilterKind) : FilterSet := kinds.foldl insert {}

/-- The caller's filters with those of a query laid over them: tags add up, and membership and
recency are taken from the query where it states them. -/
def mergedWith (filters query : FilterSet) : FilterSet :=
  { filters with
    tagsInclude := addTags filters.tagsInclude query.tagsInclude
    tagsExclude := addTags filters.tagsExclude query.tagsExclude
    inProject := query.inProject.or filters.inProject
    latDays := query.latDays.or filters.latDays }

def isEmpty (filters : FilterSet) : Bool :=
  filters.tagsInclude.isEmpty && filters.tagsExclude.isEmpty && filters.inProject.isNone
    && filters.latDays.isNone && filters.category.all Choice.isEmpty
    && filters.format.all Choice.isEmpty && filters.minRating.isNone
    && filters.dateAddedStart.isNone && filters.dateAddedEnd.isNone
    && filters.lastViewedStart.isNone && filters.lastViewedEnd.isNone
    && filters.minFileSize.isNone && filters.maxFileSize.isNone

end FilterSet

end ModelCatalog
