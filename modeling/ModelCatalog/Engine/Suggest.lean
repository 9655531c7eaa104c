import ModelCatalog.Engine.Statement

/-!
Suggestions: filenames, titles and keywords that begin with what has been typed.
-/

namespace ModelCatalog

namespace Suggestion

def escape (text : List Char) : List Char :=
  text.flatMap fun c => if c = '%' ∨ c = '_' ∨ c = '\\' then ['\\', c] else [c]

def startPattern (typed : List Char) : String := String.ofList (escape typed ++ ['%'])

def anywherePattern (typed : List Char) : String := String.ofList ('%' :: escape typed ++ ['%'])

def keywordsFor (typed : List Char) (keywords : String) : List String :=
  let pieces := (keywords.toList.splitOn ',').map Text.trim
  let fitting := pieces.filter fun piece =>
    !piece.isEmpty && (Text.lower typed).isPrefixOf (Text.lower piece)
  fitting.map String.ofList

/-- The order of suggestions: the exact beginning first, then by lower case, then by text. -/
def precedes (typed : List Char) (a b : String) : Bool :=
  let exactA := typed.isPrefixOf a.toList
  let exactB := typed.isPrefixOf b.toList
  if exactA ≠ exactB then exactA
  else if lowered a ≠ lowered b then decide (lowered a < lowered b)
  else decide (a ≤ b)

def rank (typed : List Char) (limit : UInt64) (found : List String) : List String :=
  (found.eraseDups.mergeSort (precedes typed)).take limit.toNat

end Suggestion

namespace Engine

variable {σ : Type}

def completions (backend : Backend σ) (typed : List Char) : Session σ (List String) := do
  let start := Suggestion.startPattern typed
  let filenames ← backend.query (.filenamesLike start)
  let titles ← backend.query (.titlesLike start)
  let keywords ← backend.query (.keywordsLike (Suggestion.anywherePattern typed))
  return filenames.filterMap (fun record => record.text? "filename")
    ++ titles.filterMap (fun record => record.text? "title")
    ++ (keywords.filterMap fun record => record.text? "keywords").flatMap
      (Suggestion.keywordsFor typed)

/-- Suggestions for two typed characters or more. A store that fails has none. -/
def suggest (engine : Engine σ) (text : String) (limit : Option UInt64) :
    Session σ (List String) :=
  let typed := Text.trim text.toList
  let limit := limit.getD engine.config.suggestionLimit
  if typed.length < 2 || limit == 0 then pure []
  else
    tryCatch (do return Suggestion.rank typed limit (← completions engine.backend typed))
      fun _ => pure []

end Engine

end ModelCatalog
