import ModelCatalog.Proofs.Store.Suggestions
import ModelCatalog.Proofs.Text.Beginnings

/-!
Which keywords are suggested. A field of keywords is only read if what has been typed stands in it up to
the case of ASCII letters; the keywords in it are then those that begin with it in lower case. A keyword
that passes both tests by itself is never missed.
-/

namespace ModelCatalog

section Delimiting

variable {α : Type} {delimiter : α}

theorem infix_intercalate {part : List α} {parts : List (List α)} (member : part ∈ parts) :
    part <:+: [delimiter].intercalate parts := by
  induction parts with
  | nil => cases member
  | cons first rest ih =>
    cases rest with
    | nil =>
      simp [List.mem_singleton.mp member]
    | cons next rest =>
      rw [List.intercalate_cons_cons]
      rcases List.mem_cons.mp member with rfl | later
      · rw [List.append_assoc]
        exact (List.prefix_append _ _).isInfix
      · exact (ih later).trans (List.suffix_append _ _).isInfix

theorem infix_of_mem_splitOn [BEq α] [LawfulBEq α] {part text : List α}
    (member : part ∈ text.splitOn delimiter) : part <:+: text := by
  have within : part <:+: [delimiter].intercalate (text.splitOn delimiter) :=
    infix_intercalate member
  rwa [List.intercalate_splitOn] at within

end Delimiting

namespace Suggestion

def IsListedIn (keyword keywords : String) : Prop :=
  keyword ≠ "" ∧ keyword.toList ∈ (keywords.toList.splitOn ',').map Text.trim

instance (keyword keywords : String) : Decidable (IsListedIn keyword keywords) :=
  inferInstanceAs (Decidable (_ ∧ _))

/-- What has been typed leads to the keyword, whatever else its field holds: in lower case it begins the
keyword, and it stands in it up to the case of ASCII letters. -/
structure LeadsTo (typed : List Char) (keyword : String) : Prop where
  begins : Text.lower typed <+: Text.lower keyword.toList
  occurs : Text.asciiLower typed <:+: Text.asciiLower keyword.toList

variable {typed : List Char} {keyword keywords : String}

theorem IsListedIn.isInfix (listed : IsListedIn keyword keywords) :
    keyword.toList <:+: keywords.toList := by
  obtain ⟨piece, member, trimmed⟩ := List.mem_map.mp listed.2
  obtain ⟨front, back, split, -, -⟩ := Text.exists_trim piece
  rw [trimmed] at split
  have within : keyword.toList <:+: piece := ⟨front, back, split.symm⟩
  exact within.trans (infix_of_mem_splitOn member)

theorem fits_anywhere_iff (noNul : Text.HasNoNul typed) :
    Text.fitsPattern (anywherePattern typed).toList keywords.toList = true ↔
      Text.compared typed <:+: Text.compared keywords.toList := by
  rw [anywherePattern, String.toList_ofList]
  exact Text.fitsPattern_anywhere_iff noNul _

namespace LeadsTo

theorem fits (leads : LeadsTo typed keyword) (listed : IsListedIn keyword keywords)
    (noNul : Text.HasNoNul keywords.toList) :
    Text.fitsPattern (anywherePattern typed).toList keywords.toList = true := by
  have within : Text.asciiLower typed <:+: Text.asciiLower keywords.toList :=
    leads.occurs.trans (listed.isInfix.map Char.toLower)
  have typedNoNul : Text.HasNoNul typed := by
    intro c member nul
    have low : c.toLower ∈ Text.asciiLower keywords.toList :=
      within.subset (List.mem_map_of_mem member)
    obtain ⟨d, inField, same⟩ := List.mem_map.mp low
    exact noNul d inField ((Text.toLower_compared same).1.mpr nul)
  rw [fits_anywhere_iff typedNoNul, Text.compared_eq typedNoNul, Text.compared_eq noNul]
  exact within.map Text.replaceNoncharacter

/-- A verbatim beginning of a keyword leads to it, unless it ends a word with a capital sigma that is
within the word in the keyword. -/
theorem iff_of_prefix (verbatim : typed <+: keyword.toList) :
    LeadsTo typed keyword ↔
      Text.KeepsFinalSigmas [] typed (keyword.toList.drop typed.length) := by
  obtain ⟨rest, whole⟩ := verbatim
  have begins := Text.lowerAfter_prefix_iff [] typed rest
  rw [whole] at begins
  rw [← whole, List.drop_left, ← begins]
  constructor
  · exact fun leads => leads.begins
  · intro low
    refine ⟨low, ?_⟩
    rw [← whole]
    exact ((List.prefix_append typed rest).map Char.toLower).isInfix

theorem iff_of_folds
    (folds : ∀ c ∈ typed ++ keyword.toList.take typed.length, Text.FoldsInAscii c) :
    LeadsTo typed keyword ↔ Text.lower typed <+: Text.lower keyword.toList := by
  constructor
  · exact fun leads => leads.begins
  · exact fun begins => ⟨begins, (Text.asciiLower_prefix_of_lower_prefix folds begins).isInfix⟩

end LeadsTo

end Suggestion

open Suggestion (LeadsTo IsListedIn)

namespace Store

def keywordFields (store : Store) : List String := store.metadata.filterMap MetadataRow.keywords

/-- The keywords that are suggested for a text of two characters or more, unless it makes a pattern too
long, for which there are none. Each one that the text leads to is among them, whatever else its field
holds; the others depend on the field. A verbatim beginning leads to the keyword if it keeps its final
sigmas, and a beginning in lower case if it folds as within ASCII. -/
theorem suggest_keywords (config : Config) (now present : Time.Instant) (store : Store) (text : String)
    (two : 2 ≤ (Text.trim text.toList).length) :
    let typed := Text.trim text.toList
    ∃ suggestions : List String,
      (∀ limit : Option UInt64, ((engine config now present).suggest text limit).run store =
        (.ok (suggestions.take (limit.getD config.suggestionLimit).toNat), store)) ∧
      (¬store.RefusesPattern typed →
        (∀ keywords ∈ store.keywordFields, Text.HasNoNul keywords.toList →
          ∀ keyword, IsListedIn keyword keywords → LeadsTo typed keyword → keyword ∈ suggestions) ∧
        (Text.HasNoNul typed → ∀ word, word ∈ suggestions ↔
          (word ∈ store.names ∧ Text.compared typed <+: Text.compared word.toList) ∨
          (Text.lower typed <+: Text.lower word.toList ∧
            ∃ keywords ∈ store.keywordFields, IsListedIn word keywords ∧
              Text.compared typed <:+: Text.compared keywords.toList))) ∧
      (store.RefusesPattern typed → suggestions = []) ∧
      ∀ keyword : String,
        (typed <+: keyword.toList → (LeadsTo typed keyword ↔
          Text.KeepsFinalSigmas [] typed (keyword.toList.drop typed.length))) ∧
        ((∀ c ∈ typed ++ keyword.toList.take typed.length, Text.FoldsInAscii c) →
          (LeadsTo typed keyword ↔ Text.lower typed <+: Text.lower keyword.toList)) := by
  intro typed
  by_cases refused : store.RefusesPattern typed
  · refine ⟨[], ?_, absurd refused, fun _ => rfl,
      fun keyword => ⟨LeadsTo.iff_of_prefix, LeadsTo.iff_of_folds⟩⟩
    intro limit
    rw [suggest_refused store config now present two refused, List.take_nil]
  obtain ⟨found, completes, sources⟩ := completions_run store refused present
  have inFields (keywords : String) : keywords ∈ store.keywordFields ↔
      ∃ row ∈ store.metadata, row.keywords = some keywords := List.mem_filterMap
  refine ⟨_, suggest_run store config now present two completes, fun _ => ⟨?leads, ?all⟩,
    fun long => absurd long refused, fun keyword => ⟨LeadsTo.iff_of_prefix, LeadsTo.iff_of_folds⟩⟩
  case leads =>
    intro keywords field noNul keyword listed leads
    obtain ⟨row, member, written⟩ := (inFields keywords).mp field
    rw [List.mem_mergeSort, List.mem_eraseDups, sources]
    exact .inr ⟨row, member, keywords, written, leads.fits listed noNul,
      Suggestion.mem_keywordsFor.mpr ⟨listed, leads.begins⟩⟩
  case all =>
    intro noNul word
    rw [List.mem_mergeSort, List.mem_eraseDups, sources, Suggestion.startPattern,
      String.toList_ofList, Text.fitsPattern_start_iff noNul]
    apply or_congr_right
    simp only [Suggestion.fits_anywhere_iff noNul, Suggestion.mem_keywordsFor, inFields]
    constructor
    · rintro ⟨row, member, keywords, written, fits, listed, begins⟩
      exact ⟨begins, keywords, ⟨row, member, written⟩, listed, fits⟩
    · rintro ⟨begins, keywords, ⟨row, member, written⟩, listed, fits⟩
      exact ⟨row, member, keywords, written, fits, listed, begins⟩

/-- A capital letter outside ASCII that has been typed in lower case does not lead to its keyword. -/
theorem suggest_keywords_capital :
    let now : Time.Instant := ⟨1700000000, 0⟩
    let entry (filePath keywords : String) : CatalogEntry :=
      { filename := "vase.stl", filePath, keywords := some keywords }
    let store := (({} : Store).after {} now now
      (.catalog (.upsert (entry "/a" "Été, gear") now))).after
      {} now now (.catalog (.upsert (entry "/b" "fragile,été ") now))
    2 ≤ (Text.trim " ét".toList).length ∧
      ∃ suggestions : List String,
        (∀ limit : Option UInt64, ((engine {} now now).suggest " ét" limit).run store =
          (.ok (suggestions.take (limit.getD ({} : Config).suggestionLimit).toNat), store)) ∧
        "été" ∈ suggestions ∧ "Été" ∉ suggestions := by
  intro now entry store
  have two : 2 ≤ (Text.trim " ét".toList).length := by decide
  obtain ⟨suggestions, answers, listed, -, forms⟩ := suggest_keywords {} now now store " ét" two
  have typed : Text.trim " ét".toList = "ét".toList := by decide
  rw [typed] at listed forms
  have short : ¬store.RefusesPattern "ét".toList := by
    rintro (⟨-, long⟩ | ⟨-, long⟩)
    · exact absurd long (by decide)
    · exact absurd long (by decide)
  obtain ⟨complete, all⟩ := listed short
  have leads : LeadsTo "ét".toList "été" := ((forms "été").1 (by decide)).mpr
    (Text.keepsFinalSigmas_of_not_mem (by decide))
  refine ⟨two, suggestions, answers,
    complete "fragile,été " (by decide) (by decide) "été" (by decide) leads, ?_⟩
  rw [all (by decide)]
  decide +kernel

/-- A keyword is missed for its capital letter unless something else in its field is as has been typed,
and a verbatim beginning is missed for the sigma at its end. -/
theorem keyword_not_suggested :
    let now : Time.Instant := ⟨1700000000, 0⟩
    let suggested (keywords typed : String) : Except SearchError (List String) :=
      let vase : CatalogEntry :=
        { filename := "vase.stl", filePath := "/vase.stl", keywords := some keywords }
      let store := ({} : Store).after {} now now (.catalog (.upsert vase now))
      (((engine {} now now).suggest typed none).run store).1
    (Text.lower "été".toList <+: Text.lower "Été".toList ∧
      IsListedIn "Été" "Été" ∧ suggested "Été" "été" = .ok [] ∧
      IsListedIn "Été" "Été,café été" ∧ suggested "Été,café été" "été" = .ok ["Été"]) ∧
    "ΟΣ".toList <+: "ΟΣΑ".toList ∧ IsListedIn "ΟΣΑ" "ΟΣΑ" ∧ suggested "ΟΣΑ" "ΟΣ" = .ok [] := by
  intro now suggested
  refine ⟨⟨by decide, by decide, ?_, by decide, ?_⟩, by decide, by decide, ?_⟩
  · decide +kernel
  · decide +kernel
  · decide +kernel

end Store

end ModelCatalog
