import Mathlib.Data.List.Infix
import ModelCatalog.Proofs.Sql.KeywordTests
import ModelCatalog.Proofs.Text.Casing
import ModelCatalog.Proofs.Text.Words

/-!
Which keywords a tag is found in. The commas around the tag and around the keywords make a search for
a part of the text a comparison with whole keywords.
-/

namespace ModelCatalog

theorem occursIn_iff (sought text : List Char) : occursIn sought text = true ↔ sought <:+: text := by
  induction text with
  | nil => simp [occursIn]
  | cons c rest ih =>
    rw [occursIn, Bool.or_eq_true, ih, List.infix_cons_iff, List.isPrefixOf_iff_prefix]

section Delimiting

variable {α : Type} {delimiter : α}

theorem flatMap_intercalate {part : List α} {parts : List (List α)} :
    (part :: parts).flatMap (delimiter :: ·) = delimiter :: [delimiter].intercalate (part :: parts) := by
  induction parts generalizing part with
  | nil => simp
  | cons next parts ih =>
    rw [List.flatMap_cons, ih, List.intercalate_cons_cons]
    simp

theorem delimited_prefix_iff {piece part rest : List α} (free : delimiter ∉ piece)
    (partFree : delimiter ∉ part) :
    (piece ++ [delimiter]) <+: (part ++ delimiter :: rest) ↔ piece = part := by
  induction piece generalizing part with
  | nil =>
    cases part with
    | nil => simp
    | cons c part =>
      have other : delimiter ≠ c := fun same => partFree (same ▸ List.mem_cons_self)
      simp [List.cons_prefix_cons, other]
  | cons d piece ih =>
    have first : d ≠ delimiter := fun same => free (same ▸ List.mem_cons_self)
    have pieceFree : delimiter ∉ piece := fun inside => free (List.mem_cons_of_mem d inside)
    cases part with
    | nil => simp [List.cons_prefix_cons, first]
    | cons c part =>
      have rest := ih pieceFree fun inside => partFree (List.mem_cons_of_mem c inside)
      simp [List.cons_prefix_cons, rest]

theorem infix_part_iff {sought part rest : List α} (partFree : delimiter ∉ part) :
    (delimiter :: sought) <:+: (part ++ rest) ↔ (delimiter :: sought) <:+: rest := by
  induction part with
  | nil => rfl
  | cons c part ih =>
    have other : delimiter ≠ c := fun same => partFree (same ▸ List.mem_cons_self)
    rw [List.cons_append, List.infix_cons_iff, List.cons_prefix_cons,
      ih fun inside => partFree (List.mem_cons_of_mem c inside)]
    simp [other]

/-- Between two delimiters there is no more and no less than one of the parts. -/
theorem delimited_infix_iff {piece : List α} (free : delimiter ∉ piece) {parts : List (List α)}
    (allFree : ∀ part ∈ parts, delimiter ∉ part) :
    (delimiter :: piece ++ [delimiter]) <:+: (parts.flatMap (delimiter :: ·) ++ [delimiter]) ↔
      piece ∈ parts := by
  induction parts with
  | nil => simp [List.infix_cons_iff, List.cons_prefix_cons]
  | cons part parts ih =>
    have partFree := allFree part List.mem_cons_self
    have later := ih fun other member => allFree other (List.mem_cons_of_mem part member)
    obtain ⟨rest, more⟩ : ∃ rest,
        parts.flatMap (delimiter :: ·) ++ [delimiter] = delimiter :: rest := by
      cases parts <;> simp
    have here : (piece ++ [delimiter]) <+: (part ++ delimiter :: rest) ↔ piece = part :=
      delimited_prefix_iff free partFree
    rw [List.flatMap_cons, List.append_assoc, List.cons_append, List.cons_append,
      List.infix_cons_iff, List.cons_prefix_cons, infix_part_iff partFree, more, here, ← more]
    rw [List.cons_append] at later
    simp [later]

theorem delimiter_not_mem_splitOn [BEq α] [LawfulBEq α] {text part : List α}
    (member : part ∈ text.splitOn delimiter) : delimiter ∉ part := by
  intro inside
  have kept := Text.not_mem_splitOnP (· == delimiter) text part member delimiter inside
  simp at kept

theorem mem_splitOn_iff [BEq α] [LawfulBEq α] {piece : List α} (free : delimiter ∉ piece)
    (text : List α) : piece ∈ text.splitOn delimiter ↔
      (delimiter :: piece ++ [delimiter]) <:+: (delimiter :: text ++ [delimiter]) := by
  obtain ⟨part, parts, split⟩ := List.exists_cons_of_ne_nil (List.splitOn_ne_nil delimiter text)
  have allFree : ∀ part ∈ text.splitOn delimiter, delimiter ∉ part :=
    fun _ => delimiter_not_mem_splitOn
  have whole : [delimiter].intercalate (text.splitOn delimiter) = text :=
    List.intercalate_splitOn delimiter
  rw [← delimited_infix_iff free allFree, split, flatMap_intercalate, ← split, whole]

end Delimiting

/-! The two forms of a tag. -/

/-- A tag as it is sought: in lower case and without blanks. -/
def soughtTag (tag : List Char) : List Char :=
  (Text.lower tag).filter fun c => !Text.isBlank c

/-- Keywords as they are searched: in lower case within ASCII, and without blanks, tabs and line
feeds. -/
def storedTag (text : List Char) : List Char :=
  (Text.asciiLower text).filter fun c => c != ' ' && c != '\t' && c != '\n'

def storedTags (keywords : List Char) : List (List Char) := (storedTag keywords).splitOn ','

theorem comma_not_mem_soughtTag {tag : List Char} (single : ',' ∉ tag) : ',' ∉ soughtTag tag :=
  fun member => Text.comma_not_mem_lower single (List.mem_filter.mp member).1

theorem tagged_holds_iff {tag : String} (single : ',' ∉ soughtTag tag.toList) (present : Time.Instant)
    (row : CatalogRow) :
    (Condition.tagged (Condition.needle tag)).holds present row = true ↔
      ∃ keywords, row.keywords? = some keywords ∧ soughtTag tag.toList ∈ storedTags keywords := by
  have needle : (Condition.needle tag).toList = ',' :: soughtTag tag.toList ++ [','] :=
    String.toList_ofList
  have canonical (keywords : String) : Condition.canonicalKeywords keywords =
      ',' :: storedTag keywords.toList ++ [','] := rfl
  simp only [Condition.holds, CatalogRow.keywords?, Option.any_eq_true, Option.map_eq_some_iff,
    needle, canonical, occursIn_iff, storedTags, mem_splitOn_iff single]
  constructor
  · rintro ⟨keywords, isText, found⟩
    exact ⟨keywords.toList, ⟨keywords, isText, rfl⟩, found⟩
  · rintro ⟨_, ⟨keywords, isText, rfl⟩, found⟩
    exact ⟨keywords, isText, found⟩

theorem untagged_holds (needle : String) (present : Time.Instant) (row : CatalogRow) :
    (Condition.untagged needle).holds present row =
      !(Condition.tagged needle).holds present row := by
  rw [Condition.holds, Condition.holds]
  cases row.text? .metadataKeywords <;> rfl

/-- A tag is found in keywords of which it is one, and not in a part of one or across two. The
statements of both conditions say so and always tell: the one that includes is true exactly where there
are keywords with the tag among them, and the one that excludes where it is false. -/
theorem tag_between_commas {tag : String} (single : ',' ∉ tag.toList) (now present : Time.Instant)
    (row : CatalogRow) :
    let needle := Condition.needle tag
    let included := Sql.KeywordTest.includes.truth row.keywords? needle.toList
    let excluded := Sql.KeywordTest.excludes.truth row.keywords? needle.toList
    (({ tagsInclude := [tag] } : FilterSet).conditions now).map Condition.fragment =
        [⟨Sql.KeywordTest.includes.sql, [.text needle]⟩] ∧
      (({ tagsExclude := [tag] } : FilterSet).conditions now).map Condition.fragment =
        [⟨Sql.KeywordTest.excludes.sql, [.text needle]⟩] ∧
      included = some ((Condition.tagged needle).holds present row) ∧
      excluded = some ((Condition.untagged needle).holds present row) ∧
      (included = some true ↔ ∃ keywords, row.keywords? = some keywords ∧
        soughtTag tag.toList ∈ storedTags keywords) ∧
      (excluded = some true ↔ ¬included = some true) := by
  intro needle included excluded
  have includes : included = some ((Condition.tagged needle).holds present row) :=
    truth_includes needle present row
  have excludes : excluded = some ((Condition.untagged needle).holds present row) :=
    truth_excludes needle present row
  have ofInclude : ({ tagsInclude := [tag] } : FilterSet).conditions now = [.tagged needle] := rfl
  have ofExclude : ({ tagsExclude := [tag] } : FilterSet).conditions now = [.untagged needle] := rfl
  refine ⟨?_, ?_, includes, excludes, ?_, ?_⟩
  · rw [ofInclude, List.map_singleton, Condition.fragment_tagged]
  · rw [ofExclude, List.map_singleton, Condition.fragment_untagged]
  · rw [includes, Option.some.injEq]
    exact tagged_holds_iff (comma_not_mem_soughtTag single) present row
  · rw [includes, excludes, untagged_holds]
    simp

/-- A tag of two words in any letter case, and a part of one. -/
theorem tag_between_commas_parts :
    let model : ModelRow := ⟨1, "vise.stl", none, "/vise.stl", none, "2023-11-14T22:13:20Z", none⟩
    let metadata : MetadataRow := ⟨1, none, none, some "Brass, lathe parts,hardware", none, none, none⟩
    let row : CatalogRow := ⟨model, some metadata, false⟩
    let truth (tag : String) :=
      Sql.KeywordTest.includes.truth row.keywords? (Condition.needle tag).toList
    ',' ∉ "Lathe Parts".toList ∧ ',' ∉ "hard".toList ∧ truth "Lathe Parts" = some true ∧
      ¬truth "hard" = some true := by
  intro model metadata row truth
  let now : Time.Instant := ⟨1700000000, 0⟩
  have words : ',' ∉ "Lathe Parts".toList := by decide
  have part : ',' ∉ "hard".toList := by decide
  have keywords : row.keywords? = some "Brass, lathe parts,hardware".toList := rfl
  refine ⟨words, part, ?_, ?_⟩
  · apply (tag_between_commas words now now row).2.2.2.2.1.mpr
    exact ⟨_, keywords, by decide⟩
  · rw [(tag_between_commas part now now row).2.2.2.2.1]
    rintro ⟨found, same, member⟩
    obtain rfl := Option.some.inj (keywords.symm.trans same)
    revert member
    decide

end ModelCatalog
