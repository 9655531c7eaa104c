import Mathlib.Data.Prod.Lex
import Mathlib.Data.String.Basic
import ModelCatalog.Proofs.Search.Answer
import ModelCatalog.Proofs.Store.Keyed
import ModelCatalog.Proofs.Text.Pattern

/-!
What a store suggests for a text that has been typed: names that begin with it up to the case of ASCII
letters, and keywords that begin with it in lower case. Every answer is the beginning of one list, in
the strict order of a key. The list is empty if a pattern for the text is longer than the store takes.
-/

namespace ModelCatalog

namespace Suggestion

variable {typed : List Char}

section Ranking

/-- What suggestions are ordered by: whether the exact beginning is missing, the text in lower case, and
the text. -/
def sortKey (typed : List Char) (text : String) : Bool ×ₗ String ×ₗ String :=
  toLex (!typed.isPrefixOf text.toList, toLex (lowered text, text))

theorem sortKey_injective : Function.Injective (sortKey typed) := by
  intro a b same
  exact congrArg (fun key => (ofLex (ofLex key).2).2) same

theorem precedes_iff (a b : String) :
    precedes typed a b = true ↔ ¬sortKey typed b < sortKey typed a := by
  rw [sortKey, sortKey, Prod.Lex.toLex_lt_toLex, Prod.Lex.toLex_lt_toLex, precedes]
  by_cases exact : typed.isPrefixOf a.toList = typed.isPrefixOf b.toList
  · rw [if_neg (not_not.mpr exact)]
    by_cases low : lowered a = lowered b
    · simp only [exact, low, ne_eq, not_true_eq_false, if_false, decide_eq_true_eq, lt_irrefl,
        false_or, true_and, not_lt]
    · rw [if_pos low, decide_eq_true_eq]
      simp only [exact, Ne.symm low, lt_irrefl, false_or, true_and, false_and, or_false, not_lt]
      exact ⟨le_of_lt, fun below => lt_of_le_of_ne below low⟩
  · rw [if_pos exact]
    have other : (!typed.isPrefixOf b.toList) ≠ !typed.isPrefixOf a.toList :=
      fun same => exact (Bool.not_inj same).symm
    have flags : ∀ p q : Bool, p ≠ q → (p = true ↔ ¬(!q) < !p) := by decide
    simp only [other, false_and, or_false]
    exact flags _ _ exact

theorem mergeSort_ranked {found : List String} (distinct : found.Nodup) :
    (found.mergeSort (precedes typed)).Pairwise fun a b => sortKey typed a < sortKey typed b := by
  apply mergeSort_strict id precedes_iff
  · exact fun before => lt_asymm before
  · intro a c before b
    rcases lt_or_ge (sortKey typed a) (sortKey typed b) with below | above
    · exact Or.inl below
    · exact Or.inr (above.trans_lt before)
  · intro a b different
    exact lt_or_gt_of_ne (sortKey_injective.ne different)
  · rwa [List.map_id]

end Ranking

section Names

/-- The pattern of names is compared with the name as both are written, no character being taken for
another or for the end. -/
def ComparedAsWritten (typed : List Char) (name : String) : Prop :=
  Text.fitsPattern (startPattern typed).toList name.toList =
    Text.fitsAsWritten (startPattern typed).toList name.toList

theorem comparedAsWritten_of_ordinary {name : String} (ordinary : ∀ c ∈ typed, Text.IsOrdinary c)
    (ordinaryName : ∀ c ∈ name.toList, Text.IsOrdinary c) : ComparedAsWritten typed name := by
  have pattern : ∀ c ∈ (startPattern typed).toList, Text.IsOrdinary c := by
    intro c member
    rw [startPattern, String.toList_ofList, List.mem_append, List.mem_singleton] at member
    rcases member with quoted | rfl
    · rcases Text.mem_escape quoted with typedChar | rfl
      · exact ordinary c typedChar
      · decide
    · decide
  exact Text.fitsPattern_ordinary pattern ordinaryName

theorem begins_of_fits {name : String} (literal : ComparedAsWritten typed name)
    (fits : Text.fitsPattern (startPattern typed).toList name.toList = true) :
    Text.asciiLower typed <+: Text.asciiLower name.toList := by
  rw [literal, startPattern, String.toList_ofList] at fits
  exact (Text.fitsAsWritten_start typed name.toList).mp fits

theorem fits_of_begins {name : String}
    (begins : Text.asciiLower typed <+: Text.asciiLower name.toList) :
    Text.fitsPattern (startPattern typed).toList name.toList = true := by
  rw [startPattern, String.toList_ofList]
  exact Text.fitsPattern_of_begins begins

end Names

theorem startPattern_le (typed : List Char) :
    (startPattern typed).utf8ByteSize ≤ (anywherePattern typed).utf8ByteSize := by
  rw [startPattern, anywherePattern, String.utf8ByteSize_ofList, String.utf8ByteSize_ofList,
    List.cons_append, String.utf8Len_cons]
  exact Nat.le_add_right _ _

theorem mem_keywordsFor {keywords text : String} :
    text ∈ keywordsFor typed keywords ↔
      (text ≠ "" ∧ text.toList ∈ (keywords.toList.splitOn ',').map Text.trim) ∧
        Text.lower typed <+: Text.lower text.toList := by
  simp only [keywordsFor, List.mem_map, List.mem_filter, Bool.and_eq_true, Bool.not_eq_true',
    List.isEmpty_eq_false_iff, List.isPrefixOf_iff_prefix]
  constructor
  · rintro ⟨piece, ⟨⟨field, member, rfl⟩, some, begins⟩, rfl⟩
    rw [String.toList_ofList]
    exact ⟨⟨by simpa using some, field, member, rfl⟩, begins⟩
  · rintro ⟨⟨some, field, member, same⟩, begins⟩
    have nonempty : text.toList ≠ [] := by simpa using some
    exact ⟨text.toList, ⟨⟨field, member, same⟩, nonempty, begins⟩, String.ofList_toList⟩

end Suggestion

open Suggestion (startPattern anywherePattern startPattern_le keywordsFor)

section Patterns

variable (column : String) {pattern : String} {texts : List (Option String)}

theorem likeRecords_ok (allowed : texts = [] ∨ pattern.utf8ByteSize ≤ greatestPattern) :
    ∃ records, likeRecords column pattern texts = .ok records ∧
      ∀ text, text ∈ records.filterMap (fun record => record.text? column) ↔
        some text ∈ texts ∧ Text.fitsPattern pattern.toList text.toList = true := by
  have read (text : String) :
      (Sql.Record.ofFields [(column, .text text)]).text? column = some text := by
    simp [Sql.Record.ofFields, Sql.Record.text?, Sql.Record.get?, Sql.Value.toText?]
  have short : ¬(!texts.isEmpty && decide (greatestPattern < pattern.utf8ByteSize)) = true := by
    simpa [Nat.not_lt, Decidable.imp_iff_not_or] using allowed
  refine ⟨_, by rw [likeRecords, if_neg short], ?_⟩
  intro text
  rw [List.filterMap_map]
  simp [read]

theorem likeRecords_error (some : texts ≠ []) (long : greatestPattern < pattern.utf8ByteSize) :
    ∃ error, likeRecords column pattern texts = .error error := by
  have refused : (!texts.isEmpty && decide (greatestPattern < pattern.utf8ByteSize)) = true := by
    simp [some, long]
  exact ⟨_, by rw [likeRecords, if_pos refused]⟩

end Patterns

namespace Store

section Answering

variable (store : Store) (typed : List Char)

def names : List String :=
  store.models.map ModelRow.filename ++ store.metadata.filterMap MetadataRow.title

def HasKeyword (text : String) : Prop :=
  text ≠ "" ∧ ∃ row ∈ store.metadata, ∃ keywords, row.keywords = some keywords ∧
    text.toList ∈ (keywords.toList.splitOn ',').map Text.trim

theorem some_mem_filenames_or_titles {text : String} :
    (some text ∈ store.models.map fun row => some row.filename) ∨
      some text ∈ store.metadata.map MetadataRow.title ↔ text ∈ store.names := by
  simp [names]

/-- Some text of the store would have to be tested with a pattern that is too long. -/
def RefusesPattern : Prop :=
  (store.models ≠ [] ∧ greatestPattern < (startPattern typed).utf8ByteSize) ∨
    (store.metadata ≠ [] ∧ greatestPattern < (anywherePattern typed).utf8ByteSize)

variable {typed} in
theorem completions_run (allowed : ¬store.RefusesPattern typed) (present : Time.Instant) :
    ∃ found, (Engine.completions (backend present) typed).run store = (.ok found, store) ∧
      ∀ text, text ∈ found ↔
        (text ∈ store.names ∧ Text.fitsPattern (startPattern typed).toList text.toList = true) ∨
        ∃ row ∈ store.metadata, ∃ keywords, row.keywords = some keywords ∧
          Text.fitsPattern (anywherePattern typed).toList keywords.toList = true ∧
          text ∈ keywordsFor typed keywords := by
  have inModels : (store.models.map fun row => some row.filename) = [] ∨
      (startPattern typed).utf8ByteSize ≤ greatestPattern := by
    rw [List.map_eq_nil_iff, or_iff_not_imp_left]
    exact fun some => Nat.le_of_not_lt fun long => allowed (.inl ⟨some, long⟩)
  have inMetadata (column : MetadataRow → Option String) : store.metadata.map column = [] ∨
      (anywherePattern typed).utf8ByteSize ≤ greatestPattern := by
    rw [List.map_eq_nil_iff, or_iff_not_imp_left]
    exact fun some => Nat.le_of_not_lt fun long => allowed (.inr ⟨some, long⟩)
  obtain ⟨filenames, ranFilenames, memFilenames⟩ := likeRecords_ok "filename" inModels
  obtain ⟨titles, ranTitles, memTitles⟩ := likeRecords_ok "title"
    ((inMetadata MetadataRow.title).imp_right (startPattern_le typed).trans)
  obtain ⟨keywords, ranKeywords, memKeywords⟩ :=
    likeRecords_ok "keywords" (inMetadata MetadataRow.keywords)
  refine ⟨filenames.filterMap (fun record => record.text? "filename")
    ++ titles.filterMap (fun record => record.text? "title")
    ++ (keywords.filterMap fun record => record.text? "keywords").flatMap (keywordsFor typed),
    ?_, ?_⟩
  · rw [Engine.completions]
    simp only [run_bind, query_run, answer, ranFilenames, ranTitles, ranKeywords]
    rfl
  intro text
  rw [List.mem_append, List.mem_append, memFilenames, memTitles, ← or_and_right,
    some_mem_filenames_or_titles, List.mem_flatMap]
  simp only [memKeywords, List.mem_map]
  apply or_congr_right
  constructor
  · rintro ⟨field, ⟨⟨row, member, written⟩, fits⟩, piece⟩
    exact ⟨row, member, field, written, fits, piece⟩
  · rintro ⟨row, member, field, written, fits, piece⟩
    exact ⟨field, ⟨⟨row, member, written⟩, fits⟩, piece⟩

variable {typed} in
theorem completions_refused (refused : store.RefusesPattern typed) (present : Time.Instant) :
    ∃ error, (Engine.completions (backend present) typed).run store = (.error error, store) := by
  rw [Engine.completions]
  simp only [run_bind, query_run, answer]
  rcases refused with ⟨some, long⟩ | ⟨some, long⟩
  · have texts : (store.models.map fun row => Option.some row.filename) ≠ [] := by simpa using some
    obtain ⟨error, failed⟩ := likeRecords_error "filename" texts long
    rw [failed]
    exact ⟨error, rfl⟩
  · have texts : store.metadata.map MetadataRow.keywords ≠ [] := by simpa using some
    obtain ⟨error, failed⟩ := likeRecords_error "keywords" texts long
    cases likeRecords "filename" (startPattern typed)
        (store.models.map fun row => Option.some row.filename) with
    | error earlier => exact ⟨earlier, rfl⟩
    | ok filenames =>
      dsimp only
      cases likeRecords "title" (startPattern typed) (store.metadata.map MetadataRow.title) with
      | error earlier => exact ⟨earlier, rfl⟩
      | ok titles => exact ⟨error, by simp only [failed]⟩

section Suggesting

variable (config : Config) (now present : Time.Instant) {text : String}
  (two : 2 ≤ (Text.trim text.toList).length)
include two

theorem suggest_run {found : List String}
    (completes : (Engine.completions (backend present) (Text.trim text.toList)).run store =
      (.ok found, store)) (limit : Option UInt64) :
    ((engine config now present).suggest text limit).run store =
      (.ok ((found.eraseDups.mergeSort (Suggestion.precedes (Text.trim text.toList))).take
        (limit.getD config.suggestionLimit).toNat), store) := by
  have enough : decide ((Text.trim text.toList).length < 2) = false := decide_eq_false (by omega)
  rw [Engine.suggest]
  simp only [enough, Bool.false_or]
  split
  next none =>
    have zero : limit.getD config.suggestionLimit = 0 := eq_of_beq none
    rw [zero]
    rfl
  next =>
    rw [run_tryCatch, run_bind, engine_backend, completes]
    rfl

theorem suggest_refused (refused : store.RefusesPattern (Text.trim text.toList))
    (limit : Option UInt64) :
    ((engine config now present).suggest text limit).run store = (.ok [], store) := by
  have enough : decide ((Text.trim text.toList).length < 2) = false := decide_eq_false (by omega)
  obtain ⟨error, failed⟩ := store.completions_refused refused present
  rw [Engine.suggest]
  simp only [enough, Bool.false_or]
  split
  next => rfl
  next =>
    rw [run_tryCatch, run_bind, engine_backend, failed]
    rfl

end Suggesting

end Answering

/-- The suggestions for a text of two characters or more, wildcards and backslashes among them. Every
answer is the beginning of one list, of the length of its limit at most, and so of every answer for a
greater limit. The list holds names and keywords that begin with the text, each one once and in strict
order, and no name that begins with it is missing. Only if its pattern is longer than the store takes,
and there is something to test with it, the list is empty. -/
theorem suggest_lists (config : Config) (now present : Time.Instant) (store : Store) (text : String)
    (two : 2 ≤ (Text.trim text.toList).length) :
    let typed := Text.trim text.toList
    ∃ suggestions : List String,
      (∀ limit : Option UInt64, ((engine config now present).suggest text limit).run store =
        (.ok (suggestions.take (limit.getD config.suggestionLimit).toNat), store)) ∧
      (∀ suggestion ∈ suggestions,
        (suggestion ∈ store.names ∧ (Suggestion.ComparedAsWritten typed suggestion →
          Text.asciiLower typed <+: Text.asciiLower suggestion.toList)) ∨
        (store.HasKeyword suggestion ∧ Text.lower typed <+: Text.lower suggestion.toList)) ∧
      suggestions.Nodup ∧
      suggestions.Pairwise (fun a b => Suggestion.sortKey typed a < Suggestion.sortKey typed b) ∧
      (¬store.RefusesPattern typed → ∀ name ∈ store.names,
        Text.asciiLower typed <+: Text.asciiLower name.toList → name ∈ suggestions) ∧
      (store.RefusesPattern typed → suggestions = []) := by
  intro typed
  by_cases refused : store.RefusesPattern typed
  · refine ⟨[], ?_, by simp, .nil, .nil, absurd refused, fun _ => rfl⟩
    intro limit
    rw [suggest_refused store config now present two refused, List.take_nil]
  obtain ⟨found, completes, sources⟩ := completions_run store refused present
  have same (suggestion : String) :
      suggestion ∈ found.eraseDups.mergeSort (Suggestion.precedes typed) ↔ suggestion ∈ found := by
    rw [List.mem_mergeSort, List.mem_eraseDups]
  have distinct : found.eraseDups.Nodup := nodup_eraseDups found
  refine ⟨found.eraseDups.mergeSort (Suggestion.precedes typed),
    suggest_run store config now present two completes, ?sound,
    (List.mergeSort_perm _ _).symm.nodup distinct, Suggestion.mergeSort_ranked distinct,
    fun _ => ?complete, fun long => absurd long refused⟩
  case sound =>
    intro suggestion member
    rcases (sources suggestion).mp ((same suggestion).mp member) with ⟨name, fits⟩ | keyword
    · exact Or.inl ⟨name, fun literal => Suggestion.begins_of_fits literal fits⟩
    · obtain ⟨row, described, keywords, written, _, piece⟩ := keyword
      obtain ⟨⟨some, between⟩, begins⟩ := Suggestion.mem_keywordsFor.mp piece
      exact Or.inr ⟨⟨some, row, described, keywords, written, between⟩, begins⟩
  case complete =>
    intro name member begins
    exact (same name).mpr ((sources name).mpr (Or.inl ⟨member, Suggestion.fits_of_begins begins⟩))

/-- Wildcards that have been typed stand for themselves. -/
theorem suggest_lists_wildcards :
    let now : Time.Instant := ⟨1700000000, 0⟩
    let entry (filename filePath : String) : CatalogEntry := { filename, filePath }
    let store := (({} : Store).after {} now now (.catalog (.upsert (entry "50%_off.stl" "/a") now))).after
      {} now now (.catalog (.upsert (entry "500_off.stl" "/b") now))
    2 ≤ (Text.trim " 50%_o".toList).length ∧
      ∃ suggestions : List String,
        (∀ limit : Option UInt64, ((engine {} now now).suggest " 50%_o" limit).run store =
          (.ok (suggestions.take (limit.getD ({} : Config).suggestionLimit).toNat), store)) ∧
        "50%_off.stl" ∈ suggestions ∧ "500_off.stl" ∉ suggestions := by
  intro now entry store
  have two : 2 ≤ (Text.trim " 50%_o".toList).length := by decide
  obtain ⟨suggestions, answers, sound, _, _, complete, _⟩ :=
    suggest_lists {} now now store " 50%_o" two
  have typed : Text.trim " 50%_o".toList = "50%_o".toList := by decide
  rw [typed] at sound complete
  have short : ¬store.RefusesPattern "50%_o".toList := by
    rintro (⟨-, long⟩ | ⟨-, long⟩)
    · exact absurd long (by decide)
    · exact absurd long (by decide)
  refine ⟨two, suggestions, answers, complete short _ (by decide) (by decide), ?_⟩
  intro other
  have ordinary {text : List Char} (all : text.all (fun c => decide (Text.IsOrdinary c)) = true) :
      ∀ c ∈ text, Text.IsOrdinary c := by
    simpa using all
  have literal : Suggestion.ComparedAsWritten "50%_o".toList "500_off.stl" :=
    Suggestion.comparedAsWritten_of_ordinary (ordinary (by decide)) (ordinary (by decide))
  rcases sound _ other with ⟨_, begins⟩ | ⟨_, begins⟩
  · exact absurd (begins literal) (by decide)
  · exact absurd begins (by decide)

/-- An underscore takes two bytes of a pattern. -/
theorem utf8ByteSize_underscores (n : Nat) :
    (startPattern (List.replicate n '_')).utf8ByteSize = 2 * n + 1 := by
  have escaped : String.utf8Len (Suggestion.escape (List.replicate n '_')) = 2 * n := by
    induction n with
    | zero => rfl
    | succ n ih =>
      have two : String.utf8Len (Suggestion.escape ['_']) = 2 := rfl
      rw [List.replicate_succ, Text.escape_cons, String.utf8Len_append, ih, two]
      omega
  rw [startPattern, String.utf8ByteSize_ofList, String.utf8Len_append, escaped]
  rfl

/-- A name of underscores, more than a pattern can hold, is not suggested although it is typed as
such. -/
theorem long_name_not_suggested :
    let now : Time.Instant := ⟨1700000000, 0⟩
    let name := String.ofList (List.replicate 25001 '_')
    let store := ({} : Store).after {} now now
      (.catalog (.upsert { filename := name, filePath := "/a" } now))
    2 ≤ (Text.trim name.toList).length ∧ name ∈ store.names ∧
      Text.asciiLower (Text.trim name.toList) <+: Text.asciiLower name.toList ∧
      ∀ limit : Option UInt64, (((engine {} now now).suggest name limit).run store).1 = .ok [] := by
  intro now name store
  have written : name.toList = List.replicate 25001 '_' := String.toList_ofList
  have visible : Text.isBlank '_' = false := by decide
  have typed : Text.trim name.toList = List.replicate 25001 '_' := by
    rw [written]
    apply Text.trim_eq_self
    · intro c first
      rw [List.eq_of_mem_replicate (List.mem_of_mem_head? first), visible]
    · intro c last
      rw [List.eq_of_mem_replicate (List.mem_of_mem_getLast? last), visible]
  have two : 2 ≤ (Text.trim name.toList).length := by
    rw [typed, List.length_replicate]
    decide
  have long : greatestPattern < (startPattern (Text.trim name.toList)).utf8ByteSize := by
    rw [typed, utf8ByteSize_underscores]
    decide
  have refused : store.RefusesPattern (Text.trim name.toList) := .inl ⟨List.cons_ne_nil _ _, long⟩
  refine ⟨two, List.mem_cons_self, ?_, fun limit => ?_⟩
  · rw [typed, written]
  · rw [suggest_refused store {} now now two refused]

end Store

end ModelCatalog
