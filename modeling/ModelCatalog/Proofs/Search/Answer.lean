import ModelCatalog.Proofs.Search.Limits
import ModelCatalog.Proofs.Search.Matching
import ModelCatalog.Proofs.Store.Reachable
import ModelCatalog.Proofs.TextMatch.Hollow

/-!
What a search of a store answers. A plan is refused if its statements nest too deeply or bind too many
values, or if its expression is too much for the index; in every other case the answer is a window of
the listing.
-/

namespace ModelCatalog

open TextMatch (Expression ExpressionError)

theorem TextMatch.parseExpression_empty : parseExpression "" = .error .malformed := rfl

/-! Numbers as a statement takes and gives them. -/

theorem toInt_toInt64 {n : UInt64} (signed : n.toNat < 2 ^ 63) : n.toInt64.toInt = n.toNat := by
  change n.toBitVec.toInt = _
  rw [BitVec.toInt_eq_toNat_of_lt]
  · rfl
  · change 2 * n.toNat < _
    omega

theorem countOf_ofNat {n : Nat} (signed : n < 2 ^ 63) : (countOf (Int64.ofNat n)).toNat = n := by
  have value := Int64.toInt_ofNat_of_lt signed
  have notBelow : ¬Int64.ofNat n < 0 := by
    rw [Int64.lt_iff_toInt_lt, value]
    simp
  rw [countOf, if_neg notBelow]
  change (UInt64.ofNat n).toNat = n
  rw [UInt64.toNat_ofNat']
  omega

theorem window_eq {α : Type} {limit offset : UInt64} (signedLimit : limit.toNat < 2 ^ 63)
    (signedOffset : offset.toNat < 2 ^ 63) (rows : List α) :
    window limit offset rows = (rows.drop offset.toNat).take limit.toNat := by
  have notBelow : ¬limit.toInt64 < 0 := by
    rw [Int64.lt_iff_toInt_lt, toInt_toInt64 signedLimit]
    simp
  simp [window, notBelow, toInt_toInt64 signedOffset, toInt_toInt64 signedLimit]

theorem toInt_toInt64_wrapped {n : UInt64} (unsigned : 2 ^ 63 ≤ n.toNat) :
    n.toInt64.toInt = n.toNat - (2 ^ 64 : Nat) := by
  change n.toBitVec.toInt = _
  rw [BitVec.toInt_eq_toNat_cond, if_neg]
  · rfl
  · change ¬2 * n.toNat < 2 ^ 64
    omega

/-- Where a page begins: an offset that a statement takes for a negative one skips no row. -/
def pageStart (offset : UInt64) : Nat := if offset.toNat < 2 ^ 63 then offset.toNat else 0

theorem toNat_toInt64 (offset : UInt64) : offset.toInt64.toInt.toNat = pageStart offset := by
  by_cases signed : offset.toNat < 2 ^ 63
  · rw [toInt_toInt64 signed, pageStart, if_pos signed]
    rfl
  · have bound := offset.toNat_lt
    rw [toInt_toInt64_wrapped (by omega), pageStart, if_neg signed]
    omega

/-- The bounds leave the rows from the start of the page on, and no more than the limit says, also if
it counts as none. -/
theorem window_slice {α : Type} (limit offset : UInt64) {rows : List α}
    (fits : rows.length < 2 ^ 63) :
    window limit offset rows = (rows.drop (pageStart offset)).take limit.toNat := by
  have zero : (0 : Int64).toInt = 0 := rfl
  rw [window, toNat_toInt64]
  by_cases signed : limit.toNat < 2 ^ 63
  · have notBelow : ¬limit.toInt64 < 0 := by
      rw [Int64.lt_iff_toInt_lt, toInt_toInt64 signed, zero]
      omega
    rw [if_neg notBelow, toInt_toInt64 signed]
    rfl
  · have bound := limit.toNat_lt
    have below : limit.toInt64 < 0 := by
      rw [Int64.lt_iff_toInt_lt, toInt_toInt64_wrapped (by omega), zero]
      omega
    rw [if_pos below, List.take_of_length_le]
    rw [List.length_drop]
    omega

theorem window_start {α : Type} (limit : UInt64) {rows : List α} (fits : rows.length < 2 ^ 63) :
    window limit 0 rows = rows.take limit.toNat :=
  window_slice limit 0 fits

def RankedRow.item (found : RankedRow) : SearchItem :=
  let model := found.row.model
  let metadata := found.row.metadata
  { id := Int64.ofNat model.id, filename := model.filename, format := model.format,
    filePath := model.filePath, fileSize := model.fileSize, dateAdded := some model.dateAdded,
    lastViewed := model.lastViewed, title := metadata.bind MetadataRow.title,
    description := metadata.bind MetadataRow.description,
    keywords := metadata.bind MetadataRow.keywords,
    category := metadata.bind MetadataRow.category, source := metadata.bind MetadataRow.source,
    rating := metadata.bind MetadataRow.rating, rank := found.rank, highlights := [] }

section Records

variable (found : RankedRow) {c : Sql.Column}

theorem record_get (member : c ∈ SearchPlan.columns) :
    found.record.get? c.name = some (RankedRow.value found.row c) := by
  simp only [SearchPlan.columns, List.mem_cons, List.not_mem_nil, or_false] at member
  rcases member with rfl | rfl | rfl | rfl | rfl | rfl | rfl | rfl | rfl | rfl | rfl | rfl | rfl <;>
    rfl

theorem record_text (member : c ∈ SearchPlan.columns) (noNumber : found.row.integer? c = none) :
    found.record.text? c.name = found.row.text? c := by
  rw [Sql.Record.text?, record_get found member, RankedRow.value, noNumber]
  cases found.row.text? c <;> rfl

theorem record_integer (member : c ∈ SearchPlan.columns) (noText : found.row.text? c = none) :
    found.record.integer? c.name = found.row.integer? c := by
  rw [Sql.Record.integer?, record_get found member, RankedRow.value, noText]
  cases found.row.integer? c <;> rfl

theorem ofRecord_record : SearchItem.ofRecord found.record = found.item := by
  have text {c : Sql.Column} := record_text found (c := c)
  have integer {c : Sql.Column} := record_integer found (c := c)
  have id := integer (c := .modelId) (by decide) rfl
  have filename := text (c := .modelFilename) (by decide) rfl
  have format := text (c := .modelFormat) (by decide) rfl
  have filePath := text (c := .modelFilePath) (by decide) rfl
  have fileSize := integer (c := .modelFileSize) (by decide) rfl
  have dateAdded := text (c := .modelDateAdded) (by decide) rfl
  have lastViewed := text (c := .modelLastViewed) (by decide) rfl
  have title := text (c := .metadataTitle) (by decide) rfl
  have description := text (c := .metadataDescription) (by decide) rfl
  have keywords := text (c := .metadataKeywords) (by decide) rfl
  have category := text (c := .metadataCategory) (by decide) rfl
  have source := text (c := .metadataSource) (by decide) rfl
  have rating := integer (c := .metadataRating) (by decide) rfl
  have rank : found.record.real? "rank" = some found.rank := rfl
  simp only [Sql.Column.name] at *
  rw [SearchItem.ofRecord, id, filename, format, filePath, fileSize, dateAdded, lastViewed, title,
    description, keywords, category, source, rating, rank]
  rfl

end Records

namespace Store

/-- The expression is rejected and leaves no words, so that the plan is not asked for its page. -/
def Skips (store : Store) (present : Time.Instant) (plan : SearchPlan) : Prop :=
  store.candidates present plan ≠ [] ∧ plan.expression ≠ "" ∧
    TextMatch.fallback plan.expression = "" ∧
      (TextMatch.parseExpression plan.expression = .error .malformed ∨
        TextMatch.parseExpression plan.expression = .error .unterminatedString)

/-- The store refuses the plan: its count nests too deeply or binds too many values, or its page binds
too many and is asked for, or some row meets the conditions and the expression is more than the index
can hold. -/
def Refuses (store : Store) (present : Time.Instant) (plan : SearchPlan) : Prop :=
  plan.isTooDeep = true ∨ plan.count.bindsTooMany = true ∨
    (plan.page.bindsTooMany = true ∧ ¬store.Skips present plan) ∨
    (store.candidates present plan ≠ [] ∧
      (TextMatch.parseExpression plan.expression = .error .overflow ∨
        TextMatch.parseExpression plan.expression = .error .tooLarge))

section Finding

variable (store : Store) (present : Time.Instant) (plan : SearchPlan)

theorem found_none (none : store.candidates present plan = []) (wanted : Wanted) :
    store.found present plan = .ok (store.listing present plan wanted) := by
  have noRows : store.matching present plan = .ok [] := by simp [matching, none]
  rw [found, noRows, listing, none]
  rfl

theorem found_everything (noText : plan.expression = "") :
    store.found present plan = .ok (store.listing present plan .everything) := by
  have all : store.matching present plan =
      .ok ((store.candidates present plan).map fun row => ⟨row, 0⟩) := by
    simp [matching, SearchPlan.hasText, noText]
  rw [found, all, listing]
  simp only [rankOf?, Option.map_some, List.filterMap_eq_map']
  rfl

theorem listing_everything_length :
    (store.listing present plan .everything).length = (store.candidates present plan).length := by
  simp only [listing, rankOf?, Option.map_some, List.length_mergeSort, List.filterMap_eq_map',
    List.length_map]

theorem found_text (worded : plan.expression ≠ "") {expression : Expression}
    (read : TextMatch.parseExpression plan.expression = .ok expression) :
    store.found present plan = .ok (store.listing present plan (.text expression)) := by
  by_cases none : store.candidates present plan = []
  · exact found_none store present plan none _
  · have ranked : store.matching present plan =
        .ok ((store.candidates present plan).filterMap fun row =>
          ((store.ranking expression).rank? row.model.id).map fun rank => ⟨row, rank⟩) := by
      simp [matching, SearchPlan.hasText, worded, none, read]
    rw [found, ranked]
    rfl

variable {plan} in
theorem found_of_readable (readable : plan.expression = "" ∨
    ∃ expression, TextMatch.parseExpression plan.expression = .ok expression) :
    ∃ rows, store.found present plan = .ok rows := by
  by_cases noText : plan.expression = ""
  · exact ⟨_, found_everything store present plan noText⟩
  · obtain ⟨expression, read⟩ := readable.resolve_left noText
    exact ⟨_, found_text store present plan noText read⟩

theorem listing_nothing : store.listing present plan .nothing = [] := by
  simp [listing, rankOf?, List.filterMap_eq_nil_iff.mpr]

theorem found_error (worded : plan.expression ≠ "") (some : store.candidates present plan ≠ [])
    {error : ExpressionError} (unread : TextMatch.parseExpression plan.expression = .error error) :
    store.found present plan = .error (.storage error.message) := by
  have failed : store.matching present plan = .error (.storage error.message) := by
    simp [matching, SearchPlan.hasText, worded, some, unread]
  rw [found, failed]
  rfl

variable {plan} in
/-- The rows of a plan are found, unless its expression is asked for and cannot be read. -/
theorem found_cases {freeText : String} (compiled : plan.expression = TextMatch.compile freeText) :
    store.found present plan = .ok (store.listing present plan (TextMatch.wanted freeText)) ∨
      plan.expression ≠ "" ∧ store.candidates present plan ≠ [] ∧
        ∃ error, TextMatch.parseExpression plan.expression = .error error := by
  rw [TextMatch.wanted, ← compiled]
  by_cases noText : plan.expression = ""
  · rw [if_pos noText]
    exact .inl (found_everything store present plan noText)
  by_cases none : store.candidates present plan = []
  · exact .inl (found_none store present plan none _)
  cases read : TextMatch.parseExpression plan.expression with
  | ok expression =>
    rw [if_neg noText]
    exact .inl (found_text store present plan noText read)
  | error error => exact .inr ⟨noText, none, error, rfl⟩

variable {store present plan} in
theorem not_skips_of_found {rows : List RankedRow} (result : store.found present plan = .ok rows) :
    ¬store.Skips present plan := by
  rintro ⟨some, worded, -, unread | unread⟩
  · rw [found_error store present plan worded some unread] at result
    cases result
  · rw [found_error store present plan worded some unread] at result
    cases result

end Finding

theorem refuses_iff_of_readable {store : Store} {present : Time.Instant} {plan : SearchPlan}
    (readable : plan.expression = "" ∨
      ∃ expression, TextMatch.parseExpression plan.expression = .ok expression) :
    store.Refuses present plan ↔ plan.refusal? ≠ none := by
  have noSkip : ¬store.Skips present plan := by
    obtain ⟨rows, result⟩ := found_of_readable store present readable
    exact not_skips_of_found result
  have noLimit : ¬(TextMatch.parseExpression plan.expression = .error .overflow ∨
      TextMatch.parseExpression plan.expression = .error .tooLarge) := by
    rcases readable with noText | ⟨expression, read⟩
    · rw [noText, TextMatch.parseExpression_empty]
      simp
    · rw [read]
      simp
  rw [Refuses, ne_eq plan.refusal?, plan.refusal?_eq_none_iff, not_and_or, Bool.not_eq_false,
    Bool.not_eq_false]
  constructor
  · rintro (deep | many | ⟨many, -⟩ | ⟨-, limit⟩)
    · exact .inl deep
    · refine .inr (eq_true_of_ne_false fun few => ?_)
      rw [SearchPlan.count_few few] at many
      cases many
    · exact .inr many
    · exact absurd limit noLimit
  · rintro (deep | many)
    · exact .inl deep
    · exact .inr (.inr (.inl ⟨many, noSkip⟩))

theorem not_refuses {store : Store} {present : Time.Instant} {plan : SearchPlan}
    (accepted : plan.refusal? = none)
    (readable : plan.expression = "" ∨
      ∃ expression, TextMatch.parseExpression plan.expression = .ok expression) :
    ¬store.Refuses present plan := by
  rw [refuses_iff_of_readable readable, accepted]
  simp

section Running

variable (store : Store) (present : Time.Instant) (plan : SearchPlan)

def pageOf (plan : SearchPlan) (rows : List RankedRow) (warnings : List String) : Found :=
  { totalCount := countOf (Int64.ofNat rows.length)
    items := (window plan.limit plan.offset rows).map RankedRow.item, warnings }

theorem query_run (question : Question) : ((backend present).query question).run store =
    (store.answer present question, store) := rfl

theorem found_ok {rows : List RankedRow} (result : store.found present plan = .ok rows) :
    ∃ unsorted, store.matching present plan = .ok unsorted ∧
      unsorted.mergeSort RankedRow.precedes = rows := by
  rw [found] at result
  cases matched : store.matching present plan with
  | error error =>
    rw [matched] at result
    cases result
  | ok unsorted =>
    rw [matched] at result
    exact ⟨unsorted, rfl, Except.ok.inj result⟩

theorem counted_refused {error : SearchError} (refused : plan.countRefusal? = some error) :
    store.answer present (.countFound plan) = .error error := by
  rw [SearchPlan.countRefusal?] at refused
  rw [answer]
  split at refused
  next deep => rw [if_pos deep, Option.some.inj refused]
  next shallow =>
    split at refused
    next many => rw [if_neg shallow, if_pos many, Option.some.inj refused]
    next => cases refused

section Counting

variable {plan} (counted : plan.countRefusal? = none)
include counted

theorem counted_eq : store.answer present (.countFound plan) =
    (store.matching present plan).map fun rows =>
      [.ofFields [("total", .integer (Int64.ofNat rows.length))]] := by
  obtain ⟨shallow, few⟩ := plan.countRefusal?_eq_none_iff.mp counted
  rw [answer, shallow, few]
  cases store.matching present plan <;> rfl

theorem counted_ok {rows : List RankedRow} (result : store.found present plan = .ok rows) :
    store.answer present (.countFound plan) =
      .ok [.ofFields [("total", .integer (Int64.ofNat rows.length))]] := by
  obtain ⟨unsorted, matched, sorted⟩ := found_ok store present plan result
  rw [counted_eq store present counted, matched, ← sorted, List.length_mergeSort]
  rfl

theorem runPlan_error {error : SearchError} (result : store.found present plan = .error error) :
    (Engine.runPlan (backend present) plan).run store = (.error error, store) := by
  have failed : store.matching present plan = .error error := by
    rw [found] at result
    cases matched : store.matching present plan with
    | error other =>
      rw [matched] at result
      exact congrArg Except.error (Except.error.inj result)
    | ok rows =>
      rw [matched] at result
      cases result
  have answered : store.answer present (.countFound plan) = .error error := by
    rw [counted_eq store present counted, failed]
    rfl
  rw [Engine.runPlan, run_bind, query_run, answered]

end Counting

theorem runPlan_countRefused {error : SearchError} (refused : plan.countRefusal? = some error) :
    (Engine.runPlan (backend present) plan).run store = (.error error, store) := by
  rw [Engine.runPlan, run_bind, query_run, counted_refused store present plan refused]

theorem runPlan_ok (accepted : plan.refusal? = none) {rows : List RankedRow}
    (result : store.found present plan = .ok rows) :
    (Engine.runPlan (backend present) plan).run store = (.ok (pageOf plan rows []), store) := by
  obtain ⟨counted, -⟩ := Option.or_eq_none_iff.mp accepted
  obtain ⟨-, few⟩ := plan.refusal?_eq_none_iff.mp accepted
  have paged : store.answer present (.foundPage plan) =
      .ok ((window plan.limit plan.offset rows).map RankedRow.record) := by
    simp only [answer, page, few, result]
    rfl
  have items : ((window plan.limit plan.offset rows).map RankedRow.record).map
      SearchItem.ofRecord = (window plan.limit plan.offset rows).map RankedRow.item := by
    rw [List.map_map]
    exact List.map_congr_left fun found _ => ofRecord_record found
  have total : (([.ofFields [("total", .integer (Int64.ofNat rows.length))]] :
      List Sql.Record).head?.bind fun record => record.integer? "total") =
        some (Int64.ofNat rows.length) := rfl
  rw [Engine.runPlan, run_bind, query_run, counted_ok store present counted result]
  simp only [total, Option.getD_some]
  rw [run_bind, query_run, paged]
  simp only [items]
  rfl

theorem runPlan_refused {error : SearchError} (refused : plan.refusal? = some error)
    {rows : List RankedRow} (result : store.found present plan = .ok rows) :
    (Engine.runPlan (backend present) plan).run store = (.error error, store) := by
  rcases Option.or_eq_some_iff.mp refused with early | ⟨counted, paged⟩
  · exact runPlan_countRefused store present plan early
  · have answered : store.answer present (.foundPage plan) = .error error := by
      rw [answer]
      split at paged
      next many => rw [if_pos many, Option.some.inj paged]
      next => cases paged
    rw [Engine.runPlan, run_bind, query_run, counted_ok store present counted result]
    simp only
    rw [run_bind, query_run, answered]

theorem rejectsText_message {error : ExpressionError} (readable : error ≠ .overflow)
    (small : error ≠ .tooLarge) : (SearchError.storage error.message).rejectsText = true := by
  cases error with
  | unterminatedString => decide
  | malformed => decide
  | overflow => exact absurd rfl readable
  | tooLarge => exact absurd rfl small

section Degrading

variable {plan} {freeText : String} (hasText : plan.hasText = true)
include hasText

/-- With the words of the text in place of it, a plan is refused as before. -/
theorem refusal?_degraded (worded : TextMatch.fallback freeText ≠ "") :
    SearchPlan.refusal? { plan with expression := TextMatch.fallback freeText } = plan.refusal? := by
  refine SearchPlan.refusal?_congr ?_ ?_
  · rfl
  · rw [hasText]
    exact (SearchPlan.hasText_iff _).mpr worded

theorem runDegraded_refused (worded : TextMatch.fallback freeText ≠ "") {error : SearchError}
    (refused : plan.refusal? = some error) :
    (Engine.runDegraded (backend present) freeText plan).run store = (.error error, store) := by
  obtain ⟨expression, read⟩ := TextMatch.fallback_isReadable worded
  let degraded : SearchPlan := { plan with expression := TextMatch.fallback freeText }
  have stillRefused : degraded.refusal? = some error := (refusal?_degraded hasText worded).trans refused
  have asked : (TextMatch.fallback freeText).isEmpty = false := by simpa using worded
  rw [Engine.runDegraded]
  simp only [asked, Bool.false_eq_true, if_false]
  rw [run_bind, runPlan_refused store present degraded stillRefused
    (found_text store present degraded worded read)]

theorem runDegraded_listing (accepted : TextMatch.fallback freeText ≠ "" → plan.refusal? = none)
    {error : ExpressionError}
    (unread : TextMatch.parseExpression (TextMatch.compile freeText) = .error error)
    (worded : TextMatch.compile freeText ≠ "") :
    ∃ warnings, (Engine.runDegraded (backend present) freeText plan).run store =
      (.ok (pageOf plan (store.listing present plan (TextMatch.wanted freeText)) warnings),
        store) := by
  rw [TextMatch.wanted, if_neg worded, unread, Engine.runDegraded]
  by_cases noWords : TextMatch.fallback freeText = ""
  · have page : pageOf plan [] [Engine.skippedWarning] =
        { warnings := [Engine.skippedWarning] } := by
      simp [pageOf, window]
      rfl
    rw [noWords, TextMatch.parseExpression_empty]
    simp only [listing_nothing]
    exact ⟨[Engine.skippedWarning], congrArg (fun found => (Except.ok found, store)) page.symm⟩
  · obtain ⟨expression, read⟩ := TextMatch.fallback_isReadable noWords
    let degraded : SearchPlan := { plan with expression := TextMatch.fallback freeText }
    have stillAccepted : degraded.refusal? = none :=
      (refusal?_degraded hasText noWords).trans (accepted noWords)
    have result : store.found present degraded =
        .ok (store.listing present plan (.text expression)) :=
      found_text store present degraded noWords read
    have asked : (TextMatch.fallback freeText).isEmpty = false := by simpa using noWords
    simp only [read, asked, Bool.false_eq_true, if_false]
    rw [run_bind, runPlan_ok store present degraded stillAccepted result]
    exact ⟨_, rfl⟩

end Degrading

theorem runSearch_fails (parsed : ParsedQuery) {error : SearchError}
    (kept : error.rejectsText = false)
    (ran : (Engine.runPlan (backend present) plan).run store = (.error error, store)) :
    (Engine.runSearch (backend present) parsed plan).run store = (.error error, store) := by
  rw [Engine.runSearch, run_tryCatch, ran]
  simp only [kept, Bool.false_and, Bool.false_eq_true, if_false]
  rfl

section Compiled

variable {plan} {parsed : ParsedQuery}
  (compiled : plan.expression = TextMatch.compile parsed.freeText)
include compiled

theorem runSearch_degrades (counted : plan.countRefusal? = none) (worded : plan.expression ≠ "")
    (some : store.candidates present plan ≠ []) {error : ExpressionError}
    (read : TextMatch.parseExpression plan.expression = .error error)
    (rejected : (SearchError.storage error.message).rejectsText = true) :
    (Engine.runSearch (backend present) parsed plan).run store =
      (Engine.runDegraded (backend present) parsed.freeText plan).run store := by
  have failed := found_error store present plan worded some read
  have notBlank : (trimmed parsed.freeText).isEmpty = false := by
    rw [Bool.eq_false_iff]
    intro blank
    exact worded (compiled.trans (TextMatch.compile_of_trimmed blank))
  rw [Engine.runSearch, run_tryCatch, runPlan_error store present counted failed]
  simp only [rejected, notBlank, Bool.not_false, Bool.and_self, if_true]

theorem runSearch_listing (accepted : ¬store.Refuses present plan) :
    ∃ warnings, (Engine.runSearch (backend present) parsed plan).run store =
      (.ok (pageOf plan
        (store.listing present plan (TextMatch.wanted parsed.freeText)) warnings), store) := by
  obtain ⟨shallow, few, paged, bounded⟩ := by simpa only [Refuses, not_or] using accepted
  have counted : plan.countRefusal? = none :=
    plan.countRefusal?_eq_none_iff.mpr ⟨by simpa using shallow, by simpa using few⟩
  have unrefused (noSkip : ¬store.Skips present plan) : plan.refusal? = none := by
    refine plan.refusal?_eq_none_iff.mpr ⟨by simpa using shallow, ?_⟩
    rw [Bool.eq_false_iff]
    exact fun many => paged ⟨many, noSkip⟩
  rcases found_cases store present compiled with result | ⟨worded, some, error, read⟩
  · refine ⟨[], ?_⟩
    rw [Engine.runSearch, run_tryCatch,
      runPlan_ok store present plan (unrefused (not_skips_of_found result)) result]
  · rw [read] at bounded
    have rejected : (SearchError.storage error.message).rejectsText = true :=
      rejectsText_message (fun same => bounded ⟨some, Or.inl (congrArg _ same)⟩)
        fun same => bounded ⟨some, Or.inr (congrArg _ same)⟩
    rw [runSearch_degrades store present compiled counted worded some read rejected]
    have hasText : plan.hasText = true := plan.hasText_iff.mpr worded
    have words : TextMatch.fallback parsed.freeText ≠ "" → plan.refusal? = .none := by
      intro hasWords
      refine unrefused fun skips => hasWords ?_
      rw [← TextMatch.fallback_compile, ← compiled]
      exact skips.2.2.1
    rw [compiled] at read worded
    exact runDegraded_listing store present hasText words read worded

omit compiled in
/-- An expression that is too much for the index is not asked for in other words. -/
theorem runSearch_overwhelmed (counted : plan.countRefusal? = none)
    (some : store.candidates present plan ≠ [])
    (limit : TextMatch.parseExpression plan.expression = .error .overflow ∨
      TextMatch.parseExpression plan.expression = .error .tooLarge) :
    ∃ error, (Engine.runSearch (backend present) parsed plan).run store =
      (.error error, store) := by
  have worded : plan.expression ≠ "" := by
    intro noText
    rw [noText, TextMatch.parseExpression_empty] at limit
    simp at limit
  rcases limit with read | read
  · exact ⟨_, runSearch_fails store present plan parsed (by decide)
      (runPlan_error store present counted (found_error store present plan worded some read))⟩
  · exact ⟨_, runSearch_fails store present plan parsed (by decide)
      (runPlan_error store present counted (found_error store present plan worded some read))⟩

/-- A page that binds too many values is refused with the text or with its words, unless there are
none of these to ask for. -/
theorem runSearch_pageRefused (counted : plan.countRefusal? = none)
    (many : plan.page.bindsTooMany = true) (asked : ¬store.Skips present plan) :
    ∃ error, (Engine.runSearch (backend present) parsed plan).run store =
      (.error error, store) := by
  have refused := SearchPlan.refusal?_of_page counted many
  rcases found_cases store present compiled with result | ⟨worded, some, error, read⟩
  · exact ⟨_, runSearch_fails store present plan parsed (SearchPlan.rejectsText_refusal refused)
      (runPlan_refused store present plan refused result)⟩
  · by_cases limit : error = .overflow ∨ error = .tooLarge
    · refine runSearch_overwhelmed store present counted some ?_
      rw [read]
      exact limit.imp (congrArg _) (congrArg _)
    · obtain ⟨noOverflow, small⟩ := not_or.mp limit
      have hasText : plan.hasText = true := plan.hasText_iff.mpr worded
      -- Without words the text would be skipped.
      have hasWords : TextMatch.fallback parsed.freeText ≠ "" := by
        intro noWords
        refine asked ⟨some, worded, ?_, ?_⟩
        · rw [compiled, TextMatch.fallback_compile, noWords]
        · rw [read]
          cases error <;> simp_all
      rw [runSearch_degrades store present compiled counted worded some read
        (rejectsText_message noOverflow small)]
      exact ⟨_, runDegraded_refused store present hasText hasWords refused⟩

/-- A plan that is refused is answered with an error that no other words can avoid. -/
theorem runSearch_refused (refused : store.Refuses present plan) :
    ∃ error, (Engine.runSearch (backend present) parsed plan).run store =
      (.error error, store) := by
  cases counted : plan.countRefusal? with
  | some error =>
    exact ⟨error, runSearch_fails store present plan parsed
      (SearchPlan.rejectsText_countRefusal counted)
      (runPlan_countRefused store present plan counted)⟩
  | none =>
    obtain ⟨shallow, few⟩ := plan.countRefusal?_eq_none_iff.mp counted
    rcases refused with deep | many | ⟨many, asked⟩ | ⟨some, limit⟩
    · rw [shallow] at deep
      cases deep
    · rw [few] at many
      cases many
    · exact runSearch_pageRefused store present compiled counted many asked
    · exact runSearch_overwhelmed store present counted some limit

end Compiled

end Running

theorem engine_backend (config : Config) (now present : Time.Instant) :
    (engine config now present).backend = backend present := rfl

end Store

def Engine.wanted (query : String) (filters : Option FilterSet) : Wanted :=
  if AsksNothing query filters then .nothing else TextMatch.wanted (Query.parse query).freeText

def Config.highlighter (config : Config) (query : String) : Highlighter :=
  .ofText (Query.parse query).freeText config.highlightOpen config.highlightClose

/-- The result counts the rows, and shows those that the bounds leave. -/
structure SearchResult.Shows (result : SearchResult) (highlighter : Highlighter)
    (rows : List RankedRow) : Prop where
  total : result.totalCount = countOf (Int64.ofNat rows.length)
  items : result.items = (window result.limit result.offset rows).map fun found =>
    found.item.highlighted highlighter

namespace Store

section Searching

variable (store : Store) (config : Config) (now present : Time.Instant) (query : String)
  (filters : Option FilterSet) (limit : Option UInt64) (offset : UInt64)

theorem search_shows
    (accepted : ¬store.Refuses present
      ((engine config now present).planOf query filters limit offset)) :
    ∃ result, (((engine config now present).search query filters limit offset).run store).1 =
        .ok result ∧
      result.limit = config.clampLimit limit ∧ result.offset = offset ∧
      result.Shows (config.highlighter query) (store.listing present
        ((engine config now present).planOf query filters limit offset)
        (Engine.wanted query filters)) := by
  by_cases nothing : Engine.AsksNothing query filters
  · rw [Engine.search_nothing _ query filters limit offset nothing, Engine.wanted, if_pos nothing,
      listing_nothing]
    refine ⟨_, rfl, rfl, rfl, rfl, ?_⟩
    simp [SearchResult.empty, window]
  · have compiled : ((engine config now present).planOf query filters limit offset).expression =
        TextMatch.compile (Query.parse query).freeText := rfl
    obtain ⟨warnings, ran⟩ := runSearch_listing store present compiled accepted
    have value := Engine.search_value (engine config now present) query filters limit offset
      nothing store
    rw [Engine.wanted, if_neg nothing]
    rw [engine_backend, ran] at value
    exact ⟨_, value, rfl, rfl, rfl, List.map_map⟩

theorem search_refused
    (refused : store.Refuses present
      ((engine config now present).planOf query filters limit offset)) :
    ∃ error, (((engine config now present).search query filters limit offset).run store).1 =
      .error error := by
  have something : ¬Engine.AsksNothing query filters := by
    intro nothing
    obtain ⟨noText, noFilters⟩ := nothing
    have compiled : ((engine config now present).planOf query filters limit offset).expression =
        "" := by
      change TextMatch.compile _ = ""
      rw [noText]
      rfl
    exact not_refuses (SearchPlan.refusal?_nothing compiled noFilters) (.inl compiled) refused
  have value := Engine.search_value (engine config now present) query filters limit offset
    something store
  rw [engine_backend] at value
  have compiled : ((engine config now present).planOf query filters limit offset).expression =
      TextMatch.compile (Query.parse query).freeText := rfl
  obtain ⟨error, ran⟩ := runSearch_refused store present compiled refused
  rw [ran] at value
  exact ⟨error, value⟩

variable {store config now present query filters limit offset}

theorem shows_of_search {result : SearchResult}
    (found : (((engine config now present).search query filters limit offset).run store).1 =
      .ok result) :
    ¬store.Refuses present ((engine config now present).planOf query filters limit offset) ∧
      result.limit = config.clampLimit limit ∧ result.offset = offset ∧
      result.Shows (config.highlighter query) (store.listing present
        ((engine config now present).planOf query filters limit offset)
        (Engine.wanted query filters)) := by
  have accepted : ¬store.Refuses present
      ((engine config now present).planOf query filters limit offset) := by
    intro refused
    obtain ⟨error, failed⟩ :=
      search_refused store config now present query filters limit offset refused
    rw [failed] at found
    cases found
  obtain ⟨shown, ran, shows⟩ :=
    search_shows store config now present query filters limit offset accepted
  obtain rfl : shown = result := Except.ok.inj (ran.symm.trans found)
  exact ⟨accepted, shows⟩

end Searching

end Store

end ModelCatalog
