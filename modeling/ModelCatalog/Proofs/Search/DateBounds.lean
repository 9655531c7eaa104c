import ModelCatalog.Filter.Pair
import ModelCatalog.Proofs.Search.Tagging
import ModelCatalog.Proofs.Time.Meaning

/-!
Bounds on the time of adding. A bound that the store understands leaves the models that were added at its
instant and on one side of it; one that it does not know leaves none, although it is accepted.
-/

namespace ModelCatalog

open Time (Instant BoundText readBound?)

namespace Time.BoundText

open Decimal (padded padded_isDigit padded_cons)

theorem isBlank_of_isDigit {c : Char} (digit : c.isDigit = true) : Text.isBlank c = false := by
  have range := toNat_of_isDigit digit
  exact Text.isBlank_of_shown (by omega) (by omega)

theorem trim_text (bound : BoundText) : Text.trim bound.text = bound.text := by
  cases bound with
  | time written =>
    obtain ⟨front, whole⟩ : ∃ front, written.text = front ++ written.zone.text := by
      refine ⟨written.date.text ++ written.separator :: clockText written.hour written.minute
        written.second (fractionText written.fraction), ?_⟩
      simp only [TimeText.text, clockText, List.append_assoc, List.cons_append]
    apply Text.trim_eq_self
    · intro c first
      obtain ⟨d, rest, split, digit⟩ := padded_cons 4 written.date.year.toNat
      rw [text, TimeText.text, Date.text_append, split] at first
      obtain rfl : d = c := Option.some.inj first
      exact isBlank_of_isDigit digit
    · intro c final
      obtain ⟨d, lastOf, shown, ascii⟩ := written.zone.text_ends
      rw [text, whole, List.getLast?_append, lastOf] at final
      obtain rfl : d = c := Option.some.inj final
      exact Text.isBlank_of_shown shown ascii
  | day written =>
    have digits {width n : Nat} : ∀ c ∈ padded width n, Text.isBlank c = false :=
      fun c member => isBlank_of_isDigit (padded_isDigit member)
    have sign : ∀ c ∈ written.sign.text, Text.isBlank c = false := by
      intro c member
      rcases DaySign.mem_text member with rfl | rfl <;> decide
    have shown : ∀ c ∈ written.text, Text.isBlank c = false := by
      simp only [DayText.text, DayText.unsignedText, List.forall_mem_append, List.forall_mem_cons]
      exact ⟨sign, digits, by decide, digits, by decide, digits⟩
    exact Text.trim_eq_self (fun c first => shown c (List.mem_of_mem_head? first))
      fun c final => shown c (List.mem_of_getLast? final)

end Time.BoundText

section Accepted

variable {text : String} {instant : Instant} (accepted : readBound? text = some instant)
include accepted

theorem isTimestamp_of_readBound? : Time.isTimestamp text = true := by
  rw [Time.isTimestamp, accepted]
  rfl

theorem trim_of_readBound? : Text.trim text.toList = text.toList := by
  obtain ⟨bound, written, _⟩ := Time.readBound?_eq_some_iff.mp accepted
  rw [written, bound.trim_text]

theorem readDateBound?_of_readBound? : readDateBound? text.toList = some text := by
  rw [readDateBound?, String.ofList_toList, isTimestamp_of_readBound? accepted, Bool.or_true,
    if_pos rfl]

theorem FilterKind.ofKeyValue_dateAdded :
    ofKeyValue "date_added_start".toList text.toList = .ok (.dateAddedStart text) ∧
      ofKeyValue "date_added_end".toList text.toList = .ok (.dateAddedEnd text) := by
  have bound := readDateBound?_of_readBound? accepted
  have trimmed := trim_of_readBound? accepted
  have start : FilterName.ofKey? (String.ofList (Text.asciiLower
    (Text.trim "date_added_start".toList))) = some .dateAddedStart := by decide
  have finish : FilterName.ofKey? (String.ofList (Text.asciiLower
    (Text.trim "date_added_end".toList))) = some .dateAddedEnd := by decide
  constructor
  · simp only [ofKeyValue, trimmed, start, ofValue?, bound, Option.map_some]
  · simp only [ofKeyValue, trimmed, finish, ofValue?, bound, Option.map_some]

theorem boundOf_of_readBound? : boundOf text = some text := by
  have same : trimmed text = text := by
    rw [trimmed, trim_of_readBound? accepted, String.ofList_toList]
  have some : text.isEmpty = false := by
    rw [Bool.eq_false_iff, ne_eq, String.isEmpty_iff]
    rintro rfl
    cases accepted
  simp only [boundOf, same, some, Bool.false_eq_true, if_false]

theorem FilterSet.conditions_dateAdded (now : Instant) :
    (ofKinds [.dateAddedStart text]).conditions now = [.notBefore .modelDateAdded text] ∧
      (ofKinds [.dateAddedEnd text]).conditions now = [.notAfter .modelDateAdded text] := by
  have bound := boundOf_of_readBound? accepted
  constructor
  · rw [ofKinds, List.foldl_cons, List.foldl_nil, insert, bound]
    rfl
  · rw [ofKinds, List.foldl_cons, List.foldl_nil, insert, bound]
    rfl

end Accepted

def CatalogRow.IsAdded (row : CatalogRow) (added : Instant) : Prop :=
  added.IsDated ∧ row.model.dateAdded = added.timestamp

theorem CatalogRow.IsAdded.time? {row : CatalogRow} {added : Instant} (isAdded : row.IsAdded added)
    (present : Instant) : row.time? present .modelDateAdded = some (added.second * 1000) := by
  obtain ⟨dated, stamp⟩ := isAdded
  change Time.JulianDay.milliseconds? present row.model.dateAdded = _
  rw [stamp, Instant.milliseconds?_timestamp dated]

namespace Condition

variable {text : String} {row : CatalogRow} {present instant added : Instant}

theorem notBefore_holds_iff (means : Time.JulianDay.Means text instant) (isAdded : row.IsAdded added) :
    (notBefore .modelDateAdded text).holds present row = true ↔
      instant.nanoseconds ≤ added.second * 1000000000 := by
  obtain ⟨time, read, same⟩ := means present
  rw [holds, isAdded.time?, read, ← same, compareTimes, decide_eq_true_eq]
  omega

theorem notAfter_holds_iff (means : Time.JulianDay.Means text instant) (isAdded : row.IsAdded added) :
    (notAfter .modelDateAdded text).holds present row = true ↔
      added.second * 1000000000 ≤ instant.nanoseconds := by
  obtain ⟨time, read, same⟩ := means present
  rw [holds, isAdded.time?, read, ← same, compareTimes, decide_eq_true_eq]
  omega

theorem compareTimes_none (relation : Int → Int → Bool) (time : Option Int) :
    compareTimes relation time none = false := by
  cases time <;> rfl

/-- No row meets a bound that is no time. -/
theorem not_holds_of_isForeign (foreign : Time.JulianDay.IsForeign text) :
    ¬(notBefore .modelDateAdded text).holds present row = true ∧
      ¬(notAfter .modelDateAdded text).holds present row = true := by
  simp only [holds, foreign present, compareTimes_none, Bool.false_eq_true, not_false_eq_true,
    and_self]

end Condition

namespace Store

/-- The texts that are accepted as bounds are those of dates and times, and each is taken for a bound.
One that the store understands it reads as its very instant, and finds by it the models that were added
then or on one side of it. No plain text is read as its instant but those; and by one that the store does
not know it finds nothing. -/
theorem bounds_understood {store : Store} (reachable : store.Reachable) (config : Config)
    (now present : Instant) {limit : Option UInt64} (shown : config.clampLimit limit ≠ 0) :
    let Finds (kind : FilterKind) (row : CatalogRow) : Prop :=
      store.Finds config now present "" (some (.ofKinds [kind])) limit (Int64.ofNat row.model.id)
    (∀ text, Time.isTimestamp text = true ↔ ∃ bound : BoundText, text = String.ofList bound.text) ∧
    ∀ (bound : BoundText) (text : String), text = String.ofList bound.text →
      readBound? text = some bound.instant ∧
      FilterKind.ofKeyValue "date_added_start".toList text.toList = .ok (.dateAddedStart text) ∧
      FilterKind.ofKeyValue "date_added_end".toList text.toList = .ok (.dateAddedEnd text) ∧
      (bound.IsPlain → (Time.JulianDay.Means text bound.instant ↔ bound.IsUnderstood)) ∧
      (bound.IsUnderstood → Time.JulianDay.Means text bound.instant ∧
        ∀ row ∈ store.rows, ∀ added, row.IsAdded added →
          (Finds (.dateAddedStart text) row ↔
            bound.instant.nanoseconds ≤ added.second * 1000000000) ∧
          (Finds (.dateAddedEnd text) row ↔
            added.second * 1000000000 ≤ bound.instant.nanoseconds)) ∧
      (bound.IsUnknown → Time.JulianDay.IsForeign text ∧
        ∀ row ∈ store.rows, ¬Finds (.dateAddedStart text) row ∧ ¬Finds (.dateAddedEnd text) row) := by
  intro Finds
  refine ⟨?_, ?_⟩
  · intro text
    rw [Time.isTimestamp, Option.isSome_iff_exists]
    constructor
    · rintro ⟨instant, read⟩
      obtain ⟨bound, written, -⟩ := Time.readBound?_eq_some_iff.mp read
      exact ⟨bound, by rw [← written, String.ofList_toList]⟩
    · rintro ⟨bound, rfl⟩
      exact ⟨bound.instant, Time.readBound?_eq_some_iff.mpr ⟨bound, String.toList_ofList, rfl⟩⟩
  · rintro bound text rfl
    have accepted : readBound? (String.ofList bound.text) = some bound.instant :=
      Time.readBound?_eq_some_iff.mpr ⟨bound, String.toList_ofList, rfl⟩
    obtain ⟨start, finish⟩ := FilterKind.ofKeyValue_dateAdded accepted
    obtain ⟨onlyStart, onlyFinish⟩ := FilterSet.conditions_dateAdded accepted now
    have findsStart {row : CatalogRow} (member : row ∈ store.rows) :
        Finds (.dateAddedStart (String.ofList bound.text)) row ↔
          (Condition.notBefore .modelDateAdded (String.ofList bound.text)).holds present row = true :=
      (finds_condition reachable config now limit onlyStart rfl
        member).trans (and_iff_right shown)
    have findsFinish {row : CatalogRow} (member : row ∈ store.rows) :
        Finds (.dateAddedEnd (String.ofList bound.text)) row ↔
          (Condition.notAfter .modelDateAdded (String.ofList bound.text)).holds present row = true :=
      (finds_condition reachable config now limit onlyFinish rfl
        member).trans (and_iff_right shown)
    refine ⟨accepted, start, finish, BoundText.means_iff, ?_, ?_⟩
    · intro understood
      have means := understood.means
      refine ⟨means, ?_⟩
      intro row member added isAdded
      rw [findsStart member, findsFinish member]
      exact ⟨Condition.notBefore_holds_iff means isAdded, Condition.notAfter_holds_iff means isAdded⟩
    · intro unknown
      have foreign := unknown.isForeign
      refine ⟨foreign, ?_⟩
      intro row member
      rw [findsStart member, findsFinish member]
      exact Condition.not_holds_of_isForeign foreign

/-- A bound of another zone, of the second in which a model was added, finds the model from either side;
and a day with a plus before it finds it from neither. -/
theorem bounds_understood_offset :
    let now : Instant := ⟨1700000000, 0⟩
    let gear : CatalogEntry := { filename := "gear.stl", filePath := "/gear.stl" }
    let store := ({} : Store).after {} now now (.catalog (.upsert gear now))
    let Finds (kind : FilterKind) : Prop :=
      store.Finds {} now now "" (some (.ofKinds [kind])) none 1
    store.Reachable ∧ ({} : Config).clampLimit none ≠ 0 ∧
      Time.isTimestamp "2023-11-14 23:13:20.000+01:00" = true ∧
      Finds (.dateAddedStart "2023-11-14 23:13:20.000+01:00") ∧
      Finds (.dateAddedEnd "2023-11-14 23:13:20.000+01:00") ∧
      Time.isTimestamp "+2023-11-14" = true ∧
      ¬Finds (.dateAddedStart "+2023-11-14") ∧ ¬Finds (.dateAddedEnd "+2023-11-14") := by
  intro now gear store Finds
  have reachable : store.Reachable := .call .empty {} now now _ (by decide)
  have shown : ({} : Config).clampLimit none ≠ 0 := by decide
  let row : CatalogRow :=
    ⟨⟨1, "gear.stl", none, "/gear.stl", none, "2023-11-14T22:13:20Z", none⟩, none, false⟩
  have rows : store.rows = [row] := by decide
  have member : row ∈ store.rows := by rw [rows]; exact List.mem_singleton_self row
  have isAdded : row.IsAdded now := ⟨by decide, by decide⟩
  let east : BoundText := .time ⟨⟨2023, 11, 14⟩, ' ', 23, 13, 20, ['0', '0', '0'],
    .offset true 1 0 (by decide) (by decide), by decide, by decide, by decide, by decide,
    by simp [Char.isDigit], by decide⟩
  let plus : BoundText := .day ⟨.plus, 2023, 11, 14, by decide, by decide⟩
  obtain ⟨accepts, finds⟩ := bounds_understood reachable {} now now shown
  have eastText : "2023-11-14 23:13:20.000+01:00" = String.ofList east.text := by decide
  have plusText : "+2023-11-14" = String.ofList plus.text := by decide
  obtain ⟨-, -, -, -, understood, -⟩ := finds east _ eastText
  obtain ⟨-, -, -, -, -, unknown⟩ := finds plus _ plusText
  obtain ⟨fromStart, toEnd⟩ := (understood (by decide)).2 row member now isAdded
  have instant : east.instant.nanoseconds = 1700000000 * 1000000000 := by decide
  refine ⟨reachable, shown, (accepts _).mpr ⟨east, eastText⟩, ?_, ?_,
    (accepts _).mpr ⟨plus, plusText⟩, (unknown rfl).2 row member⟩
  · exact fromStart.mpr instant.le
  · exact toEnd.mpr instant.ge

/-- A bound in lower case: it is accepted, and the model was added after it, but the store reads it as no
time and the search shows nothing. -/
theorem bound_not_understood :
    let now : Instant := ⟨1700000000, 0⟩
    let part : CatalogEntry := { filename := "part.stl", filePath := "/a" }
    let store := ({} : Store).after {} now now (.catalog (.upsert part now))
    let bound := "2023-11-14t00:00:00z"
    readBound? bound = some ⟨1699920000, 0⟩ ∧
      store.rows.map (fun row => row.model.dateAdded) = [now.timestamp] ∧
      (⟨1699920000, 0⟩ : Instant).nanoseconds ≤ now.second * 1000000000 ∧
      Time.JulianDay.milliseconds? now bound = none ∧
      (((engine {} now now).search "" (some (.ofKinds [.dateAddedStart bound])) none 0).run
        store).1.map (fun result => (result.totalCount, result.items.map SearchItem.id)) =
          .ok (0, []) := by
  intro now part store bound
  refine ⟨by decide, by decide, by decide, by decide, ?_⟩
  decide +kernel

end Store

end ModelCatalog
