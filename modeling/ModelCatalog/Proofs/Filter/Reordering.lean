import ModelCatalog.Filter.Condition
import ModelCatalog.Filter.Pair

/-!
Filters in another order. Values of different kinds go to different places of a filter set, so that
only the order among the values of one kind matters. Pairs are filters if each of them is one; the
first that is not gives the error.
-/

namespace ModelCatalog

namespace FilterKind

def name : FilterKind → FilterName
  | tagsInclude _ => .tagsInclude
  | tagsExclude _ => .tagsExclude
  | inProject _ => .inProject
  | latDays _ => .latDays
  | category _ => .category
  | format _ => .format
  | minRating _ => .minRating
  | dateAddedStart _ => .dateAddedStart
  | dateAddedEnd _ => .dateAddedEnd
  | lastViewedStart _ => .lastViewedStart
  | lastViewedEnd _ => .lastViewedEnd
  | minFileSize _ => .minFileSize
  | maxFileSize _ => .maxFileSize

end FilterKind

/-- Both lists hold the same values of each kind, those in the same order: the one is the other with
values of different kinds moved past each other. -/
def SameByKind (kinds others : List FilterKind) : Prop :=
  ∀ name, kinds.filter (fun kind => kind.name = name) = others.filter fun kind => kind.name = name

namespace SameByKind

variable {kinds others : List FilterKind}

theorem of_nil (same : SameByKind [] others) : others = [] := by
  apply List.eq_nil_iff_forall_not_mem.mpr
  intro kind member
  have ofKind : kind ∈ others.filter fun other => other.name = kind.name := by simp [member]
  rw [← same kind.name, List.filter_nil] at ofKind
  exact List.not_mem_nil ofKind

/-- The first value of the one list is in the other the first of its kind, and what is left of both
holds the same values of each kind again. -/
theorem of_cons {kind : FilterKind} (same : SameByKind (kind :: kinds) others) :
    ∃ front back, others = front ++ kind :: back ∧ (∀ other ∈ front, other.name ≠ kind.name) ∧
      SameByKind kinds (front ++ back) := by
  have ofKind := (same kind.name).symm
  rw [List.filter_cons_of_pos (by simp)] at ofKind
  obtain ⟨front, back, rfl, before, -, behind⟩ := List.filter_eq_cons_iff.mp ofKind
  have differ : ∀ other ∈ front, other.name ≠ kind.name := by simpa using before
  refine ⟨front, back, rfl, differ, ?_⟩
  intro name
  rw [List.filter_append]
  by_cases first : kind.name = name
  · subst first
    rw [← behind, List.filter_eq_nil_iff.mpr before, List.nil_append]
  · have rest := same name
    rwa [List.filter_cons_of_neg (by simpa using first), List.filter_append,
      List.filter_cons_of_neg (by simpa using first)] at rest

end SameByKind

namespace FilterSet

theorem insert_comm (filters : FilterSet) {first second : FilterKind}
    (differ : first.name ≠ second.name) :
    (filters.insert first).insert second = (filters.insert second).insert first := by
  cases first <;> cases second <;> first | exact absurd rfl differ | simp only [insert]

/-- A value goes in as well before the values of other kinds that stand in front of it. -/
theorem foldl_insert_sooner {kind : FilterKind} {front : List FilterKind}
    (differ : ∀ other ∈ front, other.name ≠ kind.name) (back : List FilterKind)
    (filters : FilterSet) :
    (front ++ kind :: back).foldl insert filters =
      (front ++ back).foldl insert (filters.insert kind) := by
  induction front generalizing filters with
  | nil => rfl
  | cons first front ih =>
    obtain ⟨firstDiffers, laterDiffer⟩ := List.forall_mem_cons.mp differ
    rw [List.cons_append, List.foldl_cons, ih laterDiffer, insert_comm filters firstDiffers,
      List.cons_append, List.foldl_cons]

theorem foldl_insert_sameByKind {kinds others : List FilterKind} (same : SameByKind kinds others)
    (filters : FilterSet) : kinds.foldl insert filters = others.foldl insert filters := by
  induction kinds generalizing others filters with
  | nil => rw [same.of_nil]
  | cons kind kinds ih =>
    obtain ⟨front, back, rfl, differ, rest⟩ := same.of_cons
    rw [List.foldl_cons, foldl_insert_sooner differ]
    exact ih rest (filters.insert kind)

end FilterSet

section Reading

variable {α β ε : Type} {read : α → Except ε β} {items : List α}

theorem mapM_eq_ok_iff {values : List β} :
    items.mapM read = .ok values ↔ items.map read = values.map .ok := by
  induction items generalizing values with
  | nil => cases values <;> simp [pure, Except.pure]
  | cons item rest ih =>
    rw [List.mapM_cons, List.map_cons]
    cases values with
    | nil => cases read item <;> cases rest.mapM read <;> simp [bind, Except.bind, pure, Except.pure]
    | cons value values =>
      rw [List.map_cons, List.cons.injEq, ← ih]
      cases read item <;> cases rest.mapM read <;> simp [bind, Except.bind, pure, Except.pure]

theorem mapM_eq_error_iff {error : ε} :
    items.mapM read = .error error ↔ ∃ before bad later, items = before ++ bad :: later ∧
      (∀ item ∈ before, ∃ value, read item = .ok value) ∧ read bad = .error error := by
  induction items with
  | nil => simp [pure, Except.pure]
  | cons item rest ih =>
    rw [List.mapM_cons]
    cases first : read item with
    | error fault =>
      constructor
      · rintro ⟨⟩
        exact ⟨[], item, rest, rfl, by simp, first⟩
      · rintro ⟨before, bad, later, split, readable, fails⟩
        cases before with
        | nil =>
          obtain ⟨rfl, -⟩ := List.cons.inj split
          exact congrArg _ (Except.error.inj (first.symm.trans fails))
        | cons other before =>
          obtain ⟨rfl, -⟩ := List.cons.inj split
          obtain ⟨value, reads⟩ := readable item List.mem_cons_self
          cases first.symm.trans reads
    | ok value =>
      have onwards : (do let values ← rest.mapM read; pure (value :: values)) = .error error ↔
          rest.mapM read = .error error := by
        cases rest.mapM read <;> simp [bind, Except.bind, pure, Except.pure]
      refine onwards.trans (ih.trans ?_)
      constructor
      · rintro ⟨before, bad, later, rfl, readable, fails⟩
        exact ⟨item :: before, bad, later, rfl,
          List.forall_mem_cons.mpr ⟨⟨value, first⟩, readable⟩, fails⟩
      · rintro ⟨before, bad, later, split, readable, fails⟩
        cases before with
        | nil =>
          obtain ⟨rfl, -⟩ := List.cons.inj split
          cases first.symm.trans fails
        | cons other before =>
          obtain ⟨-, restSplit⟩ := List.cons.inj split
          exact ⟨before, bad, later, restSplit, (List.forall_mem_cons.mp readable).2, fails⟩

end Reading

namespace FilterSet

variable {pairs : List String}

theorem ofPairs_eq_ok_iff {filters : FilterSet} :
    ofPairs pairs = .ok filters ↔
      ∃ kinds : List FilterKind, pairs.map FilterKind.ofPair = kinds.map .ok ∧
        filters = ofKinds kinds := by
  simp only [← mapM_eq_ok_iff]
  rw [ofPairs]
  cases pairs.mapM FilterKind.ofPair with
  | error fault => simp [bind, Except.bind]
  | ok kinds => simp [bind, Except.bind, pure, Except.pure, eq_comm]

theorem ofPairs_eq_error_iff {error : SearchError} :
    ofPairs pairs = .error error ↔ pairs.mapM FilterKind.ofPair = .error error := by
  rw [ofPairs]
  cases pairs.mapM FilterKind.ofPair <;> simp [bind, Except.bind, pure, Except.pure]

theorem ofPairs_accepts_iff : (∃ filters, ofPairs pairs = .ok filters) ↔
    ∀ pair ∈ pairs, ∃ kind, FilterKind.ofPair pair = .ok kind := by
  constructor
  · rintro ⟨filters, accepted⟩ pair member
    obtain ⟨kinds, reads, -⟩ := ofPairs_eq_ok_iff.mp accepted
    have read : FilterKind.ofPair pair ∈ kinds.map .ok := reads ▸ List.mem_map_of_mem member
    obtain ⟨kind, -, same⟩ := List.mem_map.mp read
    exact ⟨kind, same.symm⟩
  · intro readable
    cases outcome : ofPairs pairs with
    | ok filters => exact ⟨filters, rfl⟩
    | error error =>
      obtain ⟨before, bad, later, rfl, -, fails⟩ :=
        mapM_eq_error_iff.mp (ofPairs_eq_error_iff.mp outcome)
      obtain ⟨kind, reads⟩ := readable bad (by simp)
      cases fails.symm.trans reads

/-- Filters and the fragments of their conditions are the same for every order of the values that leaves
those of one kind in their order. Pairs are filters exactly if each single one is, and are then those of
their values in order; otherwise the error is that of the first pair that is none. -/
theorem ofKinds_reordered :
    (∀ kinds others, SameByKind kinds others → ofKinds kinds = ofKinds others ∧
      ∀ now, ((ofKinds kinds).conditions now).map Condition.fragment =
        ((ofKinds others).conditions now).map Condition.fragment) ∧
    ∀ pairs : List String,
      ((∃ filters, ofPairs pairs = .ok filters) ↔
        ∀ pair ∈ pairs, ∃ kind, FilterKind.ofPair pair = .ok kind) ∧
      (∀ filters, ofPairs pairs = .ok filters ↔
        ∃ kinds : List FilterKind, pairs.map FilterKind.ofPair = kinds.map .ok ∧
          filters = ofKinds kinds) ∧
      ∀ error, ofPairs pairs = .error error ↔
        ∃ before bad later, pairs = before ++ bad :: later ∧
          (∀ pair ∈ before, ∃ kind, FilterKind.ofPair pair = .ok kind) ∧
          FilterKind.ofPair bad = .error error := by
  constructor
  · intro kinds others same
    have equal : ofKinds kinds = ofKinds others := foldl_insert_sameByKind same {}
    exact ⟨equal, fun now => by rw [equal]⟩
  · intro pairs
    exact ⟨ofPairs_accepts_iff, fun filters => ofPairs_eq_ok_iff,
      fun error => ofPairs_eq_error_iff.trans mapM_eq_error_iff⟩

/-- Tags in two letter cases, with a bound given twice between them, and pairs of which two are bad. -/
theorem ofKinds_reordered_repeated :
    let kinds : List FilterKind :=
      [.maxFileSize 5, .tagsInclude ["Wood"], .category (.one "Jigs"), .maxFileSize 7,
        .tagsInclude ["wood", "Metal"]]
    let others : List FilterKind :=
      [.tagsInclude ["Wood"], .tagsInclude ["wood", "Metal"], .maxFileSize 5, .maxFileSize 7,
        .category (.one "Jigs")]
    SameByKind kinds others ∧ ofKinds kinds = ofKinds others ∧
      ofPairs ["format=stl", "min_rating=lots", "colour=red"] =
        .error (.invalidFilterValue "min_rating" "lots") := by
  intro kinds others
  have same : SameByKind kinds others := by
    intro name
    cases name <;> rfl
  refine ⟨same, (ofKinds_reordered.1 kinds others same).1, ?_⟩
  apply ((ofKinds_reordered.2 _).2.2 _).mpr
  refine ⟨["format=stl"], "min_rating=lots", ["colour=red"], rfl, ?_, by rfl⟩
  intro pair member
  obtain rfl := List.mem_singleton.mp member
  exact ⟨.format (.one "stl"), by rfl⟩

end FilterSet

end ModelCatalog
