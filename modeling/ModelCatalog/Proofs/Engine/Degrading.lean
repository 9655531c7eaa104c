import ModelCatalog.Proofs.Engine.Sessions
import ModelCatalog.Proofs.TextMatch.Acceptance
import ModelCatalog.Proofs.TextMatch.Hollow

/-!
Backends that reject match expressions only where they are no sentences. A search that is rejected
degrades to a sentence, so that on such a backend every search comes to a result.
-/

namespace ModelCatalog

variable {σ : Type}

def SpeaksOfSyntax (message : String) : Prop :=
  occursIn "fts5: syntax error".toList message.toList = true ∨
    occursIn "unterminated string".toList message.toList = true

def SearchError.IsRejection (error : SearchError) : Prop :=
  ∃ message, error = .storage message ∧ SpeaksOfSyntax message

theorem SearchError.IsRejection.rejectsText {error : SearchError} (rejection : error.IsRejection) :
    error.rejectsText = true := by
  obtain ⟨message, rfl, speaks⟩ := rejection
  exact (Bool.or_eq_true ..).mpr speaks

def Question.IsAbout (question : Question) (plan : SearchPlan) : Prop :=
  question = .countFound plan ∨ question = .foundPage plan

/-- What is asked about a plan is answered, unless its expression is there and is no sentence; then
the answer may be an error that is `told` as one. -/
def Backend.RejectsOnly (told : SearchError → Prop) (backend : Backend σ) : Prop :=
  ∀ plan question state error, question.IsAbout plan →
    ((backend.query question).run state).1 = .error error →
      told error ∧ plan.expression ≠ "" ∧ ¬TextMatch.IsWellFormed plan.expression

namespace Engine

theorem runPlan_error {backend : Backend σ} {plan : SearchPlan} {state : σ} {error : SearchError}
    (failed : ((runPlan backend plan).run state).1 = .error error) :
    ∃ question before, question.IsAbout plan ∧
      ((backend.query question).run before).1 = .error error := by
  rw [runPlan, run_bind] at failed
  cases counted : (backend.query (.countFound plan)).run state with
  | mk answer after =>
    rw [counted] at failed
    cases answer with
    | error other =>
      obtain rfl : other = error := Except.error.inj failed
      exact ⟨_, state, .inl rfl, by rw [counted]⟩
    | ok count =>
      change ((backend.query (.foundPage plan) >>= _).run after).1 = _ at failed
      rw [run_bind] at failed
      cases listed : (backend.query (.foundPage plan)).run after with
      | mk answer last =>
        rw [listed] at failed
        cases answer with
        | error other =>
          obtain rfl : other = error := Except.error.inj failed
          exact ⟨_, after, .inr rfl, by rw [listed]⟩
        | ok records => cases failed

section Degrading

variable {backend : Backend σ} {told : SearchError → Prop} (rejectsOnly : backend.RejectsOnly told)
include rejectsOnly

theorem runPlan_rejected {plan : SearchPlan} {state : σ} {error : SearchError}
    (failed : ((runPlan backend plan).run state).1 = .error error) :
    told error ∧ plan.expression ≠ "" ∧ ¬TextMatch.IsWellFormed plan.expression := by
  obtain ⟨question, before, about, answered⟩ := runPlan_error failed
  exact rejectsOnly plan question before error about answered

theorem runPlan_returns {plan : SearchPlan} (wellFormed : TextMatch.IsWellFormed plan.expression)
    (state : σ) : ∃ found, ((runPlan backend plan).run state).1 = .ok found := by
  cases outcome : ((runPlan backend plan).run state).1 with
  | ok found => exact ⟨found, rfl⟩
  | error error => exact absurd wellFormed (runPlan_rejected rejectsOnly outcome).2.2

theorem runDegraded_returns (freeText : String) (plan : SearchPlan) (state : σ) :
    ∃ found, ((runDegraded backend freeText plan).run state).1 = .ok found := by
  unfold runDegraded
  simp only
  split
  next => exact ⟨_, rfl⟩
  next worded =>
    have wellFormed : TextMatch.IsWellFormed (TextMatch.fallback freeText) :=
      TextMatch.isWellFormed_fallback (by simpa using worded)
    let degraded : SearchPlan := { plan with expression := TextMatch.fallback freeText }
    obtain ⟨found, returned⟩ := @runPlan_returns _ _ _ rejectsOnly degraded wellFormed state
    rw [run_bind]
    cases outcome : (runPlan backend degraded).run state with
    | mk result after =>
      rw [outcome] at returned
      obtain rfl := returned
      exact ⟨_, rfl⟩

end Degrading

theorem runSearch_returns {backend : Backend σ}
    (rejectsOnly : backend.RejectsOnly SearchError.IsRejection) {parsed : ParsedQuery}
    {plan : SearchPlan} (compiled : plan.expression = TextMatch.compile parsed.freeText)
    (state : σ) : ∃ found, ((runSearch backend parsed plan).run state).1 = .ok found := by
  rw [runSearch, run_tryCatch]
  cases outcome : (runPlan backend plan).run state with
  | mk result after =>
    cases result with
    | ok found => exact ⟨found, rfl⟩
    | error error =>
      obtain ⟨rejection, hasText, _⟩ :=
        runPlan_rejected rejectsOnly (congrArg Prod.fst outcome)
      have worded : (trimmed parsed.freeText).isEmpty = false := by
        by_contra blank
        exact hasText (compiled.trans (TextMatch.compile_of_trimmed (by simpa using blank)))
      have degrades : (error.rejectsText && !(trimmed parsed.freeText).isEmpty) = true := by
        rw [rejection.rejectsText, worded]
        rfl
      simp only [degrades, if_true]
      exact runDegraded_returns rejectsOnly parsed.freeText plan after

/-- No query fails a search whose backend rejects match expressions only where they are no sentences,
and says so. What such a search degrades to is empty or a chain of quoted words joined by AND, which
is a sentence. -/
theorem search_returns (engine : Engine σ)
    (rejectsOnly : engine.backend.RejectsOnly SearchError.IsRejection) :
    (∀ query filters limit offset state, ∃ result,
      ((engine.search query filters limit offset).run state).1 = .ok result) ∧
    ∀ text, TextMatch.fallback text = "" ∨
      ∃ word words, (TextMatch.fallback text).toList =
          " AND ".toList.intercalate ((word :: words).map TextMatch.quoted) ∧
        (∀ other ∈ word :: words, other ≠ [] ∧ ∀ c ∈ other, Text.isWordChar c = true) ∧
        TextMatch.IsWellFormed (TextMatch.fallback text) := by
  constructor
  · intro query filters limit offset state
    by_cases nothing : AsksNothing query filters
    · rw [search_nothing engine query filters limit offset nothing]
      exact ⟨_, rfl⟩
    · obtain ⟨found, returned⟩ : ∃ found, ((runSearch engine.backend (Query.parse query)
          (engine.planOf query filters limit offset)).run state).1 = .ok found :=
        runSearch_returns rejectsOnly rfl state
      rw [search_value engine query filters limit offset nothing, returned]
      exact ⟨engine.resultOf query filters limit offset found, rfl⟩
  · intro text
    by_cases empty : TextMatch.fallback text = ""
    · exact .inl empty
    · obtain ⟨word, words, kept⟩ := List.exists_cons_of_ne_nil fun none =>
        empty ((TextMatch.fallback_eq_empty_iff text).mpr none)
      refine .inr ⟨word, words, ?_, ?_, TextMatch.isWellFormed_fallback empty⟩
      · rw [TextMatch.toList_fallback, kept]
      · rw [← kept]
        exact fun other => TextMatch.wordChars_of_mem_keptWords

def rejecting (expression : String) (error : SearchError) : Backend Unit where
  query
    | .countFound plan | .foundPage plan =>
      if plan.expression = expression then throw error else pure []
    | _ => pure []
  execute _ := pure 0
  rebuild := pure ()

theorem rejecting_rejectsOnly {told : SearchError → Prop} {expression : String}
    {error : SearchError} (tells : told error) (worded : expression ≠ "")
    (malformed : ¬TextMatch.IsWellFormed expression) :
    (rejecting expression error).RejectsOnly told := by
  intro plan question state other about answered
  have asked : ((rejecting expression error).query question).run state =
      (if plan.expression = expression then throw error else pure [] :
        Session Unit (List Sql.Record)).run state := by
    rcases about with rfl | rfl <;> rfl
  rw [asked] at answered
  split at answered
  next same =>
    obtain rfl : error = other := Except.error.inj answered
    exact ⟨tells, same ▸ worded, same ▸ malformed⟩
  next => cases answered

theorem not_isWellFormed_gear : ¬TextMatch.IsWellFormed "gear AND (" := by
  have lexed : TextMatch.lex "gear AND (".toList =
      .ok [.phrase "gear".toList false, .connector .and, .opening] := rfl
  rw [TextMatch.isWellFormed_iff lexed]
  decide

/-- A search whose expression is rejected, and that returns all the same. -/
theorem search_returns_gear :
    let rejection := SearchError.storage "fts5: syntax error near \"\""
    let engine : Engine Unit := ⟨rejecting "gear AND (" rejection, {}, ⟨1700000000, 0⟩⟩
    engine.backend.RejectsOnly SearchError.IsRejection ∧
      ((runPlan engine.backend (engine.planOf "gear (" none none 0)).run ()).1 = .error rejection ∧
      ∃ result, ((engine.search "gear (" none none 0).run ()).1 = .ok result := by
  intro rejection engine
  have rejectsOnly : engine.backend.RejectsOnly SearchError.IsRejection :=
    rejecting_rejectsOnly ⟨_, rfl, .inl (by decide)⟩ (by decide) not_isWellFormed_gear
  exact ⟨rejectsOnly, rfl, (search_returns engine rejectsOnly).1 "gear (" none none 0 ()⟩

/-- An error that says the same, but does not come from the store, is passed on. -/
theorem search_passes_on :
    let foreign := SearchError.io "fts5: syntax error near \"\""
    let engine : Engine Unit := ⟨rejecting "gear AND (" foreign, {}, ⟨1700000000, 0⟩⟩
    engine.backend.RejectsOnly (fun error => SpeaksOfSyntax error.message) ∧
      ((engine.search "gear (" none none 0).run ()).1 = .error foreign := by
  intro foreign engine
  exact ⟨rejecting_rejectsOnly (.inl (by decide)) (by decide) not_isWellFormed_gear, rfl⟩

end Engine

end ModelCatalog
