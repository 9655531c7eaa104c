import ModelCatalog.Proofs.Search.Skipping
import ModelCatalog.Proofs.TextMatch.Acceptance
import ModelCatalog.Proofs.TextMatch.Conjoining
import ModelCatalog.Proofs.TextMatch.Unmarked

/-!
Searches that are not degraded. A text without quotes and parentheses, or without connectors and with
its parentheses in order, compiles to nothing or to a sentence, unless a connector in capitals with a
star behind it is among its words, which the index takes for a connector, or the text holds a NUL,
where it ends for the index with a quote open.
-/

namespace ModelCatalog

namespace TextMatch

theorem isSentence_joined {query : String}
    (orderly : IsUnmarked (Query.parse query).freeText ∨
      IsGrouped (pieces (Query.parse query).freeText.toList))
    (nonempty : pieces (Query.parse query).freeText.toList ≠ []) :
    IsSentence ((joined (pieces (Query.parse query).freeText.toList)).map Piece.lexeme) := by
  rcases orderly with unmarked | grouped
  · exact isSentence_unmarked unmarked nonempty
  · exact (grouped.isConjunction nonempty).isSentence

theorem pieces_ne_nil {text : String} (worded : compile text ≠ "") : pieces text.toList ≠ [] := by
  rwa [ne_eq, pieces_eq_nil_iff, ← compile_eq_empty_iff]

/-- Starred connectors and NULs are the only things that the index rejects. -/
theorem isWellFormed_compile_iff {query : String}
    (orderly : IsUnmarked (Query.parse query).freeText ∨
      IsGrouped (pieces (Query.parse query).freeText.toList)) :
    (compile (Query.parse query).freeText = "" ∨
        IsWellFormed (compile (Query.parse query).freeText)) ↔
      IsUnstarred (Query.parse query).freeText ∧
        Text.HasNoNul (Query.parse query).freeText.toList := by
  constructor
  · intro accepted
    by_contra unreadable
    obtain ⟨error, unread⟩ := lex_compile_error unreadable
    rcases accepted with empty | ⟨lexemes, read, _⟩
    · rw [empty] at unread
      cases unread
    · rw [unread] at read
      cases read
  · rintro ⟨unstarred, noNul⟩
    by_cases empty : compile (Query.parse query).freeText = ""
    · exact .inl empty
    · refine .inr ((isWellFormed_iff (lex_compile unstarred noNul)).mpr ?_)
      exact isSentence_joined orderly (pieces_ne_nil empty)

end TextMatch

namespace Store

/-- An expression that is a sentence is not rejected, whatever else the search may fail with. -/
theorem runSearch_accepted {plan : SearchPlan}
    (accepted : plan.expression = "" ∨ TextMatch.IsWellFormed plan.expression)
    (parsed : ParsedQuery) (store : Store) (present : Time.Instant) :
    (Engine.runSearch (backend present) parsed plan).run store =
      (Engine.runPlan (backend present) plan).run store := by
  rw [Engine.runSearch, run_tryCatch]
  cases ran : (Engine.runPlan (backend present) plan).run store with
  | mk result after =>
    cases result with
    | ok found => rfl
    | error error =>
      have kept : error.rejectsText = false := by
        rw [Bool.eq_false_iff]
        intro told
        have rejected : ((Engine.runPlan (backend present) plan).run store).1 = .error error := by
          rw [ran]
        obtain ⟨counted, worded, some⟩ := candidates_of_rejected rejected told
        have readable := TextMatch.parseExpression_isReadable (accepted.resolve_left worded)
        cases read : TextMatch.parseExpression plan.expression with
        | ok expression =>
          have found := found_text store present plan worded read
          rw [rejectsText_of_found found rejected] at told
          cases told
        | error cause =>
          have failed := found_error store present plan worded some read
          rw [runPlan_error store present counted failed] at rejected
          obtain rfl := Except.error.inj rejected
          rcases readable cause read with rfl | rfl <;> exact absurd told (by decide)
      simp only [kept, Bool.false_and, Bool.false_eq_true, if_false]
      rfl

/-- The free text of a query that is orderly in one way or the other compiles to nothing or a sentence
exactly if no connector with a star is among its pieces and it holds no NUL. Its search is then never
degraded; and where no connector is in it, it asks for all of its terms and phrases at once. -/
theorem compile_orderly (query : String)
    (orderly : TextMatch.IsUnmarked (Query.parse query).freeText ∨
      TextMatch.IsGrouped (TextMatch.pieces (Query.parse query).freeText.toList)) :
    let text := (Query.parse query).freeText
    let expression := TextMatch.compile text
    ((expression = "" ∨ TextMatch.IsWellFormed expression) ↔
        TextMatch.IsUnstarred text ∧ Text.HasNoNul text.toList) ∧
      (TextMatch.IsUnstarred text → Text.HasNoNul text.toList →
        (∀ store present plan, plan.expression = expression →
          (Engine.runSearch (backend present) (Query.parse query) plan).run store =
            (Engine.runPlan (backend present) plan).run store) ∧
        (TextMatch.IsGrouped (TextMatch.pieces text.toList) → expression ≠ "" →
          ∃ lexemes, TextMatch.IsConjoined text lexemes)) := by
  intro text expression
  have accepted := TextMatch.isWellFormed_compile_iff orderly
  refine ⟨accepted, fun unstarred noNul => ⟨fun store present plan compiled => ?_, ?_⟩⟩
  · refine runSearch_accepted ?_ (Query.parse query) store present
    rw [compiled]
    exact accepted.mpr ⟨unstarred, noNul⟩
  · intro grouped worded
    exact ⟨_, TextMatch.isConjoined_grouped grouped (TextMatch.pieces_ne_nil worded) unstarred noNul⟩

/-- A group of two words beside a phrase and the beginning of a word. -/
theorem compile_orderly_group :
    let query := "(gear cog) \"spur gear\" wheel*"
    let text := (Query.parse query).freeText
    TextMatch.IsGrouped (TextMatch.pieces text.toList) ∧ TextMatch.IsUnstarred text ∧
      Text.HasNoNul text.toList ∧
      TextMatch.compile text = "( gear AND cog ) AND \"spur gear\" AND wheel*" ∧
      TextMatch.IsWellFormed (TextMatch.compile text) ∧
      ∃ lexemes, TextMatch.IsConjoined text lexemes := by
  intro query text
  have split : TextMatch.pieces text.toList =
      [.opening, .term "gear".toList, .term "cog".toList, .closing, .phrase "spur gear".toList,
        .term "wheel*".toList] := by decide +kernel
  have grouped : TextMatch.IsGrouped (TextMatch.pieces text.toList) := by
    rw [split]
    have inner : TextMatch.IsGrouped [.term "gear".toList, .term "cog".toList] :=
      .operand (.term _) (.operand (.term _) .nil)
    have outer : TextMatch.IsGrouped [.phrase "spur gear".toList, .term "wheel*".toList] :=
      .operand (.phrase _) (.operand (.term _) .nil)
    exact .group inner ⟨_, List.mem_cons_self, .term _⟩ outer
  have unstarred : TextMatch.IsUnstarred text := by decide +kernel
  have noNul : Text.HasNoNul text.toList := by decide +kernel
  have compiled : TextMatch.compile text = "( gear AND cog ) AND \"spur gear\" AND wheel*" := by
    decide +kernel
  have worded : TextMatch.compile text ≠ "" := by
    rw [compiled]
    decide
  obtain ⟨accepted, conjoined⟩ := compile_orderly query (.inr grouped)
  refine ⟨grouped, unstarred, noNul, compiled, ?_, (conjoined unstarred noNul).2 grouped worded⟩
  exact (accepted.mpr ⟨unstarred, noNul⟩).resolve_left worded

/-- A connector with a star is rejected, and what it stands for is not searched for. -/
theorem starred_connector_rejected :
    let text := (Query.parse "AND*").freeText
    let now : Time.Instant := ⟨1700000000, 0⟩
    let part : CatalogEntry := { filename := "part.stl", filePath := "/a" }
    let store := ({} : Store).after {} now now (.catalog (.upsert part now))
    TextMatch.IsUnmarked text ∧ TextMatch.compile text ≠ "" ∧
      ¬TextMatch.IsWellFormed (TextMatch.compile text) ∧
      (((engine {} now now).search "AND*" none none 0).run store).1.map SearchResult.warnings =
        .ok [Engine.skippedWarning] := by
  intro text now part store
  have compiled : TextMatch.compile text = "AND*" := by decide +kernel
  refine ⟨by decide +kernel, ?_, ?_, by decide +kernel⟩
  · rw [compiled]
    decide
  · rw [compiled]
    rintro ⟨lexemes, read, _⟩
    have unread : TextMatch.lex "AND*".toList = .error .malformed := rfl
    rw [unread] at read
    cases read

end Store

end ModelCatalog
