import ModelCatalog.Proofs.TextMatch.Reading

/-!
Which expressions the reader accepts. It reads every sentence of the grammar, apart from what is too much
for it. A fallback is empty or a sentence.
-/

namespace ModelCatalog.TextMatch

def ExpressionError.IsLimit (error : ExpressionError) : Prop :=
  error = .overflow ∨ error = .tooLarge

def openGroups : List Waiting → Nat
  | [] => 0
  | .group :: waiting => openGroups waiting + 1
  | .joint _ _ :: waiting => openGroups waiting

def Operand.ending : Operand → Ending
  | missing => .missing
  | phrases _ => .phrases
  | complete _ => .complete

theorem Operand.side?_eq_none {operand : Operand} : operand.side? = none ↔ operand.ending = .missing := by
  cases operand <;> simp [side?, ending]

def Draft.place (draft : Draft) : Place := ⟨openGroups draft.waiting, draft.operand.ending⟩

theorem settle_cases (least : Nat) (waiting : List Waiting) (side : Measured) :
    settle least waiting side = .error .tooLarge ∨
      ∃ rest settled, settle least waiting side = .ok (rest, settled) ∧
        openGroups rest = openGroups waiting ∧
        (least = 0 → rest = [] ∨ ∃ outer, rest = .group :: outer) := by
  induction waiting generalizing side with
  | nil => exact .inr ⟨[], side, by rw [settle]; simp, rfl, fun _ => .inl rfl⟩
  | cons first waiting ih =>
    cases first with
    | group => exact .inr ⟨_, side, by rw [settle]; simp, rfl, fun _ => .inr ⟨waiting, rfl⟩⟩
    | joint left connector =>
      rw [settle]
      split
      next loose =>
        refine .inr ⟨_, side, rfl, rfl, fun zero => ?_⟩
        rw [zero] at loose
        exact absurd loose (Nat.not_lt_zero _)
      next =>
        split
        next joined _ => exact ih joined
        next => exact .inl rfl

/-- What the reader makes of lexemes that lead to the place: a draft in which nothing trails, or too
much for it. -/
inductive Agrees (place : Place) : Except ExpressionError Draft → Prop where
  | read {draft : Draft} :
    draft.trailing = .nothing → draft.place = place → Agrees place (.ok draft)
  | limited {error : ExpressionError} : error.IsLimit → Agrees place (.error error)

section Steps

variable {waiting : List Waiting} {operand : Operand} {after : Place}

theorem phrase_agrees {lexeme : Lexeme} (isPhrase : lexeme.IsPhrase)
    (goesOn : Place.next? ⟨openGroups waiting, operand.ending⟩ lexeme = some after) :
    Agrees after (Draft.take ⟨waiting, operand, .nothing⟩ lexeme) := by
  obtain ⟨phrase, asked⟩ := isPhrase.exists_sought
  rw [Place.next?_of_isPhrase isPhrase] at goesOn
  cases operand with
  | complete side => cases goesOn
  | missing =>
    obtain rfl := Option.some.inj goesOn
    rw [Draft.take_first asked]
    split
    next => exact .limited (.inl rfl)
    next => exact .read rfl rfl
  | phrases side =>
    obtain rfl := Option.some.inj goesOn
    rw [Draft.take_beside asked]
    split
    next => exact .limited (.inl rfl)
    next =>
      cases side.beside (.phrase phrase) with
      | some side => exact .read rfl rfl
      | none => exact .limited (.inr rfl)

theorem opening_agrees
    (goesOn : Place.next? ⟨openGroups waiting, operand.ending⟩ .opening = some after) :
    Agrees after (Draft.take ⟨waiting, operand, .nothing⟩ .opening) := by
  rw [Draft.take_opening rfl]
  cases operand with
  | missing =>
    obtain rfl := Option.some.inj goesOn
    change Agrees _ (hold (weight waiting + 1) >>= fun _ =>
      .ok ⟨.group :: waiting, .missing, .nothing⟩)
    rw [hold]
    split
    next => exact .limited (.inl rfl)
    next => exact .read rfl rfl
  | phrases side => cases goesOn
  | complete side => cases goesOn

theorem settle_agrees {least : Nat} {side : Measured}
    {next : List Waiting × Measured → Except ExpressionError Draft}
    (agreesNext : ∀ rest settled, openGroups rest = openGroups waiting →
      (least = 0 → rest = [] ∨ ∃ outer, rest = .group :: outer) →
        Agrees after (next (rest, settled))) :
    Agrees after (settle least waiting side >>= next) := by
  rcases settle_cases least waiting side with tooLarge | ⟨rest, settled, done, groups, outermost⟩
  · rw [tooLarge]
    exact .limited (.inr rfl)
  · rw [done]
    exact agreesNext rest settled groups outermost

theorem connector_agrees {connector : Connector}
    (goesOn : Place.next? ⟨openGroups waiting, operand.ending⟩ (.connector connector) = some after) :
    Agrees after (Draft.take ⟨waiting, operand, .nothing⟩ (.connector connector)) := by
  rw [Draft.take_connector, Draft.connector]
  rw [Place.next?] at goesOn
  split at goesOn
  next => cases goesOn
  next present =>
    obtain rfl := Option.some.inj goesOn
    obtain ⟨side, side?⟩ := Option.ne_none_iff_exists'.mp (mt Operand.side?_eq_none.mp present)
    simp only [side?]
    apply settle_agrees
    intro rest settled groups _
    refine .read rfl ?_
    rw [Draft.place, openGroups, groups]
    rfl

theorem closing_agrees
    (goesOn : Place.next? ⟨openGroups waiting, operand.ending⟩ .closing = some after) :
    Agrees after (Draft.take ⟨waiting, operand, .nothing⟩ .closing) := by
  rw [Draft.take_closing, Draft.closing]
  rw [Place.next?] at goesOn
  split at goesOn
  next => cases goesOn
  next present =>
    obtain ⟨side, side?⟩ := Option.ne_none_iff_exists'.mp (mt Operand.side?_eq_none.mp present)
    simp only [side?]
    apply settle_agrees
    intro rest settled groups outermost
    rw [← groups] at goesOn
    rcases outermost rfl with rfl | ⟨outer, rfl⟩
    · cases goesOn
    · obtain rfl := Option.some.inj goesOn
      exact .read rfl rfl

theorem take_agrees {draft : Draft} (nothing : draft.trailing = .nothing) {lexeme : Lexeme}
    (goesOn : draft.place.next? lexeme = some after) : Agrees after (draft.take lexeme) := by
  obtain ⟨waiting, operand, trailing⟩ := draft
  obtain rfl : trailing = .nothing := nothing
  cases lexeme with
  | phrase text isPrefix => exact phrase_agrees (.phrase text isPrefix) goesOn
  | near => exact phrase_agrees .near goesOn
  | connector connector => exact connector_agrees goesOn
  | opening => exact opening_agrees goesOn
  | closing => exact closing_agrees goesOn

end Steps

theorem foldlM_agrees {lexemes : List Lexeme} {draft : Draft} {after : Place}
    (nothing : draft.trailing = .nothing)
    (leads : lexemes.foldlM Place.next? draft.place = some after) :
    Agrees after (lexemes.foldlM Draft.take draft) := by
  -- Between two lexemes nothing trails, and the draft is at the place to which they lead.
  induction lexemes generalizing draft with
  | nil => exact .read nothing (Option.some.inj leads)
  | cons lexeme rest ih =>
    obtain ⟨middle, goesOn, leadsOn⟩ := Option.bind_eq_some_iff.mp leads
    have step := take_agrees nothing goesOn
    rw [List.foldlM_cons]
    generalize draft.take lexeme = read at step
    cases step with
    | read nothing place => exact ih nothing (place ▸ leadsOn)
    | limited limit => exact .limited limit

/-- A result, or an error that tells of the size of what was read. -/
def IsReadable {α : Type} (read : Except ExpressionError α) : Prop :=
  ∀ error, read = .error error → error.IsLimit

theorem expression_isReadable {draft : Draft} (nothing : draft.trailing = .nothing)
    (ends : draft.place.isEnd = true) : IsReadable draft.expression := by
  obtain ⟨noGroup, present⟩ : openGroups draft.waiting = 0 ∧ draft.operand.ending ≠ .missing := by
    simpa [Draft.place, Place.isEnd] using ends
  obtain ⟨side, side?⟩ := Option.ne_none_iff_exists'.mp (mt Operand.side?_eq_none.mp present)
  intro error failed
  rw [Draft.expression, Draft.settled_of_nothing nothing] at failed
  simp only [bind, Except.bind, side?] at failed
  rcases settle_cases 0 draft.waiting side with
    tooLarge | ⟨rest, settled, done, groups, outermost⟩
  · rw [tooLarge] at failed
    exact .inr (Except.error.inj failed).symm
  · rw [done] at failed
    rw [noGroup] at groups
    rcases outermost rfl with rfl | ⟨outer, rfl⟩
    · cases failed
    · cases groups

/-- Limits apart, the reader reads all sentences. -/
theorem parseExpression_isReadable {text : String} (wellFormed : IsWellFormed text) :
    IsReadable (parseExpression text) := by
  obtain ⟨lexemes, lexed, sentence⟩ := wellFormed
  have accepted := (isSentence_iff lexemes).mp sentence
  obtain ⟨after, leads, ends⟩ : ∃ after, lexemes.foldlM Place.next? {} = some after ∧
      after.isEnd = true := by simpa [Option.any_eq_true] using accepted
  rw [parseExpression_sentence lexed sentence]
  have agrees : Agrees after (lexemes.foldlM Draft.take {}) := foldlM_agrees rfl leads
  generalize lexemes.foldlM Draft.take {} = read at agrees
  cases agrees with
  | read nothing place => exact expression_isReadable nothing (place ▸ ends)
  | limited limit =>
    intro other failed
    obtain rfl := Except.error.inj failed
    exact limit

theorem isWellFormed_iff {text : String} {lexemes : List Lexeme}
    (lexed : lex text.toList = .ok lexemes) : IsWellFormed text ↔ IsSentence lexemes := by
  constructor
  · intro wellFormed
    obtain ⟨others, read, sentence⟩ := wellFormed
    obtain rfl := Except.ok.inj (lexed.symm.trans read)
    exact sentence
  · exact fun sentence => ⟨lexemes, lexed, sentence⟩

theorem isWellFormed_fallback {text : String} (worded : fallback text ≠ "") :
    IsWellFormed (fallback text) := by
  have nonempty : keptPhrases text ≠ [] := by
    rwa [keptPhrases, ne_eq, List.map_eq_nil_iff, ← fallback_eq_empty_iff]
  have grouped := isGrouped_operands fun piece (kept : piece ∈ keptPhrases text) =>
    isOperand_of_mem_keptPhrases kept
  exact (isWellFormed_iff (lex_fallback text)).mpr (grouped.isConjunction nonempty).isSentence

end ModelCatalog.TextMatch
