import ModelCatalog.Proofs.TextMatch.Compiled
import ModelCatalog.Proofs.TextMatch.Grouping
import ModelCatalog.Proofs.TextMatch.Settling

/-!
What a conjunction means. On each level of its groups at most one AND waits for its right side, so that
no conjunction is too deep, and none with few groups is too much to be held; a row matches it exactly
if all of its phrases stand in the row.
-/

namespace ModelCatalog.TextMatch

open TextIndex (Phrase)

def holdsAll (lexemes : List Lexeme) (row : IndexRow) : Bool :=
  (lexemes.filterMap Lexeme.sought?).all fun phrase => phrase.isFoundIn row

theorem holdsAll_append (left right : List Lexeme) (row : IndexRow) :
    holdsAll (left ++ right) row = (holdsAll left row && holdsAll right row) := by
  rw [holdsAll, List.filterMap_append, List.all_append]
  rfl

section Joining

/-- A side that an AND can go on with and still nest once. -/
def IsFlat (side : Measured) : Prop := side.depthUnder .and ≤ 1

theorem isFlat_phrase (phrase : Phrase) : IsFlat (.leaf (.phrase phrase)) := Nat.le_refl 1

theorem join_flat {left right : Measured} (flatLeft : IsFlat left) (flatRight : IsFlat right) :
    ∃ whole, left.join .and right = some whole ∧ IsFlat whole ∧
      ∀ row, whole.expression.isMatch row =
        (left.expression.isMatch row && right.expression.isMatch row) := by
  have depth : max (left.depthUnder .and) (right.depthUnder .and) ≤ 1 :=
    Nat.max_le.mpr ⟨flatLeft, flatRight⟩
  refine ⟨_, if_pos (Nat.le_trans depth (by decide)), depth, fun row => rfl⟩

inductive Level where
  | fresh
  | behind (left : Measured)

namespace Level

def waiting : Level → List Waiting
  | fresh => []
  | behind left => [.joint left .and]

def IsFlat : Level → Prop
  | fresh => True
  | behind left => TextMatch.IsFlat left

def isMatch (row : IndexRow) : Level → Bool
  | fresh => true
  | behind left => left.expression.isMatch row

theorem weight_waiting_append (level : Level) (outer : List Waiting) :
    weight (level.waiting ++ outer) ≤ weight outer + 2 := by
  cases level with
  | fresh => exact Nat.le_add_right _ 2
  | behind left => exact Nat.le_refl _

end Level

def IsBase (outer : List Waiting) : Prop := outer = [] ∨ ∃ more, outer = .group :: more

theorem settle_base {outer : List Waiting} (base : IsBase outer) (least : Nat) (side : Measured) :
    settle least outer side = .ok (outer, side) := by
  rcases base with rfl | ⟨more, rfl⟩ <;> rw [settle] <;> simp

theorem settle_level {level : Level} (flat : level.IsFlat) {outer : List Waiting}
    (base : IsBase outer) {least : Nat} (ends : least ≤ 2) {side : Measured} (flatSide : IsFlat side) :
    ∃ whole, settle least (level.waiting ++ outer) side = .ok (outer, whole) ∧ IsFlat whole ∧
      ∀ row, whole.expression.isMatch row = (level.isMatch row && side.expression.isMatch row) := by
  cases level with
  | fresh => exact ⟨side, settle_base base least side, flatSide, fun row => rfl⟩
  | behind left =>
    obtain ⟨whole, joined, flatWhole, same⟩ := join_flat flat flatSide
    have tight : ¬binding .and < least := Nat.not_lt.mpr ends
    refine ⟨whole, ?_, flatWhole, same⟩
    rw [Level.waiting, List.singleton_append, settle, if_neg tight, joined]
    exact settle_base base least whole

end Joining

section Reading

variable {outer : List Waiting} {groups : Nat} {holds : IndexRow → Bool}

/-- A level is read to its end, and its sides ask for what `holds` tells. -/
inductive IsReadTo (outer : List Waiting) (holds : IndexRow → Bool) : Draft → Prop where
  | level {level : Level} {operand : Operand} {side : Measured} :
    operand.side? = some side → level.IsFlat → IsFlat side →
      (∀ row, (level.isMatch row && side.expression.isMatch row) = holds row) →
      IsReadTo outer holds ⟨level.waiting ++ outer, operand, .nothing⟩

theorem IsReadTo.trailing {draft : Draft} (isRead : IsReadTo outer holds draft) :
    draft.trailing = .nothing := by
  cases isRead
  rfl

theorem IsReadTo.settle {draft : Draft} (isRead : IsReadTo outer holds draft) (base : IsBase outer)
    {least : Nat} (ends : least ≤ 2) :
    ∃ side whole, draft.operand.side? = some side ∧
      settle least draft.waiting side = .ok (outer, whole) ∧ IsFlat whole ∧
      ∀ row, whole.expression.isMatch row = holds row := by
  obtain ⟨present, flat, flatSide, same⟩ := isRead
  obtain ⟨whole, settled, flatWhole, sameWhole⟩ := settle_level flat base ends flatSide
  exact ⟨_, whole, present, settled, flatWhole, fun row => (sameWhole row).trans (same row)⟩

theorem IsReadTo.closing {draft : Draft} (isRead : IsReadTo (.group :: outer) holds draft) :
    ∃ whole, draft.take .closing = .ok ⟨outer, .complete whole, .nothing⟩ ∧ IsFlat whole ∧
      ∀ row, whole.expression.isMatch row = holds row := by
  obtain ⟨side, whole, present, settled, flat, same⟩ :=
    isRead.settle (.inr ⟨outer, rfl⟩) (Nat.zero_le 2)
  refine ⟨whole, ?_, flat, same⟩
  rw [Draft.take_closing, Draft.closing, present]
  simp only [settled]
  rfl

theorem IsReadTo.connector {draft : Draft} (isRead : IsReadTo outer holds draft)
    (base : IsBase outer) :
    ∃ whole, draft.take (.connector .and) =
        .ok ⟨(Level.behind whole).waiting ++ outer, .missing, .nothing⟩ ∧ IsFlat whole ∧
      ∀ row, whole.expression.isMatch row = holds row := by
  obtain ⟨side, whole, present, settled, flat, same⟩ := isRead.settle base (Nat.le_refl 2)
  refine ⟨whole, ?_, flat, same⟩
  rw [Draft.take_connector, Draft.connector, present, binding]
  simp only [settled]
  rfl

/-- A level is read to its end, or what waits and so many groups are too much to be held. -/
inductive Conjoins (outer : List Waiting) (groups : Nat) (holds : IndexRow → Bool) :
    Except ExpressionError Draft → Prop where
  | read {draft : Draft} : IsReadTo outer holds draft → Conjoins outer groups holds (.ok draft)
  | overflow : greatestWeight < weight outer + 3 * groups + 4 →
    Conjoins outer groups holds (.error .overflow)

theorem Conjoins.bind {whole : List Waiting} {more : Nat} {all : IndexRow → Bool}
    {first : Except ExpressionError Draft} {next : Draft → Except ExpressionError Draft}
    (conjoins : Conjoins outer groups holds first)
    (heavier : weight outer + 3 * groups ≤ weight whole + 3 * more)
    (goesOn : ∀ draft, IsReadTo outer holds draft → Conjoins whole more all (next draft)) :
    Conjoins whole more all (first >>= next) := by
  cases conjoins with
  | read isRead => exact goesOn _ isRead
  | overflow tooMuch => exact .overflow (by omega)

theorem Conjoins.mono {more : Nat} {all : IndexRow → Bool} {read : Except ExpressionError Draft}
    (conjoins : Conjoins outer groups holds read) (fewer : groups ≤ more)
    (same : ∀ row, holds row = all row) : Conjoins outer more all read := by
  rw [← bind_pure read]
  obtain rfl : holds = all := funext same
  exact conjoins.bind (by omega) fun draft isRead => .read isRead

/-- The reader ends a conjunction on the level on which it began. -/
theorem conjoins_conjunction {lexemes : List Lexeme} (conjunction : IsConjunction lexemes)
    (level : Level) (flat : level.IsFlat) (base : IsBase outer) :
    Conjoins outer (lexemes.count .opening) (fun row => level.isMatch row && holdsAll lexemes row)
      (lexemes.foldlM Draft.take ⟨level.waiting ++ outer, .missing, .nothing⟩) := by
  -- A right side begins behind what was joined before it, and a group begins a fresh level.
  induction conjunction generalizing level outer with
  | @phrase lexeme isPhrase =>
    have weighs := level.weight_waiting_append outer
    obtain ⟨phrase, asked⟩ := isPhrase.exists_sought
    rw [List.foldlM_cons, Draft.take_first asked]
    split
    next tooMuch => exact .overflow (by omega)
    next =>
      refine .read (.level rfl flat (isFlat_phrase phrase) fun row => ?_)
      simp [holdsAll, asked, Measured.leaf, Expression.isMatch]
  | @group inner _ ih =>
    have weighs := level.weight_waiting_append outer
    have counted : (Lexeme.opening :: (inner ++ [Lexeme.closing])).count .opening =
        inner.count .opening + 1 := by
      simp
    have asked (row : IndexRow) :
        holdsAll (Lexeme.opening :: (inner ++ [Lexeme.closing])) row = holdsAll inner row := by
      simp [holdsAll, Lexeme.sought?]
    rw [List.cons_append, counted, List.foldlM_cons, Draft.take_opening rfl]
    change Conjoins outer _ _ ((hold (weight (level.waiting ++ outer) + 1) >>= fun _ =>
      .ok ⟨.group :: (level.waiting ++ outer), .missing, .nothing⟩) >>=
        fun draft => (inner ++ [Lexeme.closing]).foldlM Draft.take draft)
    rw [hold]
    split
    next tooMuch => exact .overflow (by omega)
    next =>
      change Conjoins outer _ _ ((inner ++ [Lexeme.closing]).foldlM Draft.take
        ⟨Level.fresh.waiting ++ .group :: (level.waiting ++ outer), .missing, .nothing⟩)
      rw [List.foldlM_append]
      refine (ih .fresh trivial (.inr ⟨_, rfl⟩)).bind ?_ fun draft isRead => ?_
      · change weight (level.waiting ++ outer) + 1 + _ ≤ _
        omega
      · obtain ⟨whole, closed, flatWhole, same⟩ := isRead.closing
        rw [List.foldlM_cons, closed]
        refine .read (.level rfl flat flatWhole fun row => ?_)
        rw [same, asked, Level.isMatch, Bool.true_and]
  | @joined left right _ _ ihLeft ihRight =>
    have counted : (left ++ Lexeme.connector .and :: right).count .opening =
        left.count .opening + right.count .opening := by
      simp
    have asked (row : IndexRow) : holdsAll (left ++ Lexeme.connector .and :: right) row =
        (holdsAll left row && holdsAll right row) := holdsAll_append left _ row
    rw [counted, List.foldlM_append]
    refine (ihLeft level flat base).bind (by omega) fun draft isRead => ?_
    obtain ⟨whole, joined, flatWhole, same⟩ := isRead.connector base
    rw [List.foldlM_cons, joined]
    refine (ihRight (.behind whole) flatWhole base).mono (by omega) fun row => ?_
    rw [asked, Level.isMatch, same, Bool.and_assoc]

theorem parseExpression_conjunction {text : String} {lexemes : List Lexeme}
    (lexed : lex text.toList = .ok lexemes) (conjunction : IsConjunction lexemes) :
    (parseExpression text = .error .overflow ∧ 31 < lexemes.count .opening) ∨
      ∃ expression, parseExpression text = .ok expression ∧
        ∀ row, expression.isMatch row = holdsAll lexemes row := by
  have whole : IsBase [] := .inl rfl
  have conjoins := conjoins_conjunction conjunction .fresh trivial whole
  have steps : parseExpression text =
      lexemes.foldlM Draft.take ⟨Level.fresh.waiting ++ [], .missing, .nothing⟩ >>=
        Draft.expression := parseExpression_sentence lexed conjunction.isSentence
  rw [steps]
  cases read : lexemes.foldlM Draft.take ⟨Level.fresh.waiting ++ [], .missing, .nothing⟩ with
  | error error =>
    rw [read] at conjoins
    cases conjoins with
    | overflow tooMuch =>
      rw [weight, greatestWeight] at tooMuch
      exact .inl ⟨rfl, by omega⟩
  | ok draft =>
    rw [read] at conjoins
    cases conjoins with
    | read isRead =>
      obtain ⟨side, joined, present, settled, -, same⟩ := isRead.settle whole (Nat.zero_le 2)
      refine .inr ⟨joined.expression, ?_, same⟩
      change draft.expression = _
      rw [Draft.expression, Draft.settled_of_nothing isRead.trailing]
      simp only [bind, Except.bind, present, settled]
      rfl

end Reading

theorem holdsAll_filter (lexemes : List Lexeme) (row : IndexRow) :
    holdsAll (lexemes.filter fun lexeme => !lexeme.isConnector) row = holdsAll lexemes row := by
  induction lexemes with
  | nil => rfl
  | cons lexeme rest ih =>
    have split := holdsAll_append [lexeme] rest row
    rw [List.singleton_append, ← ih] at split
    rw [split, List.filter_cons]
    cases lexeme with
    | connector _ => rfl
    | _ => exact holdsAll_append [_] _ row

theorem parseExpression_operands {text : String} {list : List Piece}
    (lexed : lex text.toList = .ok ((joined list).map Piece.lexeme))
    (operands : ∀ piece ∈ list, piece.IsOperand) (nonempty : list ≠ []) :
    ∃ expression, parseExpression text = .ok expression ∧
      ∀ row, expression.isMatch row = holdsAll (list.map Piece.lexeme) row := by
  have grouped := isGrouped_operands operands
  have kept := grouped.filter_lexemes
  have noGroup : ((joined list).map Piece.lexeme).count .opening = 0 := by
    rw [← List.count_filter (p := fun lexeme => !lexeme.isConnector) rfl, kept,
      List.count_eq_zero, List.mem_map]
    rintro ⟨piece, member, opening⟩
    have isPhrase := (operands piece member).isPhrase_lexeme
    rw [opening] at isPhrase
    cases isPhrase
  rcases parseExpression_conjunction lexed (grouped.isConjunction nonempty) with
    ⟨-, tooMany⟩ | ⟨expression, read, same⟩
  · rw [noGroup] at tooMany
    exact absurd tooMany (Nat.not_lt_zero 31)
  · refine ⟨expression, read, fun row => ?_⟩
    rw [same, ← kept, holdsAll_filter]

/-- The text compiles to these lexemes, a conjunction of all its terms and phrases, and they are read as
that; only where groups are too many can they be too much to be held. -/
structure IsConjoined (text : String) (lexemes : List Lexeme) : Prop where
  lexed : lex (compile text).toList = .ok lexemes
  conjunction : IsConjunction lexemes
  kept : lexemes.filter (fun lexeme => !lexeme.isConnector) =
    (pieces text.toList).map Piece.lexeme
  read : (parseExpression (compile text) = .error .overflow ∧ 31 < lexemes.count .opening) ∨
    ∃ expression, parseExpression (compile text) = .ok expression ∧
      ∀ row, expression.isMatch row = holdsAll ((pieces text.toList).map Piece.lexeme) row

theorem isConjoined_grouped {text : String} (grouped : IsGrouped (pieces text.toList))
    (nonempty : pieces text.toList ≠ []) (unstarred : IsUnstarred text)
    (noNul : Text.HasNoNul text.toList) :
    IsConjoined text ((joined (pieces text.toList)).map Piece.lexeme) := by
  have lexed := lex_compile unstarred noNul
  have conjunction := grouped.isConjunction nonempty
  have kept := grouped.filter_lexemes
  refine ⟨lexed, conjunction, kept, ?_⟩
  refine (parseExpression_conjunction lexed conjunction).imp_right ?_
  rintro ⟨expression, read, same⟩
  refine ⟨expression, read, fun row => ?_⟩
  rw [same, ← kept, holdsAll_filter]

end ModelCatalog.TextMatch
