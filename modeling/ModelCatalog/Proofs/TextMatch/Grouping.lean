import ModelCatalog.Proofs.TextMatch.Grammar
import ModelCatalog.Proofs.TextMatch.Lexing

/-!
Pieces without connectors. The joints at which an AND is put in are those of terms, phrases and whole
groups that stand side by side, so that what parentheses group properly is read as one conjunction.
-/

namespace ModelCatalog.TextMatch

def Lexeme.isConnector : Lexeme → Bool
  | connector _ => true
  | _ => false

theorem Piece.isConnector_lexeme (piece : Piece) : piece.lexeme.isConnector = piece.isConnector := by
  cases piece with
  | term text =>
    rw [lexeme]
    split_ifs <;> rfl
  | _ => rfl

theorem Piece.IsOperand.isPhrase_lexeme {piece : Piece} (operand : piece.IsOperand) :
    piece.lexeme.IsPhrase := by
  cases operand with
  | term text =>
    rw [lexeme]
    split_ifs
    · exact .near
    · exact .phrase _ _
    · exact .phrase text false
  | phrase text => exact .phrase text false

theorem filter_lexemes_joined (list : List Piece) :
    ((joined list).map Piece.lexeme).filter (fun lexeme => !lexeme.isConnector) =
      (list.filter fun piece => !piece.isConnector).map Piece.lexeme := by
  rw [List.filter_map, ← filter_joined]
  congr 2
  funext piece
  rw [Function.comp_apply, Piece.isConnector_lexeme]

/-- Phrases and groups, with an AND between any two that stand side by side and nowhere else. -/
inductive IsConjunction : List Lexeme → Prop where
  | phrase {lexeme : Lexeme} : lexeme.IsPhrase → IsConjunction [lexeme]
  | group {inner : List Lexeme} :
    IsConjunction inner → IsConjunction (.opening :: inner ++ [.closing])
  | joined {left right : List Lexeme} :
    IsConjunction left → IsConjunction right → IsConjunction (left ++ .connector .and :: right)

theorem IsConjunction.isSentence {lexemes : List Lexeme} (conjunction : IsConjunction lexemes) :
    IsSentence lexemes := by
  induction conjunction with
  | phrase isPhrase =>
    refine .phrases (List.cons_ne_nil _ _) fun lexeme member => ?_
    exact List.mem_singleton.mp member ▸ isPhrase
  | group _ inner => exact .group inner
  | joined _ _ left right => exact .joined .and left right

/-- Operands and groups side by side, with an operand in every group. -/
inductive IsGrouped : List Piece → Prop where
  | nil : IsGrouped []
  | operand {piece : Piece} {rest : List Piece} :
    piece.IsOperand → IsGrouped rest → IsGrouped (piece :: rest)
  | group {inner rest : List Piece} : IsGrouped inner → (∃ piece ∈ inner, piece.IsOperand) →
    IsGrouped rest → IsGrouped (.opening :: inner ++ .closing :: rest)

theorem isGrouped_operands {list : List Piece} (operands : ∀ piece ∈ list, piece.IsOperand) :
    IsGrouped list := by
  induction list with
  | nil => exact .nil
  | cons piece rest ih =>
    exact .operand (operands piece List.mem_cons_self)
      (ih fun other later => operands other (List.mem_cons_of_mem piece later))

theorem IsGrouped.noConnector {list : List Piece} (grouped : IsGrouped list) :
    list.any Piece.isConnector = false := by
  induction grouped with
  | nil => rfl
  | operand operand _ ih => rw [List.any_cons, operand.not_isConnector, ih, Bool.or_self]
  | group _ _ _ inner rest =>
    rw [List.any_append, List.any_cons, inner, List.any_cons, rest]
    rfl

theorem joined_eq_joinedAfter {list : List Piece} (noConnector : list.any Piece.isConnector = false) :
    joined list = joinedAfter true .opening list := by
  cases list with
  | nil => rfl
  | cons piece rest =>
    rw [joined, noConnector]
    rfl

theorem joinedAfter_closing (before : Piece) (inner rest : List Piece) :
    joinedAfter true before (inner ++ .closing :: rest) =
      joinedAfter true before inner ++ .closing :: joinedAfter true .closing rest := by
  induction inner generalizing before with
  | nil =>
    have noJoint : isJoint before .closing = false := by simp [isJoint]
    rw [List.nil_append, joinedAfter, joinedAfter, noJoint]
    rfl
  | cons piece inner ih =>
    rw [List.cons_append, joinedAfter, joinedAfter, ih, List.append_assoc, List.cons_append]

theorem joinedAfter_behind {before : Piece} (notOpening : before ≠ .opening) {list : List Piece}
    (grouped : IsGrouped list) (more : list ≠ []) :
    joinedAfter true before list = .connector .and :: joinedAfter true .opening list := by
  have begun {piece : Piece} (notClosing : piece ≠ .closing) (rest : List Piece) :
      joinedAfter true before (piece :: rest) =
        .connector .and :: joinedAfter true .opening (piece :: rest) := by
    have joint : isJoint before piece = true := by simp [isJoint, notOpening, notClosing]
    rw [joinedAfter, joint, joinedAfter]
    rfl
  cases grouped with
  | nil => exact absurd rfl more
  | @operand piece rest operand _ =>
    refine begun ?_ rest
    rintro rfl
    cases operand
  | group _ _ _ => exact begun Piece.noConfusion _

theorem IsConjunction.behind {front : List Lexeme} (conjunction : IsConjunction front)
    {before : Piece} (notOpening : before ≠ .opening) {rest : List Piece} (grouped : IsGrouped rest)
    (restConjunction : rest ≠ [] →
      IsConjunction ((joinedAfter true .opening rest).map Piece.lexeme)) :
    IsConjunction (front ++ (joinedAfter true before rest).map Piece.lexeme) := by
  by_cases alone : rest = []
  · subst alone
    rwa [joinedAfter, List.map_nil, List.append_nil]
  · rw [joinedAfter_behind notOpening grouped alone]
    exact .joined conjunction (restConjunction alone)

theorem IsGrouped.isConjunction_joinedAfter {list : List Piece} (grouped : IsGrouped list)
    (nonempty : list ≠ []) :
    IsConjunction ((joinedAfter true .opening list).map Piece.lexeme) := by
  induction grouped with
  | nil => exact absurd rfl nonempty
  | @operand piece rest operand grouped ih =>
    have alone : IsConjunction [piece.lexeme] := .phrase operand.isPhrase_lexeme
    have notOpening : piece ≠ .opening := by
      rintro rfl
      cases operand
    exact alone.behind notOpening grouped ih
  | @group inner rest _ worded grouped ihInner ih =>
    obtain ⟨piece, member, _⟩ := worded
    have notOpening : Piece.closing ≠ .opening := by decide
    have whole := (ihInner (List.ne_nil_of_mem member)).group.behind notOpening grouped ih
    have shape : joinedAfter true .opening (.opening :: inner ++ .closing :: rest) =
        .opening :: (joinedAfter true .opening inner ++
          .closing :: joinedAfter true .closing rest) :=
      congrArg (Piece.opening :: ·) (joinedAfter_closing .opening inner rest)
    rw [shape]
    simpa [Piece.lexeme] using whole

theorem IsGrouped.isConjunction {list : List Piece} (grouped : IsGrouped list)
    (nonempty : list ≠ []) : IsConjunction ((joined list).map Piece.lexeme) := by
  rw [joined_eq_joinedAfter grouped.noConnector]
  exact grouped.isConjunction_joinedAfter nonempty

theorem IsGrouped.filter_lexemes {list : List Piece} (grouped : IsGrouped list) :
    ((joined list).map Piece.lexeme).filter (fun lexeme => !lexeme.isConnector) =
      list.map Piece.lexeme := by
  have all : list.filter (fun piece => !piece.isConnector) = list := by
    rw [List.filter_eq_self]
    intro piece member
    simpa using List.any_eq_false.mp grouped.noConnector piece member
  rw [filter_lexemes_joined, all]

end ModelCatalog.TextMatch
