import Mathlib.Tactic.SplitIfs
import ModelCatalog.Proofs.TextMatch.Grammar
import ModelCatalog.TextMatch.Reader

/-!
Reading without near groups. A string waits to see whether a group opens after it. In a sentence none
does, so that a sentence is read alike if every string is settled at once.
-/

namespace ModelCatalog.TextMatch

open TextIndex (Phrase)

def Lexeme.sought? : Lexeme → Option Phrase
  | phrase text isPrefix => some (.ofText text isPrefix)
  | near => some (.ofText nearText false)
  | _ => none

theorem Lexeme.IsPhrase.exists_sought {lexeme : Lexeme} (isPhrase : lexeme.IsPhrase) :
    ∃ phrase, lexeme.sought? = some phrase := by
  cases isPhrase <;> exact ⟨_, rfl⟩

/-- A string trails only where phrases stand last, and nothing else trails. -/
inductive Trails : Trailing → Ending → Prop where
  | nothing (ending : Ending) : Trails .nothing ending
  | string (phrase : Phrase) (isNear : Bool) : Trails (.string phrase isNear) .phrases

namespace Draft

def take (draft : Draft) (lexeme : Lexeme) : Except ExpressionError Draft :=
  draft.next lexeme >>= settled

theorem settled_of_nothing {draft : Draft} (nothing : draft.trailing = .nothing) :
    draft.settled = .ok draft := by
  rw [settled, nothing]

theorem not_refused (draft : Draft) (side : Measured) (after : Draft) :
    draft.refused side ≠ .ok after := by
  rw [refused]
  cases settle 0 draft.waiting side <;> rintro ⟨⟩

theorem trailing_of_add {draft after : Draft} {expression : Expression}
    (added : draft.add expression = .ok after) : after.trailing = .nothing := by
  rw [add] at added
  split at added
  next => exact absurd added (draft.not_refused _ after)
  next =>
    obtain rfl := Except.ok.inj added
    rfl
  next =>
    split at added
    next =>
      obtain rfl := Except.ok.inj added
      rfl
    next => cases added

theorem bind_ok {α β : Type} {first : Except ExpressionError α} {next : α → Except ExpressionError β}
    {result : β} (done : first >>= next = .ok result) :
    ∃ middle, first = .ok middle ∧ next middle = .ok result := by
  cases first with
  | error error => cases done
  | ok middle => exact ⟨middle, rfl, done⟩

theorem trailing_of_settled {draft after : Draft} (done : draft.settled = .ok after) :
    after.trailing = .nothing := by
  rw [settled] at done
  split at done
  next nothing =>
    obtain rfl := Except.ok.inj done
    exact nothing
  next =>
    obtain ⟨_, _, added⟩ := bind_ok done
    exact trailing_of_add added
  next =>
    obtain ⟨_, _, thrown⟩ := bind_ok done
    cases thrown
  next => exact trailing_of_add done
  next => cases done

theorem settled_settled (draft : Draft) : draft.settled >>= settled = draft.settled := by
  cases done : draft.settled with
  | error error => rfl
  | ok after => exact settled_of_nothing (trailing_of_settled done)

theorem trails_of_string {draft after : Draft} {phrase : Phrase} {isNear : Bool}
    (done : draft.string phrase isNear = .ok after) : Trails after.trailing .phrases := by
  rw [string] at done
  split at done
  next => exact absurd done (draft.not_refused _ after)
  next =>
    obtain ⟨_, _, held⟩ := bind_ok done
    obtain rfl := Except.ok.inj held
    exact .string phrase isNear

theorem trailing_of_connector {draft after : Draft} {connector : Connector}
    (done : draft.connector connector = .ok after) : after.trailing = .nothing := by
  rw [Draft.connector] at done
  split at done
  next => cases done
  next =>
    obtain ⟨_, _, settled⟩ := bind_ok done
    obtain rfl := Except.ok.inj settled
    rfl

theorem trailing_of_opening {draft after : Draft} (nothing : draft.trailing = .nothing)
    (done : draft.opening = .ok after) : after.trailing = .nothing := by
  rw [opening] at done
  split at done
  next => exact absurd done (draft.not_refused _ after)
  next =>
    obtain ⟨_, _, held⟩ := bind_ok done
    obtain rfl := Except.ok.inj held
    exact nothing

theorem trailing_of_closing {draft after : Draft} (done : draft.closing = .ok after) :
    after.trailing = .nothing := by
  rw [closing] at done
  split at done
  next => cases done
  next =>
    obtain ⟨_, _, settled⟩ := bind_ok done
    split at settled
    next =>
      obtain rfl := Except.ok.inj settled
      rfl
    next => cases settled

theorem trails_of_next {draft after : Draft} {lexeme : Lexeme} {place placeAfter : Place}
    (nothing : draft.trailing = .nothing) (done : draft.next lexeme = .ok after)
    (goesOn : place.next? lexeme = some placeAfter) : Trails after.trailing placeAfter.ending := by
  have phrases (isPhrase : lexeme.IsPhrase) : placeAfter.ending = .phrases := by
    rw [Place.next?_of_isPhrase isPhrase] at goesOn
    split at goesOn
    next => cases goesOn
    next =>
      obtain rfl := Option.some.inj goesOn
      rfl
  cases lexeme with
  | phrase text isPrefix =>
    rw [phrases (.phrase text isPrefix)]
    cases isPrefix with
    | false => exact trails_of_string done
    | true =>
      obtain ⟨_, _, settled⟩ := bind_ok done
      exact trailing_of_settled settled ▸ .nothing _
  | near => exact phrases .near ▸ trails_of_string done
  | connector connector => exact trailing_of_connector done ▸ .nothing _
  | opening => exact trailing_of_opening nothing done ▸ .nothing _
  | closing => exact trailing_of_closing done ▸ .nothing _

theorem lexeme_eq {draft : Draft} {lexeme : Lexeme} {place placeAfter : Place}
    (trails : Trails draft.trailing place.ending) (goesOn : place.next? lexeme = some placeAfter) :
    draft.lexeme lexeme = draft.settled >>= fun draft => draft.next lexeme := by
  obtain ⟨waiting, operand, trailing⟩ := draft
  obtain ⟨groups, ending⟩ := place
  cases trails with
  | nothing => rfl
  | string phrase isNear =>
    cases lexeme with
    | opening => cases goesOn
    | _ => rfl

theorem foldlM_lexeme {lexemes : List Lexeme} {draft : Draft} {place placeAfter : Place}
    (trails : Trails draft.trailing place.ending)
    (leads : lexemes.foldlM Place.next? place = some placeAfter) :
    lexemes.foldlM lexeme draft >>= settled = draft.settled >>= lexemes.foldlM take := by
  -- The runs are compared behind a string that may still trail: the next lexeme settles it.
  induction lexemes generalizing draft place with
  | nil => exact (bind_pure draft.settled).symm
  | cons first rest ih =>
    obtain ⟨middle, goesOn, leadsOn⟩ := Option.bind_eq_some_iff.mp leads
    rw [List.foldlM_cons, lexeme_eq trails goesOn, bind_assoc, bind_assoc]
    cases done : draft.settled with
    | error error => rfl
    | ok settledDraft =>
      change (settledDraft.next first >>= fun after => rest.foldlM lexeme after >>= settled) =
        (settledDraft.next first >>= settled) >>= rest.foldlM take
      rw [bind_assoc]
      cases next : settledDraft.next first with
      | error error => rfl
      | ok after => exact ih (trails_of_next (trailing_of_settled done) next goesOn) leadsOn

theorem expression_settled (draft : Draft) :
    draft.settled >>= expression = draft.expression := by
  cases done : draft.settled with
  | error error =>
    rw [expression, done]
    rfl
  | ok after =>
    change after.expression = draft.expression
    rw [expression, expression, done, settled_of_nothing (trailing_of_settled done)]

section Steps

theorem bind_settled {read : Except ExpressionError Draft}
    (nothing : ∀ draft, read = .ok draft → draft.trailing = .nothing) : read >>= settled = read := by
  cases read with
  | error error => rfl
  | ok draft => exact settled_of_nothing (nothing draft rfl)

theorem take_connector (draft : Draft) (connector : Connector) :
    draft.take (.connector connector) = draft.connector connector :=
  bind_settled fun _ => trailing_of_connector

theorem take_opening {draft : Draft} (nothing : draft.trailing = .nothing) :
    draft.take .opening = draft.opening :=
  bind_settled fun _ => trailing_of_opening nothing

theorem take_closing (draft : Draft) : draft.take .closing = draft.closing :=
  bind_settled fun _ => trailing_of_closing

theorem hold_hold {lower upper : Nat} (order : lower ≤ upper) (read : Except ExpressionError Draft) :
    (hold lower >>= fun _ => hold upper >>= fun _ => read) =
      if greatestWeight < upper then .error .overflow else read := by
  rw [hold, hold]
  split_ifs <;> first | rfl | omega

variable {lexeme : Lexeme} {phrase : Phrase} (asked : lexeme.sought? = some phrase)
include asked

theorem take_string (draft : Draft) :
    ∃ isNear, draft.take lexeme = draft.string phrase isNear >>= settled := by
  cases lexeme with
  | phrase text isPrefix =>
    obtain rfl := Option.some.inj asked
    refine ⟨false, ?_⟩
    cases isPrefix with
    | false => rfl
    | true =>
      rw [take, next, bind_assoc]
      simp only [settled_settled]
  | near =>
    obtain rfl := Option.some.inj asked
    exact ⟨true, rfl⟩
  | _ => cases asked

theorem take_first (waiting : List Waiting) :
    take ⟨waiting, .missing, .nothing⟩ lexeme =
      if greatestWeight < TextMatch.weight waiting + 2 then .error .overflow
      else .ok ⟨waiting, .phrases (.leaf (.phrase phrase)), .nothing⟩ := by
  obtain ⟨isNear, taken⟩ := take_string asked ⟨waiting, .missing, .nothing⟩
  rw [taken, string, bind_assoc]
  exact hold_hold (Nat.le_succ _) _

theorem take_beside (waiting : List Waiting) (side : Measured) :
    take ⟨waiting, .phrases side, .nothing⟩ lexeme =
      if greatestWeight < TextMatch.weight waiting + 3 then .error .overflow
      else match side.beside (.phrase phrase) with
        | some side => .ok ⟨waiting, .phrases side, .nothing⟩
        | none => .error .tooLarge := by
  obtain ⟨isNear, taken⟩ := take_string asked ⟨waiting, .phrases side, .nothing⟩
  rw [taken, string, bind_assoc]
  exact hold_hold (Nat.le_succ _) _

end Steps

end Draft

/-- Sentences can be read with every string settled at once. -/
theorem parseExpression_sentence {text : String} {lexemes : List Lexeme}
    (lexed : lex text.toList = .ok lexemes) (sentence : IsSentence lexemes) :
    parseExpression text = lexemes.foldlM Draft.take {} >>= Draft.expression := by
  obtain ⟨ending, -, leads⟩ := Place.foldlM_sentence sentence 0
  have fresh : Trails ({} : Draft).trailing .missing := .nothing .missing
  have settled := Draft.foldlM_lexeme fresh leads
  rw [Draft.settled_of_nothing rfl] at settled
  have scanned : scan text.toList = ⟨lexemes, none⟩ := by
    rw [lex] at lexed
    split at lexed
    next found scanned =>
      obtain rfl := Except.ok.inj lexed
      exact scanned
    next => cases lexed
  calc parseExpression text
    _ = lexemes.foldlM Draft.lexeme {} >>= Draft.expression := by rw [parseExpression, scanned]
    _ = (lexemes.foldlM Draft.lexeme {} >>= Draft.settled) >>= Draft.expression := by
      simp only [bind_assoc, Draft.expression_settled]
    _ = lexemes.foldlM Draft.take {} >>= Draft.expression := by
      rw [settled]
      rfl

end ModelCatalog.TextMatch
