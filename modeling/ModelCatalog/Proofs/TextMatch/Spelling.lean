import ModelCatalog.Proofs.TextMatch.Hollow

/-!
How pieces are spelled. A match expression is made of the pieces of a text, with an AND at every joint
if there is no connector among them, and it is split into the same pieces again; only a term that
needed quotes is a phrase from then on.
-/

namespace ModelCatalog.TextMatch

structure IsTermChar (c : Char) : Prop where
  notQuote : c ≠ '"'
  notOpening : c ≠ '('
  notClosing : c ≠ ')'
  visible : Text.isBlank c = false

structure IsTerm (text : List Char) : Prop where
  nonempty : text ≠ []
  noConnector : isConnector text = false
  termChars : ∀ c ∈ text, IsTermChar c

theorem IsTerm.noQuote {text : List Char} (isTerm : IsTerm text) : '"' ∉ text :=
  fun inside => (isTerm.termChars '"' inside).notQuote rfl

namespace Piece

def IsProper : Piece → Prop
  | term text => IsTerm text
  | phrase text => text ≠ [] ∧ '"' ∉ text
  | _ => True

inductive IsOperand : Piece → Prop where
  | term (text : List Char) : IsOperand (.term text)
  | phrase (text : List Char) : IsOperand (.phrase text)

theorem IsOperand.not_isConnector {piece : Piece} (operand : piece.IsOperand) :
    piece.isConnector = false := by
  cases operand <;> rfl

theorem IsOperand.isJoint {before piece : Piece} (operand : piece.IsOperand)
    (operandBefore : before.IsOperand) : isJoint before piece = true := by
  cases operandBefore <;> cases operand <;> rfl

def settled : Piece → Piece
  | term text => if isBareword text then term text else phrase text
  | piece => piece

end Piece

section Splitting

instance (c : Char) : Decidable (IsTermChar c) :=
  decidable_of_iff (c ≠ '"' ∧ c ≠ '(' ∧ c ≠ ')' ∧ Text.isBlank c = false)
    ⟨fun ⟨notQuote, notOpening, notClosing, visible⟩ =>
      ⟨notQuote, notOpening, notClosing, visible⟩,
    fun isTermChar =>
      ⟨isTermChar.notQuote, isTermChar.notOpening, isTermChar.notClosing, isTermChar.visible⟩⟩

/-- A character that ends a word, the pieces that it is, and what is pending after it. -/
inductive Ends : Char → List Piece → Pending → Prop where
  | quote : Ends '"' [] (.phrase [])
  | opening : Ends '(' [.opening] (.word [])
  | closing : Ends ')' [.closing] (.word [])
  | blank {c : Char} : Text.isBlank c = true → Ends c [] (.word [])

theorem piecesFrom_word_cons (buffer : List Char) (c : Char) (rest : List Char) :
    (IsTermChar c ∧ piecesFrom (.word buffer) (c :: rest) = piecesFrom (.word (c :: buffer)) rest) ∨
      ∃ marks next, Ends c marks next ∧ piecesFrom (.word buffer) (c :: rest) =
        Pending.wordPiece buffer ++ (marks ++ piecesFrom next rest) := by
  rw [piecesFrom]
  split
  next quote => exact .inr ⟨[], _, quote ▸ .quote, rfl⟩
  next notQuote =>
    split
    next opening => exact .inr ⟨[.opening], _, opening ▸ .opening, rfl⟩
    next notOpening =>
      split
      next closing => exact .inr ⟨[.closing], _, closing ▸ .closing, rfl⟩
      next notClosing =>
        split
        next blank => exact .inr ⟨[], _, .blank blank, rfl⟩
        next visible =>
          exact .inl ⟨⟨notQuote, notOpening, notClosing, by simpa using visible⟩, rfl⟩

theorem piecesFrom_word {word : List Char} (termChars : ∀ c ∈ word, IsTermChar c)
    (buffer rest : List Char) :
    piecesFrom (.word buffer) (word ++ rest) = piecesFrom (.word (word.reverse ++ buffer)) rest := by
  induction word generalizing buffer with
  | nil => rfl
  | cons c word ih =>
    have first := termChars c List.mem_cons_self
    rw [List.cons_append, piecesFrom, if_neg first.notQuote, if_neg first.notOpening,
      if_neg first.notClosing, if_neg (by simp [first.visible]),
      ih fun d later => termChars d (List.mem_cons_of_mem c later)]
    simp

theorem piecesFrom_phrase {text : List Char} (noQuote : '"' ∉ text) (buffer rest : List Char) :
    piecesFrom (.phrase buffer) (text ++ '"' :: rest) =
      Pending.phrasePiece (text.reverse ++ buffer) ++ piecesFrom (.word []) rest := by
  induction text generalizing buffer with
  | nil => simp [piecesFrom]
  | cons c text ih =>
    have other : c ≠ '"' := fun same => noQuote (same ▸ List.mem_cons_self)
    rw [List.cons_append, piecesFrom, if_neg other,
      ih fun inside => noQuote (List.mem_cons_of_mem c inside)]
    simp

/-- What is pending holds none of the marks that would have ended it. -/
inductive Pending.IsSound : Pending → Prop where
  | word {buffer : List Char} : (∀ c ∈ buffer, IsTermChar c) → IsSound (.word buffer)
  | phrase {buffer : List Char} : '"' ∉ buffer → IsSound (.phrase buffer)

theorem isSound_fresh : (Pending.word []).IsSound := .word fun _ none => nomatch none

theorem Ends.isSound {c : Char} {marks : List Piece} {next : Pending} (ends : Ends c marks next) :
    next.IsSound := by
  cases ends with
  | quote => exact .phrase List.not_mem_nil
  | opening => exact isSound_fresh
  | closing => exact isSound_fresh
  | blank _ => exact isSound_fresh

theorem Ends.isProper {c : Char} {marks : List Piece} {next : Pending} (ends : Ends c marks next)
    {piece : Piece} (member : piece ∈ marks) : piece.IsProper := by
  cases ends with
  | quote => cases member
  | opening => exact List.mem_singleton.mp member ▸ trivial
  | closing => exact List.mem_singleton.mp member ▸ trivial
  | blank _ => cases member

theorem isProper_of_mem_wordPiece {buffer : List Char} (termChars : ∀ c ∈ buffer, IsTermChar c)
    {piece : Piece} (member : piece ∈ Pending.wordPiece buffer) : piece.IsProper := by
  rw [Pending.wordPiece] at member
  split at member
  next => cases member
  next pending =>
    split at member
    next connector _ => exact List.mem_singleton.mp member ▸ trivial
    next none =>
      obtain rfl := List.mem_singleton.mp member
      refine ⟨by simpa using pending, by simp [isConnector, none], ?_⟩
      exact fun c inside => termChars c (List.mem_reverse.mp inside)

theorem isProper_of_mem_phrasePiece {buffer : List Char} (noQuote : '"' ∉ buffer) {piece : Piece}
    (member : piece ∈ Pending.phrasePiece buffer) : piece.IsProper := by
  rw [Pending.phrasePiece] at member
  split at member
  next => cases member
  next pending =>
    obtain rfl := List.mem_singleton.mp member
    exact ⟨by simpa using pending, by simpa using noQuote⟩

theorem isProper_of_mem_piecesFrom {pending : Pending} (sound : pending.IsSound) {text : List Char}
    {piece : Piece} (member : piece ∈ piecesFrom pending text) : piece.IsProper := by
  induction text generalizing pending with
  | nil =>
    cases sound with
    | word termChars => exact isProper_of_mem_wordPiece termChars member
    | phrase noQuote => exact isProper_of_mem_phrasePiece noQuote member
  | cons c rest ih =>
    cases sound with
    | @word buffer termChars =>
      rcases piecesFrom_word_cons buffer c rest with
        ⟨isTermChar, goesOn⟩ | ⟨marks, next, ends, parts⟩
      · rw [goesOn] at member
        exact ih (.word (List.forall_mem_cons.mpr ⟨isTermChar, termChars⟩)) member
      · rw [parts, List.mem_append, List.mem_append] at member
        rcases member with word | mark | later
        · exact isProper_of_mem_wordPiece termChars word
        · exact ends.isProper mark
        · exact ih ends.isSound later
    | @phrase buffer noQuote =>
      rw [piecesFrom] at member
      split at member
      next =>
        rcases List.mem_append.mp member with first | later
        · exact isProper_of_mem_phrasePiece noQuote first
        · exact ih isSound_fresh later
      next other =>
        have stillNone : '"' ∉ c :: buffer := by
          simpa [List.mem_cons, noQuote] using fun same => other same.symm
        exact ih (.phrase stillNone) member

theorem isProper_of_mem_pieces {text : List Char} {piece : Piece} (member : piece ∈ pieces text) :
    piece.IsProper :=
  isProper_of_mem_piecesFrom isSound_fresh member

end Splitting

section Rendering

theorem doubleQuotes_eq {text : List Char} (noQuote : '"' ∉ text) : doubleQuotes text = text := by
  induction text with
  | nil => rfl
  | cons c rest ih =>
    have other : c ≠ '"' := fun same => noQuote (same ▸ List.mem_cons_self)
    have more := ih fun inside => noQuote (List.mem_cons_of_mem c inside)
    rw [doubleQuotes] at more ⊢
    rw [List.flatMap_cons, if_neg other, more]
    rfl

theorem render_term {text : List Char} (isTerm : IsTerm text) :
    (Piece.term text).render = if isBareword text then text else quoted text := by
  rw [Piece.render, renderTerm, doubleQuotes_eq isTerm.noQuote]

theorem render_settled {piece : Piece} (proper : piece.IsProper) :
    piece.settled.render = piece.render := by
  cases piece with
  | term text =>
    rw [render_term proper, Piece.settled]
    split
    next bare => rw [render_term proper, if_pos bare]
    next => rfl
  | _ => rfl

/-- The text is one piece, whether a blank or nothing comes after it. -/
structure Holds (text : List Char) (piece : Piece) : Prop where
  beforeBlank : ∀ rest, piecesFrom (.word []) (text ++ ' ' :: rest) =
    piece :: piecesFrom (.word []) rest
  atEnd : piecesFrom (.word []) text = [piece]

theorem holds_word {word : List Char} (termChars : ∀ c ∈ word, IsTermChar c) {piece : Piece}
    (wordPiece : Pending.wordPiece word.reverse = [piece]) : Holds word piece where
  beforeBlank rest := by
    rw [piecesFrom_word termChars, List.append_nil, piecesFrom, if_neg (by decide),
      if_neg (by decide), if_neg (by decide), if_pos (by decide), wordPiece]
    rfl
  atEnd := by
    rw [← List.append_nil word, piecesFrom_word termChars, List.append_nil, piecesFrom, wordPiece]

theorem holds_quoted {text : List Char} (nonempty : text ≠ []) (noQuote : '"' ∉ text) :
    Holds (quoted text) (.phrase text) := by
  have whole (rest : List Char) : piecesFrom (.word []) (quoted text ++ rest) =
      .phrase text :: piecesFrom (.word []) rest := by
    have shape : quoted text ++ rest = '"' :: (text ++ '"' :: rest) := by simp [quoted]
    have piece : Pending.phrasePiece (text.reverse ++ []) = [.phrase text] := by
      simp [Pending.phrasePiece, nonempty]
    rw [shape, piecesFrom, if_pos rfl, piecesFrom_phrase noQuote, piece]
    rfl
  constructor
  · intro rest
    rw [whole, piecesFrom, if_neg (by decide), if_neg (by decide), if_neg (by decide),
      if_pos (by decide)]
    rfl
  · rw [← List.append_nil (quoted text), whole]
    rfl

theorem holds_connector (connector : Connector) : Holds connector.text (.connector connector) := by
  apply holds_word
  · have letters : (connector.text.all fun c => decide (IsTermChar c)) = true := by
      cases connector <;> decide
    simpa using letters
  · rw [Pending.wordPiece, List.reverse_reverse, Connector.ofWord?_text]
    cases connector <;> rfl

theorem holds_render {piece : Piece} (proper : piece.IsProper) :
    Holds piece.render piece.settled := by
  cases piece with
  | term text =>
    have isTerm : IsTerm text := proper
    rw [render_term isTerm, Piece.settled]
    split
    next =>
      apply holds_word isTerm.termChars
      have noConnector : Connector.ofWord? text = none := by
        simpa [isConnector] using isTerm.noConnector
      rw [Pending.wordPiece, if_neg (by simpa using isTerm.nonempty), List.reverse_reverse,
        noConnector]
    next => exact holds_quoted isTerm.nonempty isTerm.noQuote
  | phrase text => exact holds_quoted proper.1 proper.2
  | connector connector => exact holds_connector connector
  | opening => exact ⟨fun rest => rfl, rfl⟩
  | closing => exact ⟨fun rest => rfl, rfl⟩

end Rendering

def spelled (pieces : List Piece) : List Char := [' '].intercalate (pieces.map Piece.render)

theorem spelled_cons (first : Piece) {rest : List Piece} (more : rest ≠ []) :
    spelled (first :: rest) = first.render ++ ' ' :: spelled rest := by
  obtain ⟨second, others, rfl⟩ := List.exists_cons_of_ne_nil more
  rw [spelled, List.map_cons, List.map_cons, List.intercalate_cons_cons, List.append_assoc]
  rfl

def chained (list : List Piece) : List Piece := list.intersperse (.connector .and)

theorem chained_cons (first : Piece) {rest : List Piece} (more : rest ≠ []) :
    chained (first :: rest) = first :: .connector .and :: chained rest := by
  obtain ⟨second, others, rfl⟩ := List.exists_cons_of_ne_nil more
  exact List.intersperse_cons_cons

theorem spelled_chained (list : List Piece) :
    spelled (chained list) = " AND ".toList.intercalate (list.map Piece.render) := by
  induction list with
  | nil => rfl
  | cons first rest ih =>
    cases rest with
    | nil => rfl
    | cons second others =>
      have more : second :: others ≠ [] := List.cons_ne_nil second others
      have worded : chained (second :: others) ≠ [] := by
        cases others <;> exact List.cons_ne_nil second _
      rw [chained_cons first more, spelled_cons _ (List.cons_ne_nil _ _), spelled_cons _ worded, ih]
      simp only [List.map_cons, List.intercalate_cons_cons, List.append_assoc]
      rfl

theorem pieces_spelled {list : List Piece} (proper : ∀ piece ∈ list, piece.IsProper) :
    pieces (spelled list) = list.map Piece.settled := by
  induction list with
  | nil => rfl
  | cons piece rest ih =>
    have first := holds_render (proper piece List.mem_cons_self)
    have later := ih fun other member => proper other (List.mem_cons_of_mem piece member)
    cases rest with
    | nil => rw [spelled, List.map_singleton, List.intercalate_singleton, pieces, first.atEnd]; rfl
    | cons next rest =>
      rw [spelled_cons piece (List.cons_ne_nil next rest), pieces, first.beforeBlank, ← pieces, later]
      rfl

section Joining

def joinedAfter (implicit : Bool) (before : Piece) : List Piece → List Piece
  | [] => []
  | piece :: rest =>
    (if implicit && isJoint before piece then [.connector .and] else []) ++
      piece :: joinedAfter implicit piece rest

/-- The pieces, with an AND at every joint unless there is a connector among them. -/
def joined : List Piece → List Piece
  | [] => []
  | piece :: rest => piece :: joinedAfter (!(piece :: rest).any Piece.isConnector) piece rest

theorem lexemesAfter_eq (implicit : Bool) (before : Piece) (list : List Piece) :
    lexemesAfter implicit before list = (joinedAfter implicit before list).map Piece.render := by
  induction list generalizing before with
  | nil => rfl
  | cons piece rest ih =>
    rw [lexemesAfter, joinedAfter, ih]
    split <;> rfl

theorem toList_compile (text : String) :
    (compile text).toList = spelled (joined (pieces text.toList)) := by
  rw [compile, String.toList_ofList, spelled]
  cases pieces text.toList with
  | nil => rfl
  | cons piece rest =>
    rw [lexemes, lexemesAfter_eq]
    rfl

theorem joinedAfter_explicit (before : Piece) (list : List Piece) :
    joinedAfter false before list = list := by
  induction list generalizing before with
  | nil => rfl
  | cons piece rest ih =>
    rw [joinedAfter, ih]
    rfl

theorem joined_of_connector {list : List Piece} (explicit : list.any Piece.isConnector = true) :
    joined list = list := by
  cases list with
  | nil => rfl
  | cons piece rest =>
    rw [joined, explicit]
    exact congrArg _ (joinedAfter_explicit piece rest)

theorem joinedAfter_cases (before : Piece) (list : List Piece) :
    joinedAfter true before list = list ∨
      (joinedAfter true before list).any Piece.isConnector = true := by
  induction list generalizing before with
  | nil => exact .inl rfl
  | cons piece rest ih =>
    rw [joinedAfter]
    by_cases joint : isJoint before piece = true
    · simp [joint, Piece.isConnector]
    · rcases ih piece with same | explicit
      · simp [joint, same]
      · simp [joint, explicit]

theorem joined_joined (list : List Piece) : joined (joined list) = joined list := by
  by_cases explicit : list.any Piece.isConnector = true
  · rw [joined_of_connector explicit, joined_of_connector explicit]
  · cases list with
    | nil => rfl
    | cons piece rest =>
      have implicit : (piece :: rest).any Piece.isConnector = false := by simpa using explicit
      have shape : joined (piece :: rest) = piece :: joinedAfter true piece rest := by
        rw [joined, implicit]
        rfl
      rcases joinedAfter_cases piece rest with same | connected
      · rw [shape, same, shape, same]
      · rw [shape]
        exact joined_of_connector (by simp [connected])

theorem joined_operands {list : List Piece} (operands : ∀ piece ∈ list, piece.IsOperand) :
    joined list = chained list := by
  have implicit : list.any Piece.isConnector = false := by
    simpa using fun piece member => (operands piece member).not_isConnector
  have after {before : Piece} {rest : List Piece} (begins : before.IsOperand)
      (operands : ∀ piece ∈ rest, piece.IsOperand) :
      before :: joinedAfter true before rest = chained (before :: rest) := by
    induction rest generalizing before with
    | nil => rfl
    | cons piece rest ih =>
      have next := operands piece List.mem_cons_self
      rw [joinedAfter, next.isJoint begins, chained_cons before (List.cons_ne_nil piece rest),
        ← ih next fun other later => operands other (List.mem_cons_of_mem piece later)]
      rfl
  cases list with
  | nil => rfl
  | cons piece rest =>
    rw [joined, implicit]
    exact after (operands piece List.mem_cons_self)
      fun other later => operands other (List.mem_cons_of_mem piece later)

theorem isConnector_settled (piece : Piece) : piece.settled.isConnector = piece.isConnector := by
  cases piece with
  | term text =>
    rw [Piece.settled]
    split <;> rfl
  | _ => rfl

theorem bne_settled {mark : Piece} (parenthesis : mark = .opening ∨ mark = .closing)
    (piece : Piece) : (piece.settled != mark) = (piece != mark) := by
  cases piece with
  | term text =>
    rw [Piece.settled]
    split
    · rfl
    · rcases parenthesis with rfl | rfl <;> rfl
  | _ => rfl

theorem isJoint_settled (before after : Piece) :
    isJoint before.settled after.settled = isJoint before after := by
  rw [isJoint, isJoint, bne_settled (.inl rfl), bne_settled (.inr rfl)]

theorem joinedAfter_settled (implicit : Bool) (before : Piece) (list : List Piece) :
    joinedAfter implicit before.settled (list.map Piece.settled) =
      (joinedAfter implicit before list).map Piece.settled := by
  induction list generalizing before with
  | nil => rfl
  | cons piece rest ih =>
    rw [List.map_cons, joinedAfter, joinedAfter, ih, isJoint_settled]
    split <;> rfl

theorem joined_settled (list : List Piece) :
    joined (list.map Piece.settled) = (joined list).map Piece.settled := by
  cases list with
  | nil => rfl
  | cons piece rest =>
    have same : ((piece :: rest).map Piece.settled).any Piece.isConnector =
        (piece :: rest).any Piece.isConnector := by
      rw [List.any_map]
      exact congrArg _ (funext isConnector_settled)
    rw [List.map_cons] at same ⊢
    rw [joined, joined, same, joinedAfter_settled]
    rfl

theorem mem_joinedAfter {implicit : Bool} {before piece : Piece} {list : List Piece}
    (member : piece ∈ joinedAfter implicit before list) :
    piece ∈ list ∨ piece = .connector .and := by
  induction list generalizing before with
  | nil => cases member
  | cons first rest ih =>
    rw [joinedAfter, List.mem_append, List.mem_cons] at member
    rcases member with joint | rfl | later
    · split at joint
      · exact .inr (List.mem_singleton.mp joint)
      · cases joint
    · exact .inl List.mem_cons_self
    · exact (ih later).imp_left (List.mem_cons_of_mem first)

theorem mem_joined {piece : Piece} {list : List Piece} (member : piece ∈ joined list) :
    piece ∈ list ∨ piece = .connector .and := by
  cases list with
  | nil => cases member
  | cons first rest =>
    rcases List.mem_cons.mp member with rfl | later
    · exact .inl List.mem_cons_self
    · exact (mem_joinedAfter later).imp_left (List.mem_cons_of_mem first)

theorem sublist_joinedAfter (implicit : Bool) (before : Piece) (list : List Piece) :
    list.Sublist (joinedAfter implicit before list) := by
  induction list generalizing before with
  | nil => exact .slnil
  | cons first rest ih => exact ((ih first).cons_cons first).trans (List.sublist_append_right _ _)

theorem mem_joined_of_mem {piece : Piece} {list : List Piece} (member : piece ∈ list) :
    piece ∈ joined list := by
  cases list with
  | nil => cases member
  | cons first rest => exact ((sublist_joinedAfter _ _ rest).cons_cons first).subset member

theorem filter_joined (list : List Piece) :
    (joined list).filter (fun piece => !piece.isConnector) =
      list.filter fun piece => !piece.isConnector := by
  have after (implicit : Bool) (before : Piece) (list : List Piece) :
      (joinedAfter implicit before list).filter (fun piece => !piece.isConnector) =
        list.filter fun piece => !piece.isConnector := by
    induction list generalizing before with
    | nil => rfl
    | cons piece rest ih =>
      rw [joinedAfter, List.filter_append, List.filter_cons, List.filter_cons, ih]
      split <;> rfl
  cases list with
  | nil => rfl
  | cons piece rest => rw [joined, List.filter_cons, after, List.filter_cons]

end Joining

theorem isProper_of_mem_joined {text : List Char} {piece : Piece}
    (member : piece ∈ joined (pieces text)) : piece.IsProper := by
  rcases mem_joined member with listed | rfl
  · exact isProper_of_mem_pieces listed
  · trivial

/-- A match expression is split into the pieces that it is made of. -/
theorem pieces_compile (text : String) :
    pieces (compile text).toList = (joined (pieces text.toList)).map Piece.settled := by
  rw [toList_compile]
  exact pieces_spelled fun piece => isProper_of_mem_joined

end ModelCatalog.TextMatch
