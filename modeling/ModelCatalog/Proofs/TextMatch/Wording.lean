import ModelCatalog.Proofs.Query.NormalForm
import ModelCatalog.Proofs.Text.WordChars
import ModelCatalog.Proofs.TextMatch.Reading
import ModelCatalog.TextMatch.Expression

/-!
Texts made of plain words. From the query to the expression that is read from it nothing depends on
where a word stands: the words are tokens, all of which stay in the free text, each one is a piece and
a bareword, and the expression asks for all of them at once.
-/

namespace ModelCatalog

/-- A word of word characters that is neither a connector nor a predicate. -/
structure IsPlainWord (word : List Char) : Prop where
  nonempty : word ≠ []
  wordChars : ∀ c ∈ word, Text.isWordChar c = true
  noConnector : isConnector word = false
  noPredicate : Query.Predicate.ofToken? word = none

namespace IsPlainWord

variable {word : List Char} (plain : IsPlainWord word)
include plain

theorem mark_not_mem {mark : Char} (notWordChar : Text.isWordChar mark = false) : mark ∉ word :=
  fun member => Text.ne_of_isWordChar (plain.wordChars mark member) notWordChar rfl

theorem isWord : Text.IsWord word where
  nonempty := plain.nonempty
  visible c member := Text.not_isBlank_of_isWordChar (plain.wordChars c member)

theorem role : Query.role word = .plain := by
  rw [Query.role, plain.noPredicate, plain.noConnector]
  rfl

end IsPlainWord

namespace Query

def words (query : String) : List (List Char) := Text.words query.toList

def IsWording (query : String) : Prop := ∀ word ∈ words query, IsPlainWord word

def saying (list : List (List Char)) : String := String.ofList ([' '].intercalate list)

theorem words_saying {list : List (List Char)} (plain : ∀ word ∈ list, IsPlainWord word) :
    words (saying list) = list := by
  rw [words, saying, String.toList_ofList, Text.words_intercalate fun word member =>
    (plain word member).isWord]

theorem exists_mem_words {text : List Char} {c : Char} (member : c ∈ text)
    (visible : Text.isBlank c = false) : ∃ word ∈ Text.words text, c ∈ word := by
  have split : ∃ part ∈ text.splitOnP Text.isBlank, c ∈ part := by
    induction text with
    | nil => cases member
    | cons d rest ih =>
      rw [List.splitOnP_cons_eq_if_modifyHead]
      obtain ⟨first, others, parts⟩ :=
        List.exists_cons_of_ne_nil (List.splitOnP_ne_nil Text.isBlank rest)
      rw [parts] at ih ⊢
      rcases List.mem_cons.mp member with rfl | later
      · rw [if_neg (by simp [visible])]
        exact ⟨c :: first, List.mem_cons_self, List.mem_cons_self⟩
      · obtain ⟨part, listed, inside⟩ := ih later
        split
        · exact ⟨part, List.mem_cons_of_mem [] listed, inside⟩
        · rcases List.mem_cons.mp listed with rfl | other
          · exact ⟨d :: part, List.mem_cons_self, List.mem_cons_of_mem d inside⟩
          · exact ⟨part, List.mem_cons_of_mem _ other, inside⟩
  obtain ⟨part, listed, inside⟩ := split
  refine ⟨part, List.mem_filter.mpr ⟨listed, ?_⟩, inside⟩
  simpa using List.ne_nil_of_mem inside

theorem tokensFrom_words {text buffer : List Char} (free : '"' ∉ text)
    (visible : ∀ c ∈ buffer, Text.isBlank c = false) :
    tokensFrom false buffer text = Text.words (buffer.reverse ++ text) := by
  have finished {buffer : List Char} (visible : ∀ c ∈ buffer, Text.isBlank c = false) :
      finish buffer = Text.words buffer.reverse := by
    by_cases empty : buffer = []
    · rw [empty]
      rfl
    · have isWord : Text.IsWord buffer.reverse := by
        refine ⟨by simpa using empty, ?_⟩
        intro c member
        exact visible c (List.mem_reverse.mp member)
      rw [finish, if_neg (by simpa using empty), Text.words_of_isWord isWord]
  induction text generalizing buffer with
  | nil => simpa [tokensFrom] using finished visible
  | cons c rest ih =>
    have notQuote : c ≠ '"' := fun same => free (same ▸ List.mem_cons_self)
    have restFree : '"' ∉ rest := fun inside => free (List.mem_cons_of_mem c inside)
    rw [tokensFrom, if_neg notQuote]
    by_cases blank : Text.isBlank c = true
    · have next : tokensFrom false [] rest = Text.words rest := ih restFree (by simp)
      rw [if_pos (by simp [blank]), next, Text.words_append_blank blank, finished visible]
    · have shown : Text.isBlank c = false := by simpa using blank
      rw [if_neg (by simp [shown]), ih restFree (List.forall_mem_cons.mpr ⟨shown, visible⟩),
        List.reverse_cons, List.append_assoc, List.singleton_append]

namespace IsWording

variable {query : String} (wording : IsWording query)
include wording

theorem tokens_eq : tokens query.toList = words query := by
  have free : '"' ∉ query.toList := by
    intro member
    obtain ⟨word, inQuery, inside⟩ := exists_mem_words member (by decide)
    exact (wording word inQuery).mark_not_mem (by decide) inside
  exact tokensFrom_words free (by simp)

theorem parse_eq : parse query = ⟨saying (words query), {}⟩ := by
  have kept {tokens : List (List Char)} (plain : ∀ token ∈ tokens, IsPlainWord token)
      (afterPlain : Bool) : textTokens afterPlain tokens = tokens := by
    induction tokens generalizing afterPlain with
    | nil => rfl
    | cons token rest ih =>
      rw [textTokens, (plain token List.mem_cons_self).role]
      exact congrArg _ (ih (fun other later => plain other (List.mem_cons_of_mem token later)) true)
  have none : predicates (words query) = [] :=
    List.filterMap_eq_nil_iff.mpr fun word member => (wording word member).noPredicate
  rw [parse, wording.tokens_eq, kept wording, none]
  rfl

end IsWording

end Query

namespace TextMatch

open TextIndex (Phrase)

theorem isTerm_plain {word : List Char} (plain : IsPlainWord word) : IsTerm word where
  nonempty := plain.nonempty
  noConnector := plain.noConnector
  termChars c member := by
    have wordChar := plain.wordChars c member
    exact ⟨Text.ne_of_isWordChar wordChar (by decide), Text.ne_of_isWordChar wordChar (by decide),
      Text.ne_of_isWordChar wordChar (by decide), Text.not_isBlank_of_isWordChar wordChar⟩

theorem withoutStar_plain {word : List Char} (plain : IsPlainWord word) :
    withoutStar word = word := by
  rw [withoutStar]
  split
  next body turned =>
    have star : '*' ∈ word := List.mem_reverse.mp (turned ▸ List.mem_cons_self)
    exact absurd star (plain.mark_not_mem (by decide))
  next => rfl

theorem isBareword_plain {word : List Char} (plain : IsPlainWord word) :
    isBareword word = true := by
  rw [isBareword, withoutStar_plain plain, Bool.and_eq_true, List.all_eq_true]
  refine ⟨by simpa using plain.nonempty, ?_⟩
  intro c member
  rw [isBareChar, plain.wordChars c member, Bool.true_or]

theorem sought?_plain {word : List Char} (plain : IsPlainWord word) :
    (Piece.term word).lexeme.sought? = some (.ofText word false) := by
  have noStar : word.getLast? ≠ some '*' :=
    fun last => plain.mark_not_mem (by decide) (List.mem_of_getLast? last)
  rw [Piece.lexeme]
  split
  next near => rw [near, Lexeme.sought?]
  next =>
    rw [if_pos (isBareword_plain plain), withoutStar_plain plain, beq_eq_false_iff_ne.mpr noStar,
      Lexeme.sought?]

theorem pieces_saying {words : List (List Char)} (plain : ∀ word ∈ words, IsPlainWord word) :
    pieces (Query.saying words).toList = words.map .term := by
  have rendered : (words.map Piece.term).map Piece.render = words := by
    rw [List.map_map]
    refine (List.map_congr_left fun word member => ?_).trans (List.map_id words)
    exact (render_term (isTerm_plain (plain word member))).trans
      (if_pos (isBareword_plain (plain word member)))
  have settled : (words.map Piece.term).map Piece.settled = words.map .term := by
    rw [List.map_map]
    exact List.map_congr_left fun word member => if_pos (isBareword_plain (plain word member))
  have proper : ∀ piece ∈ words.map Piece.term, piece.IsProper := by
    intro piece listed
    obtain ⟨word, member, rfl⟩ := List.mem_map.mp listed
    exact isTerm_plain (plain word member)
  rw [Query.saying, String.toList_ofList]
  calc pieces ([' '].intercalate words)
    _ = pieces (spelled (words.map .term)) := by rw [spelled, rendered]
    _ = words.map .term := by rw [pieces_spelled proper, settled]

theorem isUnstarred_saying {words : List (List Char)} (plain : ∀ word ∈ words, IsPlainWord word) :
    IsUnstarred (Query.saying words) := by
  rw [IsUnstarred, pieces_saying plain]
  rintro piece listed ⟨connector, rfl⟩
  obtain ⟨word, member, same⟩ := List.mem_map.mp listed
  have star : '*' ∈ word := by
    rw [Piece.term.inj same]
    exact List.mem_concat_self
  exact (plain word member).mark_not_mem (by decide) star

theorem hasNoNul_saying {words : List (List Char)} (plain : ∀ word ∈ words, IsPlainWord word) :
    Text.HasNoNul (Query.saying words).toList := by
  rw [← areWithoutNul_pieces, pieces_saying plain]
  intro piece listed
  obtain ⟨word, member, rfl⟩ := List.mem_map.mp listed
  rw [Piece.render, hasNoNul_renderTerm]
  exact Text.hasNoNul_of_all (plain word member).wordChars (by decide)

def holdsWords (words : List (List Char)) (row : IndexRow) : Bool :=
  words.all fun word => (Phrase.ofText word false).isFoundIn row

theorem compile_words_eq_empty_iff {words : List (List Char)}
    (plain : ∀ word ∈ words, IsPlainWord word) :
    compile (Query.saying words) = "" ↔ words = [] := by
  rw [compile_eq_empty_iff, ← pieces_eq_nil_iff, pieces_saying plain, List.map_eq_nil_iff]

/-- Plain words are read as an expression that asks for all of them. -/
theorem parseExpression_words {words : List (List Char)} (plain : ∀ word ∈ words, IsPlainWord word)
    (worded : words ≠ []) :
    ∃ expression, parseExpression (compile (Query.saying words)) =
        .ok expression ∧
      ∀ row, expression.isMatch row = holdsWords words row := by
  have lexed := lex_compile (isUnstarred_saying plain) (hasNoNul_saying plain)
  rw [pieces_saying plain] at lexed
  have operands : ∀ piece ∈ words.map Piece.term, piece.IsOperand := by
    intro piece listed
    obtain ⟨word, -, rfl⟩ := List.mem_map.mp listed
    exact .term word
  have nonempty : words.map Piece.term ≠ [] := by simpa using worded
  obtain ⟨expression, read, same⟩ := parseExpression_operands lexed operands nonempty
  have asked : ((words.map Piece.term).map Piece.lexeme).filterMap Lexeme.sought? =
      words.map fun word => .ofText word false := by
    rw [List.map_map, List.filterMap_map, List.filterMap_eq_map_iff_forall_eq_some]
    intro word member
    exact sought?_plain (plain word member)
  refine ⟨expression, read, fun row => ?_⟩
  rw [same, holdsAll, asked, List.all_map]
  rfl

end TextMatch

end ModelCatalog
