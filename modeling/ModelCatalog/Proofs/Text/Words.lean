import ModelCatalog.Text.Character

/-!
The words of a text. Words joined by a blank are the words of the joined text.
-/

namespace ModelCatalog.Text

theorem not_mem_splitOnP {α : Type} (splits : α → Bool) (all : List α) :
    ∀ part ∈ all.splitOnP splits, ∀ a ∈ part, splits a = false := by
  induction all with
  | nil => simp
  | cons a rest ih =>
    rw [List.splitOnP_cons_eq_if_modifyHead]
    split
    next =>
      intro part member
      rcases List.mem_cons.mp member with rfl | later
      · simp
      · exact ih part later
    next keeps =>
      obtain ⟨first, others, parts⟩ :=
        List.exists_cons_of_ne_nil (List.splitOnP_ne_nil splits rest)
      rw [parts] at ih ⊢
      intro part member
      rw [List.modifyHead_cons] at member
      rcases List.mem_cons.mp member with rfl | later
      · intro b inside
        rcases List.mem_cons.mp inside with rfl | inside
        · simpa using keeps
        · exact ih first List.mem_cons_self b inside
      · exact ih part (List.mem_cons_of_mem _ later)

theorem dropWhile_eq_self {drops : Char → Bool} {text : List Char}
    (starts : ∀ c ∈ text.head?, drops c = false) : text.dropWhile drops = text := by
  cases text with
  | nil => rfl
  | cons c rest =>
    rw [List.dropWhile_cons_of_neg]
    rw [starts c rfl]
    exact Bool.false_ne_true

theorem trim_eq_self {text : List Char} (starts : ∀ c ∈ text.head?, isBlank c = false)
    (ends : ∀ c ∈ text.getLast?, isBlank c = false) : trim text = text := by
  have reversed : ∀ c ∈ text.reverse.head?, isBlank c = false := by
    rwa [List.head?_reverse]
  rw [trim, trimStart, dropWhile_eq_self starts, trimEnd, dropWhile_eq_self reversed,
    List.reverse_reverse]

structure IsWord (word : List Char) : Prop where
  nonempty : word ≠ []
  visible : ∀ c ∈ word, isBlank c = false

theorem isWord_of_mem_words {text word : List Char} (member : word ∈ words text) :
    IsWord word := by
  obtain ⟨piece, nonempty⟩ := List.mem_filter.mp member
  exact ⟨by simpa using nonempty, not_mem_splitOnP isBlank text word piece⟩

theorem words_append_blank {blank : Char} (isBlank : isBlank blank = true)
    (before after : List Char) :
    words (before ++ blank :: after) = words before ++ words after := by
  rw [words, List.splitOnP_append_cons before after isBlank, List.filter_append]
  rfl

theorem words_of_isWord {word : List Char} (isWord : IsWord word) : words word = [word] := by
  rw [words, List.splitOnP_eq_singleton fun c member => by simpa using isWord.visible c member]
  simp [isWord.nonempty]

def visible (text : List Char) : List Char := text.filter fun c => !isBlank c

@[simp] theorem visible_append (first second : List Char) :
    visible (first ++ second) = visible first ++ visible second :=
  List.filter_append first second

theorem visible_visible (text : List Char) : visible (visible text) = visible text := by
  rw [visible, visible, List.filter_filter]
  simp only [Bool.and_self]

theorem flatten_words (text : List Char) : (words text).flatten = visible text := by
  rw [words, List.flatten_filter_not_isEmpty]
  induction text with
  | nil => rfl
  | cons c rest ih =>
    rw [List.splitOnP_cons_eq_if_modifyHead, visible]
    split
    next blank =>
      rw [List.filter_cons_of_neg (by simp [blank])]
      exact ih
    next seen =>
      obtain ⟨first, others, parts⟩ :=
        List.exists_cons_of_ne_nil (List.splitOnP_ne_nil isBlank rest)
      rw [parts] at ih ⊢
      rw [List.filter_cons_of_pos (by simpa using seen), List.modifyHead_cons, List.flatten_cons,
        List.cons_append]
      exact congrArg (c :: ·) ih

theorem IsWord.append {word more : List Char} (isWord : IsWord word)
    (seen : ∀ c ∈ more, isBlank c = false) : IsWord (word ++ more) where
  nonempty := by simp [isWord.nonempty]
  visible c member := (List.mem_append.mp member).elim (isWord.visible c) (seen c)

theorem IsWord.prepend {word more : List Char} (isWord : IsWord word)
    (seen : ∀ c ∈ more, isBlank c = false) : IsWord (more ++ word) where
  nonempty := by simp [isWord.nonempty]
  visible c member := (List.mem_append.mp member).elim (seen c) (isWord.visible c)

theorem visible_or_first_blank (text : List Char) :
    (∀ c ∈ text, isBlank c = false) ∨
      ∃ before blank after, text = before ++ blank :: after ∧ isBlank blank = true ∧
        ∀ c ∈ before, isBlank c = false := by
  cases found : text.find? isBlank with
  | none => exact .inl fun c member => by simpa using List.find?_eq_none.mp found c member
  | some blank =>
    obtain ⟨isBlank, before, after, split, seen⟩ := List.find?_eq_some_iff_append.mp found
    exact .inr ⟨before, blank, after, split, isBlank, fun c member => by simpa using seen c member⟩

theorem visible_or_last_blank (text : List Char) :
    (∀ c ∈ text, isBlank c = false) ∨
      ∃ before blank after, text = before ++ blank :: after ∧ isBlank blank = true ∧
        ∀ c ∈ after, isBlank c = false := by
  rcases visible_or_first_blank text.reverse with seen | ⟨after, blank, before, split, isBlank, seen⟩
  · exact .inl fun c member => seen c (List.mem_reverse.mpr member)
  · refine .inr ⟨before.reverse, blank, after.reverse, ?_, isBlank, ?_⟩
    · rw [← List.reverse_reverse text, split]
      simp
    · exact fun c member => seen c (List.mem_reverse.mp member)

theorem exists_words_append {word : List Char} (isWord : IsWord word) (text : List Char) :
    ∃ right behind later, text = right ++ behind ∧
      words (word ++ text) = (word ++ right) :: later := by
  rcases visible_or_first_blank text with seen | ⟨right, blank, behind, rfl, isBlank, seen⟩
  · exact ⟨text, [], [], (List.append_nil text).symm, words_of_isWord (isWord.append seen)⟩
  · refine ⟨right, blank :: behind, words behind, rfl, ?_⟩
    rw [← List.append_assoc, words_append_blank isBlank, words_of_isWord (isWord.append seen),
      List.singleton_append]

theorem exists_words_around {run : List Char} (isWord : IsWord run) (front back : List Char) :
    ∃ before left right behind listed later, front = before ++ left ∧ back = right ++ behind ∧
      words (front ++ run ++ back) = listed ++ (left ++ run ++ right) :: later ∧
      visible listed.flatten = visible before := by
  rcases visible_or_last_blank front with seen | ⟨before, blank, left, rfl, isBlank, seen⟩
  · obtain ⟨right, behind, later, rest, split⟩ := exists_words_append (isWord.prepend seen) back
    exact ⟨[], front, right, behind, [], later, rfl, rest, split, rfl⟩
  · obtain ⟨right, behind, later, rest, split⟩ := exists_words_append (isWord.prepend seen) back
    refine ⟨before ++ [blank], left, right, behind, words before, later, by simp, rest, ?_, ?_⟩
    · rw [List.append_assoc, List.append_assoc, List.cons_append, words_append_blank isBlank,
        ← List.append_assoc, split]
    · have lost : visible [blank] = [] := List.filter_cons_of_neg (by simp [isBlank])
      rw [flatten_words, visible_visible, visible_append, lost, List.append_nil]

theorem words_intercalate {list : List (List Char)} (all : ∀ word ∈ list, IsWord word) :
    words ([' '].intercalate list) = list := by
  induction list with
  | nil => rfl
  | cons word rest ih =>
    have first := all word List.mem_cons_self
    have restWords := ih fun other later => all other (List.mem_cons_of_mem word later)
    cases rest with
    | nil => rw [List.intercalate_singleton, words_of_isWord first]
    | cons next rest =>
      rw [List.intercalate_cons_cons, List.append_assoc, List.singleton_append,
        words_append_blank (by decide), words_of_isWord first, restWords, List.singleton_append]

end ModelCatalog.Text
