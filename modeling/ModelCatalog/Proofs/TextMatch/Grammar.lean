import ModelCatalog.TextMatch.Lexeme

/-!
The grammar of match expressions. Lexemes make a sentence exactly if they lead from place to place, so
that a sentence can be told by what is open and what stands last.
-/

namespace ModelCatalog.TextMatch

inductive Lexeme.IsPhrase : Lexeme → Prop where
  | phrase (text : List Char) (isPrefix : Bool) : IsPhrase (.phrase text isPrefix)
  | near : IsPhrase .near

/-- The sentences: phrases side by side, a sentence in parentheses, or two with a connector. -/
inductive IsSentence : List Lexeme → Prop where
  | phrases {phrases : List Lexeme} :
    phrases ≠ [] → (∀ lexeme ∈ phrases, lexeme.IsPhrase) → IsSentence phrases
  | group {inner : List Lexeme} : IsSentence inner → IsSentence (.opening :: inner ++ [.closing])
  | joined {left right : List Lexeme} (connector : Connector) :
    IsSentence left → IsSentence right → IsSentence (left ++ .connector connector :: right)

inductive Ending where
  | missing
  | phrases
  | complete
  deriving DecidableEq, Repr

structure Place where
  groups : Nat := 0
  ending : Ending := .missing
  deriving DecidableEq, Repr

namespace Place

/-- The place after one more lexeme, if it may stand there. -/
def next? (place : Place) : Lexeme → Option Place
  | .phrase _ _ | .near =>
    if place.ending = .complete then none else some { place with ending := .phrases }
  | .connector _ =>
    if place.ending = .missing then none else some { place with ending := .missing }
  | .opening =>
    if place.ending = .missing then some { place with groups := place.groups + 1 } else none
  | .closing =>
    if place.ending = .missing then none
    else
      match place.groups with
      | 0 => none
      | groups + 1 => some ⟨groups, .complete⟩

def isEnd (place : Place) : Bool := place.groups == 0 && place.ending != .missing

theorem next?_of_isPhrase {lexeme : Lexeme} (isPhrase : lexeme.IsPhrase) (place : Place) :
    place.next? lexeme =
      if place.ending = .complete then none else some { place with ending := .phrases } := by
  cases isPhrase <;> rfl

theorem foldlM_phrases {phrases : List Lexeme} (all : ∀ lexeme ∈ phrases, lexeme.IsPhrase)
    (groups : Nat) : phrases.foldlM next? ⟨groups, .phrases⟩ = some ⟨groups, .phrases⟩ := by
  induction phrases with
  | nil => rfl
  | cons first rest ih =>
    rw [List.foldlM_cons, next?_of_isPhrase (all first List.mem_cons_self)]
    exact ih fun other later => all other (List.mem_cons_of_mem _ later)

theorem foldlM_sentence {lexemes : List Lexeme} (sentence : IsSentence lexemes) (groups : Nat) :
    ∃ ending, ending ≠ .missing ∧
      lexemes.foldlM next? ⟨groups, .missing⟩ = some ⟨groups, ending⟩ := by
  induction sentence generalizing groups with
  | @phrases phrases nonempty all =>
    obtain ⟨first, rest, rfl⟩ := List.exists_cons_of_ne_nil nonempty
    refine ⟨.phrases, by decide, ?_⟩
    rw [List.foldlM_cons, next?_of_isPhrase (all first List.mem_cons_self)]
    exact foldlM_phrases (fun other later => all other (List.mem_cons_of_mem _ later)) groups
  | @group inner _ ih =>
    obtain ⟨ending, present, inside⟩ := ih (groups + 1)
    refine ⟨.complete, by decide, ?_⟩
    change (inner ++ [Lexeme.closing]).foldlM next? ⟨groups + 1, .missing⟩ = _
    rw [List.foldlM_append, inside]
    change next? ⟨groups + 1, ending⟩ .closing >>= some = _
    rw [next?, if_neg present]
    rfl
  | joined connector _ _ ihLeft ihRight =>
    obtain ⟨ending, present, before⟩ := ihLeft groups
    obtain ⟨last, presentLast, after⟩ := ihRight groups
    refine ⟨last, presentLast, ?_⟩
    rw [List.foldlM_append, before]
    change next? ⟨groups, ending⟩ (.connector connector) >>= _ = _
    rw [next?, if_neg present]
    exact after

def Awaits (lexemes : List Lexeme) : Prop :=
  ∀ operand, IsSentence operand → IsSentence (lexemes ++ operand)

/-- What may stand before an operand, with so many groups open. -/
inductive IsFront : Nat → List Lexeme → Prop where
  | whole {lexemes : List Lexeme} : Awaits lexemes → IsFront 0 lexemes
  | group {groups : Nat} {outer inner : List Lexeme} :
    IsFront groups outer → Awaits inner → IsFront (groups + 1) (outer ++ .opening :: inner)

theorem Awaits.connector {lexemes operand : List Lexeme} (awaits : Awaits lexemes)
    (sentence : IsSentence operand) (connector : Connector) :
    Awaits (lexemes ++ operand ++ [.connector connector]) := by
  intro next nextSentence
  rw [List.append_assoc, List.singleton_append]
  exact .joined connector (awaits operand sentence) nextSentence

theorem IsFront.connector {groups : Nat} {front operand : List Lexeme}
    (isFront : IsFront groups front) (sentence : IsSentence operand) (connector : Connector) :
    IsFront groups (front ++ operand ++ [.connector connector]) := by
  cases isFront with
  | whole awaits => exact .whole (awaits.connector sentence connector)
  | group outer awaits =>
    have longer := IsFront.group outer (awaits.connector sentence connector)
    simpa using longer

inductive IsBack : Ending → List Lexeme → Prop where
  | missing : IsBack .missing []
  | phrases {phrases : List Lexeme} :
    phrases ≠ [] → (∀ lexeme ∈ phrases, lexeme.IsPhrase) → IsBack .phrases phrases
  | complete {lexemes : List Lexeme} : IsSentence lexemes → IsBack .complete lexemes

theorem IsBack.isSentence {ending : Ending} {lexemes : List Lexeme} (isBack : IsBack ending lexemes)
    (present : ending ≠ .missing) : IsSentence lexemes := by
  cases isBack with
  | missing => exact absurd rfl present
  | phrases nonempty all => exact .phrases nonempty all
  | complete sentence => exact sentence

/-- The lexemes lead to the place. -/
def IsAt (place : Place) (lexemes : List Lexeme) : Prop :=
  ∃ front back, lexemes = front ++ back ∧ IsFront place.groups front ∧ IsBack place.ending back

theorem IsAt.start : IsAt {} [] :=
  ⟨[], [], rfl, .whole fun _ sentence => sentence, .missing⟩

theorem IsAt.next_phrase {place after : Place} {lexemes : List Lexeme} {lexeme : Lexeme}
    (isAt : IsAt place lexemes) (isPhrase : lexeme.IsPhrase)
    (goesOn : place.next? lexeme = some after) : IsAt after (lexemes ++ [lexeme]) := by
  obtain ⟨front, back, rfl, isFront, isBack⟩ := isAt
  obtain ⟨groups, ending⟩ := place
  rw [next?_of_isPhrase isPhrase] at goesOn
  split at goesOn
  next => cases goesOn
  next incomplete =>
    obtain rfl := Option.some.inj goesOn
    refine ⟨front, back ++ [lexeme], List.append_assoc .., isFront, ?_⟩
    cases isBack with
    | missing => exact .phrases (by simp) (by simpa using isPhrase)
    | phrases nonempty all =>
      refine .phrases (by simp) fun other member => ?_
      rcases List.mem_append.mp member with early | last
      · exact all other early
      · exact List.mem_singleton.mp last ▸ isPhrase
    | complete _ => exact absurd rfl incomplete

theorem IsAt.next {place after : Place} {lexemes : List Lexeme} {lexeme : Lexeme}
    (isAt : IsAt place lexemes) (goesOn : place.next? lexeme = some after) :
    IsAt after (lexemes ++ [lexeme]) := by
  have whole := isAt
  obtain ⟨front, back, rfl, isFront, isBack⟩ := isAt
  obtain ⟨groups, ending⟩ := place
  cases lexeme with
  | phrase text isPrefix => exact whole.next_phrase (.phrase text isPrefix) goesOn
  | near => exact whole.next_phrase .near goesOn
  | connector connector =>
    rw [next?] at goesOn
    split at goesOn
    next => cases goesOn
    next present =>
      obtain rfl := Option.some.inj goesOn
      exact ⟨_, [], (List.append_nil _).symm,
        isFront.connector (isBack.isSentence present) connector, .missing⟩
  | opening =>
    rw [next?] at goesOn
    split at goesOn
    next missing =>
      obtain rfl := Option.some.inj goesOn
      obtain rfl : ending = .missing := missing
      cases isBack
      refine ⟨_, [], (List.append_nil _).symm, ?_, .missing⟩
      rw [List.append_nil]
      exact .group isFront fun _ sentence => sentence
    next => cases goesOn
  | closing =>
    rw [next?] at goesOn
    split at goesOn
    next => cases goesOn
    next present =>
      cases isFront with
      | whole _ => cases goesOn
      | @group _ outer inner isFront awaits =>
        obtain rfl := Option.some.inj goesOn
        -- The group gets the sentence that it awaits, and stands where it was opened.
        refine ⟨outer, .opening :: (inner ++ back) ++ [.closing], by simp, isFront, ?_⟩
        exact .complete (.group (awaits back (isBack.isSentence present)))

theorem IsAt.foldlM {place after : Place} {before lexemes : List Lexeme} (isAt : IsAt place before)
    (leads : lexemes.foldlM next? place = some after) : IsAt after (before ++ lexemes) := by
  induction lexemes generalizing place before with
  | nil =>
    obtain rfl := Option.some.inj leads
    rwa [List.append_nil]
  | cons lexeme rest ih =>
    obtain ⟨middle, goesOn, leadsOn⟩ := Option.bind_eq_some_iff.mp leads
    have further := ih (isAt.next goesOn) leadsOn
    simpa using further

theorem IsAt.isSentence {place : Place} {lexemes : List Lexeme} (isAt : IsAt place lexemes)
    (ends : place.isEnd = true) : IsSentence lexemes := by
  obtain ⟨front, back, rfl, isFront, isBack⟩ := isAt
  have last : place.groups = 0 ∧ place.ending ≠ .missing := by simpa [isEnd] using ends
  rw [last.1] at isFront
  cases isFront with
  | whole awaits => exact awaits back (isBack.isSentence last.2)

end Place

/-- Sentences are what leads from the start to an end. -/
theorem isSentence_iff (lexemes : List Lexeme) :
    IsSentence lexemes ↔ (lexemes.foldlM Place.next? {}).any Place.isEnd = true := by
  constructor
  · intro sentence
    obtain ⟨ending, present, leads⟩ := Place.foldlM_sentence sentence 0
    rw [leads]
    simpa [Place.isEnd] using present
  · intro accepted
    cases leads : lexemes.foldlM Place.next? {} with
    | none =>
      rw [leads] at accepted
      cases accepted
    | some place =>
      rw [leads] at accepted
      exact (Place.IsAt.start.foldlM leads).isSentence accepted

instance (lexemes : List Lexeme) : Decidable (IsSentence lexemes) :=
  decidable_of_iff _ (isSentence_iff lexemes).symm

def IsWellFormed (expression : String) : Prop :=
  ∃ lexemes, lex expression.toList = .ok lexemes ∧ IsSentence lexemes

end ModelCatalog.TextMatch
