import ModelCatalog.Proofs.Store.Keyed
import ModelCatalog.TextIndex.Score

/-!
The arrangement of an index does not matter: what an expression scores in the rows of an index depends
on which rows these are, and not on their order. Sizes and counts are sums over the rows, and phrases
walk them in the order of their ids.
-/

namespace ModelCatalog

theorem find_key_perm {α κ : Type} [DecidableEq κ] (key : α → κ) {rows others : List α}
    (perm : others.Perm rows) (distinct : (rows.map key).Nodup) (k : κ) :
    others.find? (fun row => key row == k) = rows.find? fun row => key row == k := by
  apply Option.ext
  intro row
  have otherDistinct : (others.map key).Nodup := (perm.map key).symm.nodup distinct
  rw [find_key_eq_some_iff key distinct, find_key_eq_some_iff key otherDistinct, perm.mem_iff]

theorem lookup_perm {α : Type} {pairs others : List (Nat × α)} (perm : others.Perm pairs)
    (distinct : (pairs.map Prod.fst).Nodup) (k : Nat) : others.lookup k = pairs.lookup k := by
  have found (pairs : List (Nat × α)) :
      pairs.lookup k = (pairs.find? fun pair => pair.1 == k).map Prod.snd := by
    induction pairs with
    | nil => rfl
    | cons pair rest ih =>
      rw [List.lookup_cons, List.find?_cons, ih, show (k == pair.1) = (pair.1 == k) from Bool.beq_comm]
      cases pair.1 == k <;> rfl
  rw [found, found, find_key_perm Prod.fst perm distinct]

namespace TextIndex

open TextMatch (Expression)

variable {rows others : List IndexRow} (perm : others.Perm rows)
include perm

theorem meanSize_perm : meanSize others = meanSize rows := by
  have sizes : (others.map IndexRow.size).foldr (· + ·) 0 =
      (rows.map IndexRow.size).foldr (· + ·) 0 := (perm.map IndexRow.size).sum_nat
  rw [meanSize, meanSize, sizes, perm.length_eq]

theorem phraseWeight_perm (phrase : Phrase) : phraseWeight others phrase = phraseWeight rows phrase := by
  rw [phraseWeight, phraseWeight, perm.countP_eq, perm.length_eq]

variable (distinct : (rows.map IndexRow.id).Nodup)
include distinct

theorem stops_perm (phrases : List Phrase) : stops others phrases = stops rows phrases := by
  let holds (row : IndexRow) : Bool := phrases.all fun phrase => phrase.isScatteredIn row
  have ids (row : IndexRow) : (Stop.ofPhrases phrases row).id = row.id := by
    unfold Stop.ofPhrases
    split
    · rfl
    · split <;> rfl
  have ascending {rows : List IndexRow} (distinct : (rows.map IndexRow.id).Nodup) :
      (stops rows phrases).Pairwise fun a b => a.id < b.id := by
    have nodup : (((rows.filter holds).map (Stop.ofPhrases phrases)).map Stop.id).Nodup := by
      rw [List.map_map, show Stop.id ∘ Stop.ofPhrases phrases = IndexRow.id from funext ids]
      exact distinct.sublist (List.filter_sublist.map IndexRow.id)
    apply mergeSort_strict Stop.id _ _ _ _ nodup
    · intro a b
      rw [decide_eq_true_eq, Nat.not_lt]
    · exact Nat.lt_asymm
    · intro a c below b
      omega
    · exact Nat.lt_or_gt_of_ne
  have same : (stops others phrases).Perm (stops rows phrases) := by
    have holding := (perm.filter holds).map (Stop.ofPhrases phrases)
    exact (List.mergeSort_perm _ _).trans (holding.trans (List.mergeSort_perm _ _).symm)
  refine same.eq_of_pairwise ?_ (ascending ((perm.map IndexRow.id).symm.nodup distinct))
    (ascending distinct)
  intro a b _ _ below above
  exact absurd below (Nat.lt_asymm above)

theorem ofPhrases_perm (phrases : List Phrase) :
    Cursor.ofPhrases others phrases = Cursor.ofPhrases rows phrases := by
  rw [Cursor.ofPhrases, stops_perm perm distinct, Cursor.ofPhrases]

theorem ofExpression_perm (above : Option Connector) (expression : Expression) :
    Cursor.ofExpression others above expression = Cursor.ofExpression rows above expression := by
  induction expression generalizing above with
  | phrase sought => exact ofPhrases_perm perm distinct [sought]
  | near phrases => exact ofPhrases_perm perm distinct phrases
  | and left right ihLeft ihRight => rw [Cursor.ofExpression, ihLeft, ihRight, Cursor.ofExpression]
  | or left right ihLeft ihRight => rw [Cursor.ofExpression, ihLeft, ihRight, Cursor.ofExpression]
  | not left right ihLeft ihRight => rw [Cursor.ofExpression, ihLeft, ihRight, Cursor.ofExpression]

theorem hits_perm (expression : Expression) : hits others expression = hits rows expression := by
  rw [hits, hits, ofExpression_perm perm distinct, perm.length_eq]

theorem scores_perm (expression : Expression) :
    (scores others expression).Perm (scores rows expression) := by
  have weights : phraseWeight others = phraseWeight rows := funext (phraseWeight_perm perm)
  rw [scores, scores, meanSize_perm perm, hits_perm perm distinct, weights]
  exact (perm.filter _).map _

theorem lookup_scores_perm (expression : Expression) (id : Nat) :
    (scores others expression).lookup id = (scores rows expression).lookup id := by
  apply lookup_perm (scores_perm perm distinct expression)
  rw [scores, List.map_map]
  exact distinct.sublist (List.filter_sublist.map IndexRow.id)

end TextIndex

end ModelCatalog
