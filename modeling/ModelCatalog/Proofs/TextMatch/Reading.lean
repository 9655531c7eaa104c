import ModelCatalog.Proofs.TextMatch.Conjoining

/-!
Which expressions can be read. The fallback of a text always can: it is a conjunction of quoted words
without a group. Too many open groups cannot.
-/

namespace ModelCatalog.TextMatch

theorem fallback_eq_empty_iff (text : String) : fallback text = "" ↔ keptWords text.toList = [] := by
  rw [← String.toList_inj, toList_fallback]
  cases keptWords text.toList with
  | nil => simp [List.intercalate]
  | cons word words =>
    cases words <;> simp [List.intercalate, quoted]

theorem fallback_isReadable {text : String} (worded : fallback text ≠ "") :
    ∃ expression, parseExpression (fallback text) = .ok expression := by
  have nonempty : keptPhrases text ≠ [] := by
    rwa [keptPhrases, ne_eq, List.map_eq_nil_iff, ← fallback_eq_empty_iff]
  obtain ⟨expression, read, -⟩ := parseExpression_operands (lex_fallback text)
    (fun piece => isOperand_of_mem_keptPhrases) nonempty
  exact ⟨expression, read⟩

section Holding

/-- Groups that are opened one in the other are too many once they weigh more than may be held. -/
theorem openings_overflow (more held : Nat) (heldFits : held ≤ greatestWeight)
    (tooMany : greatestWeight < held + more) :
    (List.replicate more Lexeme.opening).foldlM Draft.lexeme
      ⟨List.replicate held .group, .missing, .nothing⟩ = .error .overflow := by
  have weighs (n : Nat) : weight (List.replicate n .group) = n := by
    induction n with
    | zero => rfl
    | succ n ih => rw [List.replicate_succ, weight, ih]
  induction more generalizing held with
  | zero => omega
  | succ more ih =>
    have step : Draft.lexeme ⟨List.replicate held .group, .missing, .nothing⟩ .opening =
        if greatestWeight < held + 1 then .error .overflow
        else .ok ⟨List.replicate (held + 1) .group, .missing, .nothing⟩ := by
      change (hold (weight (List.replicate held .group) + 1) >>= fun _ => _) = _
      rw [weighs, hold]
      split <;> rfl
    rw [List.replicate_succ, List.foldlM_cons, step]
    split
    next => rfl
    next fits => exact ih (held + 1) (by omega) (by omega)

theorem parseExpression_openings :
    parseExpression (compile (String.ofList (List.replicate 100 '('))) = .error .overflow := by
  have scanned : scan ([' '].intercalate (lexemes (pieces (List.replicate 100 '(')))) =
      ⟨List.replicate 100 .opening, none⟩ := by decide +kernel
  have tooMany : (List.replicate 100 Lexeme.opening).foldlM Draft.lexeme {} = .error .overflow :=
    openings_overflow 100 0 (by decide) (by decide)
  rw [parseExpression, compile, String.toList_ofList, String.toList_ofList, scanned]
  simp only
  rw [tooMany]
  rfl

end Holding

end ModelCatalog.TextMatch
