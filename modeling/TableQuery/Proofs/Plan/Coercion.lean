import TableQuery.Plan.Coercion
import TableQuery.Proofs.Decimal.PlainNotation
import TableQuery.Sql.OfPlan

/-!
# Numbers as texts

A decimal is written in plain notation, both in messages and in statements. A parameter with this
text is the same number again, with the same places, so it is written with the same text.
-/

namespace TableQuery

theorem Decimal.hasExponentMark_text (d : Decimal) : hasExponentMark d.text = false := by
  rw [hasExponentMark, text, String.toList_ofList, List.any_eq_false]
  intro c hc
  rcases mem_chars hc with hdigit | rfl | rfl
  · have he : c ≠ 'e' := Text.ne_of_isDigit hdigit rfl
    have hE : c ≠ 'E' := Text.ne_of_isDigit hdigit rfl
    simp [he, hE]
  · decide
  · decide

theorem Decimal.ofChars?_text (d : Decimal) : ofChars? d.text.toList = some d.signless := by
  rw [text, String.toList_ofList, ofChars?_chars]

theorem Scalar.ofText_text (d : Decimal) : Scalar.ofText d.text = .number d.signless := by
  simp only [Scalar.ofText, Scalar.ofReading, d.ofChars?_text, d.hasExponentMark_text, Bool.false_eq_true, if_false]

namespace Sql

/-- A decimal that is no negative zero is read from its text in a statement as it is, with the same
magnitude and the same places. So a parameter with this text is this number, and it is written with
this text again. -/
theorem ofChars?_render_number {d : Decimal} (h : d.negative = true → d.magnitude ≠ 0) :
    Decimal.ofChars? (Expr.number d).render.toList = some d ∧
      Scalar.ofText (Expr.number d).render = .number d ∧
      (scalarExpr (Scalar.ofText (Expr.number d).render)).render = (Expr.number d).render := by
  have hrender : (Expr.number d).render = d.text := by
    simp only [Expr.render]
  have hsign : d.signless = d := Decimal.signless_eq_self h
  have hscalar : Scalar.ofText (Expr.number d).render = .number d := by
    rw [hrender, Scalar.ofText_text, hsign]
  refine ⟨?_, hscalar, ?_⟩
  · rw [hrender, d.ofChars?_text, hsign]
  · rw [hscalar]
    rfl

/-- The decimal below zero that is nearest to zero. -/
theorem ofChars?_render_number_tiny :
    Scalar.ofText "-0.0000000000000000000000000001" =
      .number ⟨true, 1, 28, by decide, by decide⟩ := by
  have hread := ofChars?_render_number (d := ⟨true, 1, 28, by decide, by decide⟩) (by decide)
  exact hread.2.1

end Sql

end TableQuery
