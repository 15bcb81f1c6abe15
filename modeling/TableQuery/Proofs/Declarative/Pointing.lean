import TableQuery.Proofs.Declarative.Delimiting

/-!
# Faults and the characters they point at

Every fault of a text points at some of its characters, and what the fault says is about these
characters. A name, a character or a literal in a fault is what stands there. A fault about a value
points at characters that, read alone, are such a value.
-/

namespace TableQuery

open Outcome

namespace Declarative

open Value (ReadAlone)

namespace Cursor

end Cursor

theorem ValueTree.exists_fields {part : ValueTree} {span : Span} {fields : Fields}
    (h : part.value = .object span fields) :
    ∃ written : FieldsTree, written.yield <:+: part.yield ∧ fields = Fields.merged written.entries := by
  cases part with
  | object opened written closed =>
      rw [value, Value.object.injEq] at h
      exact ⟨written, isInfix_bracketed _ _ _, h.2.symm⟩
  | word place name =>
      simp only [value, Value.ofWord] at h
      split at h
      · cases h
      · split at h <;> cases h
  | _ => cases h

namespace Value

end Value

namespace Derives

variable {text : String} {tree : DocumentTree}

end Derives

namespace Query

end Query

end Declarative
end TableQuery
