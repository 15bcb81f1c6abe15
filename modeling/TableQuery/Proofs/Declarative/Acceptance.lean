import TableQuery.Proofs.Declarative.Blame
import TableQuery.Proofs.Declarative.Parsing

/-!
# Acceptance

A text that has no derivation is refused for its syntax. A text that has one is refused only if the
document makes no sense as a query, and then for its meaning.
-/

namespace TableQuery
namespace Declarative

open Outcome

/-!
## Faults of the syntax

Faults of characters and of tokens are faults of the syntax. Reading a document has no others.
-/

def IsSyntactic (fault : Fault) : Prop :=
  fault.faultClass = .syntactic

def IsSemantic (fault : Fault) : Prop :=
  fault.faultClass = .semantic

theorem Value.Blames.isSemantic {value : Value} {fault : Fault} (h : value.Blames fault) :
    IsSemantic fault := by
  cases h <;> rfl

theorem Document.Blames.isSemantic {document : Document} {fault : Fault}
    (h : document.Blames fault) : IsSemantic fault := by
  cases h with
  | argument h => rfl
  | value h hfault => exact hfault.isSemantic

namespace Query

theorem failsIn_ofDocument (document : Document) : FailsIn IsSemantic (ofDocument document) :=
  ((blames_ofDocument document).imp fun _ => Document.Blames.isSemantic).failsIn

theorem ofText_of_derives {text : String} {tree : DocumentTree} (h : Derives text tree) :
    ofText text =
      (ofDocument tree.document).mapError fun fault => fault.attach (source text) := by
  have hdocument := Document.ofText_eq_ok_iff.mpr ⟨tree, h, rfl⟩
  unfold ofText
  rw [hdocument]
  rfl

end Query

end Declarative
end TableQuery
