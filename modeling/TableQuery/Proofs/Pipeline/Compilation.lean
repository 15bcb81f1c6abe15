import TableQuery.Pipeline
import TableQuery.Proofs.Outcome

/-!
# The steps of a compilation

An input is read, planned and rendered. A statement is what all three steps come to, and a fault is
the fault of one of them.
-/

namespace TableQuery
namespace Pipeline

open Outcome

variable {pipeline : Pipeline} {catalog : Catalog} {input : Input}

theorem compile_eq_ok {statement : Statement} (h : pipeline.compile input = .ok statement) :
    ∃ model, pipeline.read input = .ok model ∧ pipeline.plan input model = .ok statement.plan ∧
      pipeline.renderPlan input statement.plan = .ok ⟨statement.sql, statement.columns⟩ := by
  rcases bind_eq_ok.mp h with ⟨model, hmodel, h⟩
  rcases bind_eq_ok.mp h with ⟨plan, hplan, h⟩
  rcases bind_eq_ok.mp h with ⟨rendered, hrendered, hstatement⟩
  cases hstatement
  exact ⟨model, hmodel, hplan, hrendered⟩

theorem compile_eq_error {fault : Fault} (h : pipeline.compile input = .error fault) :
    pipeline.read input = .error fault ∨
      ∃ model, pipeline.read input = .ok model ∧
        (pipeline.plan input model = .error fault ∨
          ∃ plan, pipeline.plan input model = .ok plan ∧
            pipeline.renderPlan input plan = .error fault) := by
  rcases bind_eq_error.mp h with hread | ⟨model, hmodel, h⟩
  · exact Or.inl hread
  · refine Or.inr ⟨model, hmodel, ?_⟩
    rcases bind_eq_error.mp h with hplan | ⟨plan, hplan, h⟩
    · exact Or.inl hplan
    · rcases bind_eq_error.mp h with hrendered | ⟨rendered, _, hstatement⟩
      · exact Or.inr ⟨plan, hplan, hrendered⟩
      · cases hstatement

/-!
## Texts

A fault of a later step keeps its cause and its place, and it knows the text if it has a place.
-/

theorem read_declarative {text : String} :
    read ⟨.standard, catalog⟩ (.declarative text) =
      (Declarative.Query.ofText text).map .declarative :=
  rfl

theorem cause_attachTo (input : Input) (fault : Fault) :
    (input.attachTo fault).cause = fault.cause := by
  cases input with
  | rest entity parameters => rfl
  | declarative text =>
      simp only [Input.attachTo]
      split <;> rfl

/-!
## Parameters

Reading parameters never fails, and a fault of a later step is passed on as it is.
-/

variable {entity : String} {parameters : OrderedMap String (Option String)}

theorem read_rest :
    read ⟨.standard, catalog⟩ (.rest entity parameters) =
      .ok (.rest (.ofParameters parameters.entries)) :=
  rfl

theorem mapError_attachTo_rest {α : Type} (x : Except Fault α) :
    x.mapError (Input.rest entity parameters).attachTo = x := by
  cases x <;> rfl

theorem plan_rest (query : Rest.Query) :
    plan ⟨.standard, catalog⟩ (.rest entity parameters) (.rest query) =
      catalog.planRest query entity :=
  mapError_attachTo_rest _

theorem renderPlan_rest (plan : Plan) :
    renderPlan ⟨.standard, catalog⟩ (.rest entity parameters) plan =
      Sql.renderPlan (catalog.table? .checking plan.entity.name) plan :=
  mapError_attachTo_rest _

end Pipeline
end TableQuery
