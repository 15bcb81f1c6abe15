import TableQuery.Proofs.Pipeline.Compilation
import TableQuery.Proofs.Pipeline.Declarative
import TableQuery.Proofs.Schema.Filing
import TableQuery.Proofs.Sql.Injection

/-!
# Declared columns

A plan is checked by the list of fields that it names, and its statement is written from its parts.
The two agree: a statement refers to the fields that the plan names and to no others, so no column
reaches a statement that the table does not declare.
-/

namespace TableQuery

open Outcome

namespace Sql

/-!
## References of a statement

The references of a statement are collected clause by clause, wherever they stand in an expression.
A plan gives references only to the fields that it names.
-/

mutual

def Expr.references : Expr → List String
  | .column name => [name]
  | .string _ => []
  | .number _ => []
  | .boolean _ => []
  | .binary left _ right => left.references ++ right.references
  | .between operand low high => operand.references ++ low.references ++ high.references
  | .call _ arguments => Expr.referencesList arguments
  | .countAll => []

def Expr.referencesList : List Expr → List String
  | [] => []
  | expr :: rest => expr.references ++ Expr.referencesList rest

end

/-- The columns that a statement refers to, clause by clause. -/
def Select.references (select : Select) : List String :=
  select.columns.flatMap (fun column => column.expr.references) ++
    select.condition.toList.flatMap Expr.references ++
    select.order.flatMap (fun term => term.expr.references) ++
    select.limit.toList.flatMap Expr.references ++
    select.offset.toList.flatMap Expr.references

theorem references_foldExpr (ignoreCase : Bool) (expr : Expr) :
    (foldExpr ignoreCase expr).references = expr.references := by
  cases ignoreCase with
  | true => simp [foldExpr, Expr.lower, Expr.references, Expr.referencesList]
  | false => rfl

theorem references_scalarExpr (value : Scalar) : (scalarExpr value).references = [] := by
  cases value <;> rfl

theorem references_conditionExpr? {operator : Operator} {column condition : Expr}
    {operands : List Expr} (hoperands : ∀ operand ∈ operands, operand.references = [])
    (h : conditionExpr? operator column operands = some condition) :
    condition.references = column.references := by
  unfold conditionExpr? at h
  split at h
  · cases h
    simp [Expr.references, hoperands]
  · cases h
    simp [Expr.references, hoperands]
  · cases h

theorem references_criterionExpr {criterion : Criterion} {condition : Expr}
    (h : criterionExpr criterion = .ok condition) :
    condition.references = [criterion.field] := by
  rcases conditionExpr?_of_criterionExpr h with ⟨_, _, hcondition⟩
  have hoperands : ∀ operand ∈ criterion.values.map
      (fun value => foldExpr criterion.ignoreCase (scalarExpr value)),
      operand.references = [] := by
    intro operand hoperand
    rcases List.mem_map.mp hoperand with ⟨value, _, rfl⟩
    rw [references_foldExpr, references_scalarExpr]
  rw [references_conditionExpr? hoperands hcondition]
  exact references_foldExpr criterion.ignoreCase _

theorem references_all? (conditions : List Expr) :
    (Expr.all? conditions).toList.flatMap Expr.references =
      conditions.flatMap Expr.references := by
  cases conditions with
  | nil => rfl
  | cons first rest =>
      simp only [Expr.all?, Option.toList_some, List.flatMap_singleton]
      induction rest generalizing first with
      | nil => simp
      | cons second rest ih =>
          rw [List.foldl_cons, ih]
          simp [Expr.references]

theorem references_number (word : Option UInt64) :
    (word.map fun word => Expr.number (.ofUInt64 word)).toList.flatMap Expr.references = [] := by
  cases word <;> rfl

theorem flatMap_of_mapM {α β : Type} {f : α → Except Fault β} {view : β → List String}
    (field : α → String) (h : ∀ x y, f x = .ok y → view y = [field x]) {xs : List α} {ys : List β}
    (hmap : xs.mapM f = .ok ys) : ys.flatMap view = xs.map field := by
  rw [List.flatMap_def, map_view_of_mapM h hmap, ← List.flatMap_def, List.map_eq_flatMap]

theorem references_fieldColumn {field : String} {column : ResultColumn}
    (h : fieldColumn field = .ok column) : column.expr.references = [field] := by
  rcases map_eq_ok.mp h with ⟨expr, hexpr, rfl⟩
  rcases columnExpr_eq_ok hexpr with ⟨_, rfl⟩
  rfl

theorem references_aggregateColumn {pair : AggregateFunction × String} {column : ResultColumn}
    (h : aggregateColumn pair = .ok column) : column.expr.references = [pair.2] := by
  rcases map_eq_ok.mp h with ⟨expr, hexpr, rfl⟩
  rcases columnExpr_eq_ok hexpr with ⟨_, rfl⟩
  rfl

theorem references_orderTerm {key : SortKey} {term : OrderTerm} (h : orderTerm key = .ok term) :
    term.expr.references = [key.field] := by
  rcases map_eq_ok.mp h with ⟨expr, hexpr, rfl⟩
  rcases columnExpr_eq_ok hexpr with ⟨_, rfl⟩
  rfl

/-- The statement of a plan refers to the fields that are shown, aggregated, compared and sorted by,
and it reads the entity. -/
theorem references_ofPlan {table : Option Handle} {plan : Plan} {select : Select}
    (h : Select.ofPlan table plan = .ok select) :
    select.table = some plan.entity.name ∧
      select.references = (if plan.flags.entities then plan.projection else []) ++
        plan.aggregates.fields ++ plan.filters.map Criterion.field ++
        plan.sorting.map SortKey.field := by
  rcases Select.parts_of_ofPlan h with
    ⟨shown, aggregated, conditions, order, _, hshown, haggregated, hconditions, horder, rfl⟩
  have hcolumns : (shown ++ aggregated ++ (if plan.flags.count then [countColumn] else [])).flatMap
      (fun column => column.expr.references) =
        (if plan.flags.entities then plan.projection else []) ++ plan.aggregates.fields := by
    have hfields := flatMap_of_mapM id (fun _ _ => references_fieldColumn) hshown
    have haggregates := flatMap_of_mapM Prod.snd (fun _ _ => references_aggregateColumn) haggregated
    have hcount : (if plan.flags.count then [countColumn] else []).flatMap
        (fun column => column.expr.references) = [] := by
      split <;> rfl
    rw [List.flatMap_append, List.flatMap_append, hfields, haggregates, hcount, List.map_id,
      Aggregates.map_snd_pairs, List.append_nil]
  have hcompared := flatMap_of_mapM Criterion.field (fun _ _ => references_criterionExpr) hconditions
  have hsorted := flatMap_of_mapM SortKey.field (fun _ _ => references_orderTerm) horder
  refine ⟨rfl, ?_⟩
  simp only [Select.references, hcolumns, references_all?, hcompared, hsorted, references_number,
    List.append_nil]

/-!
## References of a text

Who reads the text of a statement finds in it the columns that it shows, compares and sorts by.
-/

def Shown.references : Shown → List String
  | .field name => [name]
  | .aggregate _ name => [name]
  | .count => []

def Content.references (content : Content) : List String :=
  content.columns.flatMap Shown.references ++ content.filters.map Criterion.field ++
    content.sorting.map SortKey.field

theorem references_content (plan : Plan) :
    plan.content.references = (if plan.flags.entities then plan.projection else []) ++
      plan.aggregates.fields ++ plan.filters.map Criterion.field ++
      plan.sorting.map SortKey.field := by
  have hcount : (if plan.flags.count then [Shown.count] else []).flatMap Shown.references = [] := by
    split <;> rfl
  have hcolumns : plan.content.columns.flatMap Shown.references =
      (if plan.flags.entities then plan.projection else []) ++ plan.aggregates.fields := by
    rw [Plan.columns_content, List.flatMap_append, List.flatMap_append, hcount, List.append_nil,
      List.flatMap_map, List.flatMap_map, ← Aggregates.map_snd_pairs]
    simp [Shown.references, List.map_eq_flatMap]
  rw [Content.references, hcolumns]
  rfl

theorem mem_mentions_of_mem {plan : Plan} {name : String}
    (hname : name ∈ (if plan.flags.entities then plan.projection else []) ++
      plan.aggregates.fields ++ plan.filters.map Criterion.field ++
      plan.sorting.map SortKey.field) : name ∈ plan.mentions := by
  have hshown : ∀ field ∈ (if plan.flags.entities then plan.projection else []),
      field ∈ plan.projection := by
    intro field hfield
    split at hfield
    · exact hfield
    · cases hfield
  simp only [Plan.mentions, List.mem_append] at hname ⊢
  rcases hname with ((hfield | haggregated) | hcompared) | hsorted
  · exact Or.inl (Or.inl (Or.inl (hshown name hfield)))
  · exact Or.inl (Or.inl (Or.inr haggregated))
  · exact Or.inl (Or.inr hcompared)
  · exact Or.inr hsorted

end Sql

/-!
## Compiled statements

A plan is made only for an entity that the catalog has a table for, and this table is asked for
every field that the plan names.
-/

theorem Rest.Query.entity_of_plan {query : Rest.Query} {entity : Entity} {plan : Plan}
    (h : query.plan entity = .ok plan) : plan.entity = entity := by
  rcases bind_eq_ok.mp h with ⟨filters, _, hplan⟩
  cases hplan
  rfl

namespace Pipeline

theorem exists_table_of_plan {registry : Registry} {catalog : Catalog} {input : Input}
    {model : Model} {plan : Plan} (h : Pipeline.plan ⟨registry, catalog⟩ input model = .ok plan) :
    ∃ table, catalog.table? .planning plan.entity.name = some table := by
  have hplanned : ∀ {name : String} {span : Option Span} {entity : Entity},
      catalog.entity name span = .ok entity → plan.entity = entity →
        ∃ table, catalog.table? .planning plan.entity.name = some table := by
    intro name span entity hentity heq
    rcases Catalog.entity_eq_ok_iff.mp hentity with ⟨hname, htable⟩
    rw [heq, Entity.name_of_ofName? hname]
    exact htable
  have h := mapError_eq_ok.mp h
  cases model with
  | declarative query =>
      rcases bind_eq_ok.mp h with ⟨entity, hentity, hplan⟩
      exact hplanned hentity (Declarative.Query.entity_of_plan hplan)
  | rest query =>
      cases input with
      | declarative text => cases h
      | rest name parameters =>
          rcases bind_eq_ok.mp h with ⟨entity, hentity, hplan⟩
          exact hplanned hentity (Rest.Query.entity_of_plan hplan)

/-- No column reaches a statement that the table of its entity does not declare. The statement reads
the table under the table's own name, and every reference in any of its clauses is a column that
stands in the table under its own name, if the table declares columns at all. The same holds of what is
read from the text of the statement alone. -/
theorem declared_of_compile {schema : Schema} (hschema : schema.Built) {input : Input}
    {statement : Statement}
    (h : compile ⟨.standard, .ofSchema schema⟩ input = .ok statement) :
    ∃ table select content, schema.table? statement.plan.entity.name = some table ∧
      Sql.Select.ofPlan (some table.handle) statement.plan = .ok select ∧
      statement.sql = select.render ∧ select.table = some table.name ∧
      Sql.Content.ofSql? statement.sql = some content ∧ content.entity = table.name ∧
      (table.columns.keys ≠ [] → ∀ name, name ∈ select.references ∨ name ∈ content.references →
        ∃ column, table.columns.get? name = some column ∧ column.name = name) := by
  rcases compile_eq_ok h with ⟨model, _, hplan, hrendered⟩
  rcases exists_table_of_plan hplan with ⟨handle, hhandle⟩
  rcases Option.map_eq_some_iff.mp hhandle with ⟨table, htable, rfl⟩
  have hrendered : Sql.renderPlan ((schema.table? statement.plan.entity.name).map Table.handle)
      statement.plan = .ok ⟨statement.sql, statement.columns⟩ := mapError_eq_ok.mp hrendered
  rw [htable, Option.map_some] at hrendered
  rcases bind_eq_ok.mp hrendered with ⟨select, hselect, hsql⟩
  rcases hschema.filed _ table htable with ⟨hname, hfiled⟩
  refine ⟨table, select, statement.plan.content, htable, hselect, ?_, ?_,
    Sql.ofSql?_of_renderPlan hrendered, hname.symm, ?_⟩
  · exact (congrArg Sql.Rendered.sql (Except.ok.inj hsql)).symm
  · rw [(Sql.references_ofPlan hselect).1, hname]
  · intro hdeclares name hreference
    -- The tree and the text refer to the same columns, those that the plan names.
    rw [(Sql.references_ofPlan hselect).2, Sql.references_content, or_self] at hreference
    have hmentioned := Sql.mem_mentions_of_mem hreference
    have htakes := (Sql.succeeds_renderPlan.mp ⟨_, hrendered⟩).declared table.handle rfl name hmentioned
    have hdeclared := (table.hasField_iff name).mp htakes hdeclares
    have hcolumn := (table.columns.isSome_get? name).mpr hdeclared
    rcases Option.isSome_iff_exists.mp hcolumn with ⟨column, hfound⟩
    exact ⟨column, hfound, hfiled name column hfound⟩

def everywhereParameters : OrderedMap String (Option String) :=
  .ofList [("attributes", some "id"), ("sum", some "r"), ("note", some "^=x"), ("r", some "1..2"),
    ("sorting", some "-note")]

theorem declared_of_compile_everywhere :
    ∃ statement select content,
      compile ⟨.standard, .ofSchema (.ofTables [filteredTable])⟩
          (.rest "t" everywhereParameters) = .ok statement ∧
        statement.sql = "SELECT id, SUM(r) AS sum_r FROM t WHERE LOWER(note) = LOWER('x') AND " ++
          "r BETWEEN 1 AND 2 ORDER BY note DESC" ∧
        Sql.Select.ofPlan (some filteredTable.handle) statement.plan = .ok select ∧
        Sql.Content.ofSql? statement.sql = some content ∧ content.entity = "t" ∧
        ∀ name, name ∈ select.references ∨ name ∈ content.references →
          ∃ column, filteredTable.columns.get? name = some column ∧ column.name = name := by
  have hbuilt : (Schema.ofTables [filteredTable]).Built :=
    .addTable .new (.addColumn _ (.addColumn _ (.addColumn _ (.new "t"))))
  have hcompile : ∃ statement, compile ⟨.standard, .ofSchema (.ofTables [filteredTable])⟩
      (.rest "t" everywhereParameters) = .ok statement ∧ statement.plan.entity.name = "t" ∧
        statement.sql = "SELECT id, SUM(r) AS sum_r FROM t WHERE LOWER(note) = LOWER('x') AND " ++
          "r BETWEEN 1 AND 2 ORDER BY note DESC" :=
    ⟨_, rfl, rfl, rfl⟩
  rcases hcompile with ⟨statement, hstatement, hentity, hsql⟩
  rcases declared_of_compile hbuilt hstatement with
    ⟨table, select, content, htable, hselect, _, _, hcontent, hname, hdeclared⟩
  have hfound : (Schema.ofTables [filteredTable]).table? "t" = some filteredTable := rfl
  rw [hentity, hfound] at htable
  cases htable
  exact ⟨statement, select, content, hstatement, hsql, hselect, hcontent, hname,
    hdeclared (by decide)⟩

end Pipeline

end TableQuery
