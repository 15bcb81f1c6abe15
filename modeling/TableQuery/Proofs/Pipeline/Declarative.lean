import TableQuery.Pipeline
import TableQuery.Proofs.Declarative.Acceptance
import TableQuery.Proofs.Sql.Validity

/-!
# Compiling declarative text

A declarative query can be rendered by itself, without a schema, or compiled through the pipeline,
which asks a schema for the table of the query. The two ways come to the same statement. The schema
may refuse a query, but it never changes what is written.
-/

namespace TableQuery

open Outcome

theorem Entity.name_of_ofName? {name : String} {entity : Entity}
    (h : Entity.ofName? name = some entity) : entity.name = name := by
  unfold Entity.ofName? at h
  split at h
  · cases h
    rfl
  · cases h

theorem Catalog.entity_eq_ok_iff {catalog : Catalog} {name : String} {span : Option Span}
    {entity : Entity} :
    catalog.entity name span = .ok entity ↔
      Entity.ofName? name = some entity ∧ ∃ table, catalog.table? .planning name = some table := by
  unfold Catalog.entity
  cases Entity.ofName? name with
  | none => simp
  | some found =>
      cases catalog.table? .planning name with
      | none => simp
      | some table => simp

theorem Declarative.Query.entity_of_plan {query : Declarative.Query} {entity : Entity} {plan : Plan}
    (h : query.plan entity = .ok plan) : plan.entity = entity := by
  rcases bind_eq_ok.mp h with ⟨filters, _, hplan⟩
  cases hplan
  rfl

theorem Sql.renderQuery_eq_ok_iff {query : Declarative.Query} {rendered : Rendered} :
    renderQuery query = .ok rendered ↔
      ∃ entity plan, Entity.ofName? query.resource.name = some entity ∧
        query.plan entity = .ok plan ∧ renderPlan none plan = .ok rendered := by
  unfold renderQuery
  cases Entity.ofName? query.resource.name with
  | none => simp
  | some entity => simp [bind_eq_ok]

namespace Pipeline

theorem read_standard_eq_ok_iff {catalog : Catalog} {text : String} {model : Model} :
    read ⟨.standard, catalog⟩ (.declarative text) = .ok model ↔
      ∃ query, Declarative.Query.ofText text = .ok query ∧ Model.declarative query = model :=
  map_eq_ok

theorem plan_eq_ok_iff {registry : Registry} {catalog : Catalog} {input : Input}
    {query : Declarative.Query} {plan : Plan} :
    Pipeline.plan ⟨registry, catalog⟩ input (.declarative query) = .ok plan ↔
      ∃ entity, Entity.ofName? query.resource.name = some entity ∧
        (∃ table, catalog.table? .planning query.resource.name = some table) ∧
        query.plan entity = .ok plan := by
  have hplan : Pipeline.plan ⟨registry, catalog⟩ input (.declarative query) = .ok plan ↔
      catalog.planDeclarative query = .ok plan := mapError_eq_ok
  rw [hplan, Catalog.planDeclarative, bind_eq_ok]
  simp only [Catalog.entity_eq_ok_iff, and_assoc]

theorem renderPlan_eq_ok_iff {catalog : Catalog} {input : Input} {plan : Plan}
    {rendered : Sql.Rendered} :
    Pipeline.renderPlan ⟨.standard, catalog⟩ input plan = .ok rendered ↔
      Sql.checkFields (catalog.table? .checking plan.entity.name) plan = .ok () ∧
        Sql.renderPlan none plan = .ok rendered :=
  mapError_eq_ok.trans Sql.renderPlan_eq_ok_iff

/-- A statement is compiled just if the text is a query, the catalog has a table for it, it has a
plan, the table takes the fields of the plan, and the plan is written without a table. -/
theorem compile_eq_ok_iff {catalog : Catalog} {text : String} {statement : Statement} :
    compile ⟨.standard, catalog⟩ (.declarative text) = .ok statement ↔
      ∃ query entity, Declarative.Query.ofText text = .ok query ∧
        Entity.ofName? query.resource.name = some entity ∧
        (∃ table, catalog.table? .planning query.resource.name = some table) ∧
        query.plan entity = .ok statement.plan ∧
        Sql.checkFields (catalog.table? .checking query.resource.name) statement.plan = .ok () ∧
        Sql.renderPlan none statement.plan = .ok ⟨statement.sql, statement.columns⟩ := by
  constructor
  · intro h
    rcases bind_eq_ok.mp h with ⟨model, hmodel, h⟩
    rcases bind_eq_ok.mp h with ⟨plan, hplan, h⟩
    rcases bind_eq_ok.mp h with ⟨rendered, hrendered, hstatement⟩
    rcases read_standard_eq_ok_iff.mp hmodel with ⟨query, hquery, rfl⟩
    rcases plan_eq_ok_iff.mp hplan with ⟨entity, hname, htable, hplan⟩
    rcases renderPlan_eq_ok_iff.mp hrendered with ⟨hfields, hrendered⟩
    cases hstatement
    rw [Declarative.Query.entity_of_plan hplan, Entity.name_of_ofName? hname] at hfields
    exact ⟨query, entity, hquery, hname, htable, hplan, hfields, hrendered⟩
  · intro h
    rcases h with ⟨query, entity, hquery, hname, htable, hplan, hfields, hrendered⟩
    rw [← Entity.name_of_ofName? hname, ← Declarative.Query.entity_of_plan hplan] at hfields
    apply bind_eq_ok.mpr
    refine ⟨.declarative query, read_standard_eq_ok_iff.mpr ⟨query, hquery, rfl⟩, ?_⟩
    apply bind_eq_ok.mpr
    refine ⟨statement.plan, plan_eq_ok_iff.mpr ⟨entity, hname, htable, hplan⟩, ?_⟩
    apply bind_eq_ok.mpr
    exact ⟨_, renderPlan_eq_ok_iff.mpr ⟨hfields, hrendered⟩, rfl⟩

/-- Compiling a text against a schema and rendering the query of the text by itself go together. A
statement is compiled just if the text is a query that is rendered, the schema has a table for its
resource, and the table takes every field that the plan of the query refers to. Then the statement
is the rendered one. -/
theorem compile_declarative_iff_renderQuery (text : String) (schema : Schema) :
    ((∃ statement, compile ⟨.standard, .ofSchema schema⟩ (.declarative text) = .ok statement) ↔
      ∃ query rendered table entity plan, Declarative.Query.ofText text = .ok query ∧
        Sql.renderQuery query = .ok rendered ∧
        schema.table? query.resource.name = some table ∧
        Entity.ofName? query.resource.name = some entity ∧ query.plan entity = .ok plan ∧
        ∀ field ∈ plan.referencedFields, table.hasField field = true) ∧
    ∀ statement, compile ⟨.standard, .ofSchema schema⟩ (.declarative text) = .ok statement →
      ∃ query rendered, Declarative.Query.ofText text = .ok query ∧
        Sql.renderQuery query = .ok rendered ∧
        statement.sql = rendered.sql ∧ statement.columns = rendered.columns := by
  constructor
  · constructor
    · intro h
      rcases h with ⟨statement, hstatement⟩
      rcases compile_eq_ok_iff.mp hstatement with
        ⟨query, entity, hquery, hname, ⟨handle, hhandle⟩, hplan, hfields, hrendered⟩
      rcases Option.map_eq_some_iff.mp hhandle with ⟨table, htable, rfl⟩
      have htakes := Sql.checkFields_eq_ok_iff.mp hfields table.handle hhandle
      exact ⟨query, _, table, entity, statement.plan, hquery,
        Sql.renderQuery_eq_ok_iff.mpr ⟨entity, statement.plan, hname, hplan, hrendered⟩, htable,
        hname, hplan, htakes⟩
    · intro h
      rcases h with ⟨query, rendered, table, entity, plan, hquery, hrendered, htable, hname, hplan,
        htakes⟩
      have hhandle : (schema.table? query.resource.name).map Table.handle = some table.handle :=
        Option.map_eq_some_iff.mpr ⟨table, htable, rfl⟩
      have hfields :
          Sql.checkFields ((schema.table? query.resource.name).map Table.handle) plan = .ok () := by
        apply Sql.checkFields_eq_ok_iff.mpr
        intro found hfound
        rw [hhandle] at hfound
        cases hfound
        exact htakes
      rcases Sql.renderQuery_eq_ok_iff.mp hrendered with ⟨entity', plan', hname', hplan', hrendered⟩
      rw [hname] at hname'
      cases hname'
      rw [hplan] at hplan'
      cases hplan'
      exact ⟨⟨plan, rendered.sql, rendered.columns⟩, compile_eq_ok_iff.mpr
        ⟨query, entity, hquery, hname, ⟨table.handle, hhandle⟩, hplan, hfields, hrendered⟩⟩
  · intro statement hstatement
    rcases compile_eq_ok_iff.mp hstatement with
      ⟨query, entity, hquery, hname, _, hplan, _, hrendered⟩
    exact ⟨query, _, hquery,
      Sql.renderQuery_eq_ok_iff.mpr ⟨entity, statement.plan, hname, hplan, hrendered⟩, rfl, rfl⟩

def filteredText : String :=
  "\x7bt(where:\x7br:\x7bgt:1.5\x7d\x7d)\x7bid\x7d\x7d"

def filteredNumber : Decimal :=
  ⟨false, 15, 1, by decide, by decide⟩

def filteredTree : Declarative.DocumentTree where
  keyword := none
  opened := ⟨0, 1⟩
  resource := ⟨"t", ⟨1, 1⟩⟩
  arguments := some
    { opened := ⟨2, 1⟩
      fields := .cons ⟨"where", ⟨3, 5⟩⟩ ⟨8, 1⟩ (.object ⟨9, 1⟩
        (.cons ⟨"r", ⟨10, 1⟩⟩ ⟨11, 1⟩ (.object ⟨12, 1⟩
          (.cons ⟨"gt", ⟨13, 2⟩⟩ ⟨15, 1⟩ (.number ⟨16, 3⟩ "1.5" filteredNumber) none .nil)
          ⟨19, 1⟩) none .nil) ⟨20, 1⟩) none .nil
      closed := ⟨21, 1⟩ }
  selecting := ⟨22, 1⟩
  selections := [(⟨"id", ⟨23, 2⟩⟩, none)]
  selected := ⟨25, 1⟩
  closed := ⟨26, 1⟩

def filteredQuery : Declarative.Query where
  resource := ⟨"t", ⟨1, 1⟩⟩
  selections := ["id"]
  filters := [⟨"r", .gt, .number ⟨16, 3⟩ filteredNumber⟩]

def filteredPlan : Plan where
  entity := ⟨"t", by decide⟩
  projection := ["id"]
  filters := [⟨"r", .gt, [.number filteredNumber], false⟩]

def filteredTable : Table :=
  .ofColumns "t" [{ name := "note", type := .text }, { name := "r", type := .numeric },
    { name := "id", type := .bigint }] none

theorem compile_declarative_iff_renderQuery_filtered :
    ∃ statement,
      compile ⟨.standard, .ofSchema (.ofTables [filteredTable])⟩ (.declarative filteredText) =
          .ok statement ∧
        statement.sql = "SELECT id FROM t WHERE r > 1.5" := by
  have hderives : Declarative.Derives filteredText filteredTree :=
    .of_toOption (by decide +kernel) (by decide +kernel : _ = some ⟨27, 0⟩)
  have hquery : Declarative.Query.ofText filteredText = .ok filteredQuery := by
    have hoperator : Declarative.FilterOperator.ofKey? "gt" = some .gt := by decide +kernel
    have hentry : Declarative.Filter.ofEntry "r" (⟨"gt", ⟨13, 2⟩⟩, .number ⟨16, 3⟩ filteredNumber) =
        .ok ⟨"r", .gt, .number ⟨16, 3⟩ filteredNumber⟩ := by
      simp only [Declarative.Filter.ofEntry, hoperator]
    have hmeaning : Declarative.Query.ofDocument filteredTree.document = .ok filteredQuery := by
      have hdocument : filteredTree.document =
          ⟨⟨"t", ⟨1, 1⟩⟩, [(⟨"where", ⟨3, 5⟩⟩, .object ⟨9, 12⟩ [(⟨"r", ⟨10, 1⟩⟩,
            .object ⟨12, 8⟩ [(⟨"gt", ⟨13, 2⟩⟩, .number ⟨16, 3⟩ filteredNumber)])])], ["id"]⟩ := rfl
      simp [hdocument, Declarative.Query.ofDocument, Declarative.Query.argument,
        Declarative.Filter.ofValue, Declarative.Filter.ofField, Declarative.Value.asObject, hentry,
        Outcome.ok_bind, filteredQuery]
    rw [Declarative.Query.ofText_of_derives hderives, hmeaning]
    rfl
  have hrendered : Sql.renderQuery filteredQuery =
      .ok ⟨"SELECT id FROM t WHERE r > 1.5", ["id"]⟩ := by
    rfl
  rcases compile_declarative_iff_renderQuery filteredText (.ofTables [filteredTable]) with
    ⟨hiff, hsame⟩
  rcases hiff.mpr ⟨filteredQuery, _, filteredTable, ⟨"t", by decide⟩, filteredPlan, hquery,
    hrendered, rfl, rfl, rfl, by decide⟩ with ⟨statement, hstatement⟩
  rcases hsame statement hstatement with ⟨query, rendered, hquery', hrendered', hsql, _⟩
  rw [hquery] at hquery'
  cases hquery'
  rw [hrendered] at hrendered'
  cases hrendered'
  exact ⟨statement, hstatement, hsql⟩

end Pipeline

end TableQuery
