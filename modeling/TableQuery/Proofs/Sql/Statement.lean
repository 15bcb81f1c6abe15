import TableQuery.Proofs.Sql.Injection

/-!
# The text of a statement

The text that a plan prescribes can be said clause by clause, without expressions and without a
renderer. It is the text of the statement that is built for the plan.
-/

namespace TableQuery

open Outcome

/-!
## The prescribed text

A plan shows fields of rows, then aggregates, then the number of rows. Where the case of letters
does not count, the field and all operands are taken in small letters.
-/

/-- An operand: a text between apostrophes with every apostrophe inside doubled, a number in plain
notation, or a truth value. -/
def Scalar.sql : Scalar → String
  | string content =>
    "'" ++ .ofList (content.toList.flatMap fun c => if c = '\'' then ['\'', '\''] else [c]) ++ "'"
  | number value => value.text
  | boolean true => "true"
  | boolean false => "false"

namespace Criterion

def cased (criterion : Criterion) (text : String) : String :=
  if criterion.ignoreCase then "LOWER(" ++ text ++ ")" else text

def sql (criterion : Criterion) : String :=
  criterion.cased criterion.field ++ " " ++ criterion.operator.sql ++ " " ++
    " AND ".intercalate (criterion.values.map fun value => criterion.cased value.sql)

end Criterion

def SortKey.sql : SortKey → String
  | ⟨field, .ascending⟩ => field ++ " ASC"
  | ⟨field, .descending⟩ => field ++ " DESC"

def Paging.sql : Paging → String
  | ⟨_, none⟩ => ""
  | ⟨none, some size⟩ => " LIMIT " ++ toString size.toNat
  | ⟨some page, some size⟩ =>
    " LIMIT " ++ toString size.toNat ++ " OFFSET " ++ toString ((page.toNat - 1) * size.toNat)

def AggregateFunction.item (field : String) : AggregateFunction → String
  | sum => "SUM(" ++ field ++ ") AS sum_" ++ field
  | avg => "AVG(" ++ field ++ ") AS avg_" ++ field
  | min => "MIN(" ++ field ++ ") AS min_" ++ field
  | max => "MAX(" ++ field ++ ") AS max_" ++ field

namespace Plan

def selectItems (plan : Plan) : List String :=
  (if plan.flags.entities then plan.projection else []) ++
    plan.aggregates.sum.map (AggregateFunction.item · .sum) ++
    plan.aggregates.avg.map (AggregateFunction.item · .avg) ++
    plan.aggregates.min.map (AggregateFunction.item · .min) ++
    plan.aggregates.max.map (AggregateFunction.item · .max) ++
    (if plan.flags.count then ["COUNT(*) AS total_count"] else [])

def sql (plan : Plan) : String :=
  "SELECT" ++ (if plan.flags.distinct then " DISTINCT" else "") ++ " " ++
    (if plan.selectItems.isEmpty then "*" else ", ".intercalate plan.selectItems) ++
    (" FROM " ++ plan.entity.name) ++
    (if plan.filters.isEmpty then ""
      else " WHERE " ++ " AND ".intercalate (plan.filters.map Criterion.sql)) ++
    (if plan.sorting.isEmpty then ""
      else " ORDER BY " ++ ", ".intercalate (plan.sorting.map SortKey.sql)) ++
    plan.paging.sql

end Plan

/-!
## The built text
-/

theorem Text.join_eq_intercalate (separator : String) (texts : List String) :
    Text.join separator texts = separator.intercalate texts := by
  induction texts with
  | nil => rw [Text.join, String.intercalate_nil]
  | cons first rest ih =>
      cases rest with
      | nil => rw [Text.join, String.intercalate_singleton]
      | cons second rest =>
          rw [Text.join, ih, String.intercalate_cons_cons]
          exact List.cons_ne_nil second rest

theorem Plan.selectItems_eq (plan : Plan) :
    plan.selectItems = (if plan.flags.entities then plan.projection else []) ++
      plan.aggregates.pairs.map (fun pair => pair.1.item pair.2) ++
      (if plan.flags.count then ["COUNT(*) AS total_count"] else []) := by
  simp only [selectItems, Aggregates.pairs, List.map_append, List.map_map, List.append_assoc]
  rfl

theorem Decimal.text_ofUInt64 (word : UInt64) : (Decimal.ofUInt64 word).text = toString word.toNat := by
  have hpadding : 1 - (Nat.toDigits 10 word.toNat).length = 0 :=
    Nat.sub_eq_zero_of_le Nat.length_toDigits_pos
  rw [Nat.toString_eq_ofList_toDigits]
  simp only [Decimal.text, Decimal.chars, Decimal.ofUInt64, Decimal.magnitudeText,
    Decimal.paddedDigits, Bool.false_eq_true, if_false, if_true, Nat.zero_add, hpadding]
  rfl

namespace Sql

theorem doubled_eq_flatMap (cs : List Char) :
    doubled cs = cs.flatMap fun c => if c = '\'' then ['\'', '\''] else [c] := by
  induction cs with
  | nil => rfl
  | cons c cs ih =>
      rw [doubled, List.flatMap_cons, ← ih]
      split <;> rfl

theorem render_scalarExpr (value : Scalar) : (scalarExpr value).render = value.sql := by
  cases value with
  | string content =>
      rw [scalarExpr, Expr.render, literal, doubled_eq_flatMap, Scalar.sql, String.ofList_append,
        String.ofList_cons]
      rfl
  | number value => rfl
  | boolean value => cases value <;> rfl

theorem render_foldExpr (criterion : Criterion) (expr : Expr) :
    (foldExpr criterion.ignoreCase expr).render = criterion.cased expr.render := by
  unfold foldExpr Criterion.cased
  split
  · simp only [Expr.lower, Expr.render, Expr.renderList, Expr.renderMore, String.append_empty]
    rfl
  · rfl

theorem render_criterionExpr {criterion : Criterion} {condition : Expr}
    (h : criterionExpr criterion = .ok condition) : condition.render = criterion.sql := by
  rcases conditionExpr?_of_criterionExpr h with ⟨hcomplete, _, hcondition⟩
  have hfield : (foldExpr criterion.ignoreCase (.column criterion.field)).render =
      criterion.cased criterion.field := render_foldExpr criterion _
  have hoperand : ∀ value, (foldExpr criterion.ignoreCase (scalarExpr value)).render =
      criterion.cased value.sql := by
    intro value
    rw [render_foldExpr, render_scalarExpr]
  rw [Criterion.sql]
  rcases hcomplete.values_eq with ⟨hoperator, low, high, hvalues⟩ | ⟨hoperator, value, hvalues⟩
  · rw [hoperator, hvalues] at hcondition
    cases hcondition
    rw [Expr.render, hfield, hoperand, hoperand, hoperator, hvalues, List.map_cons, List.map_cons,
      List.map_nil, String.intercalate_cons_cons, String.intercalate_singleton]
    simp only [Operator.sql, String.append_assoc]
    rfl
  · rw [hvalues] at hcondition
    rw [hvalues, List.map_cons, List.map_nil, String.intercalate_singleton]
    cases hname : criterion.operator with
    | between => exact absurd hname hoperator
    | _ =>
        rw [hname] at hcondition
        cases hcondition
        rw [Expr.render, hfield, hoperand]
        rfl

theorem render_foldl_and (first : Expr) (rest : List Expr) :
    (rest.foldl (fun left right => Expr.binary left .and right) first).render =
      " AND ".intercalate (first.render :: rest.map Expr.render) := by
  -- The tree grows to the left: what has been joined so far is the first condition of the rest.
  induction rest generalizing first with
  | nil => rw [List.foldl_nil, List.map_nil, String.intercalate_singleton]
  | cons second rest ih =>
      rw [List.foldl_cons, ih, List.map_cons, Expr.render, String.intercalate_cons_append,
        String.intercalate_cons_cons]
      simp only [String.append_assoc]
      rfl

theorem render_fieldColumn {field : String} {column : ResultColumn}
    (h : fieldColumn field = .ok column) : column.render = field := by
  rcases map_eq_ok.mp h with ⟨expr, hexpr, rfl⟩
  rcases columnExpr_eq_ok hexpr with ⟨_, rfl⟩
  rfl

theorem render_aggregateColumn {pair : AggregateFunction × String} {column : ResultColumn}
    (h : aggregateColumn pair = .ok column) :
    column.render = pair.1.item pair.2 := by
  rcases map_eq_ok.mp h with ⟨expr, hexpr, rfl⟩
  rcases columnExpr_eq_ok hexpr with ⟨_, rfl⟩
  obtain ⟨function, field⟩ := pair
  cases function
  all_goals
    simp only [ResultColumn.render, Expr.render, Expr.renderList, Expr.renderMore,
      AggregateFunction.resultName, AggregateFunction.item, String.append_empty,
      String.append_assoc]
    rfl

theorem render_orderTerm {key : SortKey} {term : OrderTerm} (h : orderTerm key = .ok term) :
    term.render = key.sql := by
  rcases map_eq_ok.mp h with ⟨expr, hexpr, rfl⟩
  rcases columnExpr_eq_ok hexpr with ⟨_, rfl⟩
  obtain ⟨field, direction⟩ := key
  cases direction with
  | ascending =>
      rw [OrderTerm.render, Expr.render, String.append_assoc]
      rfl
  | descending =>
      rw [OrderTerm.render, Expr.render, String.append_assoc]
      rfl

theorem render_columns {plan : Plan} {shown aggregated : List ResultColumn}
    (hshown : (if plan.flags.entities then plan.projection else []).mapM fieldColumn = .ok shown)
    (haggregated : plan.aggregates.pairs.mapM aggregateColumn = .ok aggregated) :
    (shown ++ aggregated ++ (if plan.flags.count then [countColumn] else [])).map
      ResultColumn.render = plan.selectItems := by
  have hfields := map_view_of_mapM (fun _ _ => render_fieldColumn) hshown
  have haggregates := map_view_of_mapM (fun _ _ => render_aggregateColumn) haggregated
  have hcount : (if plan.flags.count then [countColumn] else []).map ResultColumn.render =
      if plan.flags.count then ["COUNT(*) AS total_count"] else [] := by
    split <;> rfl
  rw [List.map_append, List.map_append, hfields, haggregates, hcount, List.map_id',
    Plan.selectItems_eq]

/-!
## Clauses

A clause is there if it has something to say.
-/

theorem renderColumns_eq (columns : List ResultColumn) :
    Select.renderColumns columns =
      if (columns.map ResultColumn.render).isEmpty then "*"
      else ", ".intercalate (columns.map ResultColumn.render) := by
  rw [Select.renderColumns, List.isEmpty_map, Text.join_eq_intercalate]

theorem clause_all? (conditions : List Expr) :
    Select.clause "WHERE" ((Expr.all? conditions).map Expr.render) =
      if (conditions.map Expr.render).isEmpty then ""
      else " WHERE " ++ " AND ".intercalate (conditions.map Expr.render) := by
  cases conditions with
  | nil => rfl
  | cons first rest =>
      rw [Expr.all?, Option.map_some, render_foldl_and]
      rfl

theorem clause_renderOrder? (order : List OrderTerm) :
    Select.clause "ORDER BY" (Select.renderOrder? order) =
      if (order.map OrderTerm.render).isEmpty then ""
      else " ORDER BY " ++ ", ".intercalate (order.map OrderTerm.render) := by
  rw [Select.renderOrder?, List.isEmpty_map, Text.join_eq_intercalate]
  split <;> rfl

theorem render_number (word : Option UInt64) :
    (word.map fun word => Expr.number (.ofUInt64 word)).map Expr.render =
      (word.map UInt64.toNat).map toString := by
  cases word with
  | none => rfl
  | some word =>
      rw [Option.map_some, Option.map_some, Expr.render, Decimal.text_ofUInt64]
      rfl

theorem clause_paging (paging : Paging) :
    Select.clause "LIMIT"
        ((paging.limit.map fun word => Expr.number (.ofUInt64 word)).map Expr.render) ++
      Select.clause "OFFSET"
        ((paging.offset.map fun word => Expr.number (.ofUInt64 word)).map Expr.render) =
      paging.sql := by
  rw [render_number, render_number]
  obtain ⟨page, size⟩ := paging
  cases size with
  | none => cases page <;> rfl
  | some size =>
      have hlimit : (Paging.mk page (some size)).limit.map UInt64.toNat = some size.toNat := by
        rw [Paging.limit, Option.map_some, Option.map_some, UInt32.toNat_toUInt64]
      rw [hlimit]
      cases page with
      | none => exact String.append_empty
      | some page =>
          rw [Paging.toNat_offset, Paging.sql, String.append_assoc]
          rfl

/-- The statement of a plan is the text that the plan prescribes. -/
theorem sql_renderPlan {table : Option Handle} {plan : Plan} {rendered : Rendered}
    (h : renderPlan table plan = .ok rendered) : rendered.sql = plan.sql := by
  rcases bind_eq_ok.mp h with ⟨select, hselect, hrendered⟩
  cases hrendered
  rcases Select.parts_of_ofPlan hselect with
    ⟨shown, aggregated, conditions, order, _, hshown, haggregated, hconditions, horder, rfl⟩
  have hcolumns := render_columns hshown haggregated
  have hfilters := map_view_of_mapM (fun _ _ => render_criterionExpr) hconditions
  have hsorting := map_view_of_mapM (fun _ _ => render_orderTerm) horder
  simp only [Select.render, renderColumns_eq, hcolumns, clause_all?, hfilters, clause_renderOrder?,
    hsorting, List.isEmpty_map]
  rw [String.append_assoc, clause_paging]
  rfl

/-- A plan with something in every clause: a range whose case does not count, a text with an
apostrophe, a negative number, and a page before the first one. -/
def crowdedPlan : Plan where
  entity := ⟨"orders", by decide⟩
  projection := ["id", "name"]
  filters := [⟨"name", .between, [.string "O'Neil", .string "z"], true⟩,
    ⟨"price", .gte, [.number ⟨true, 12500, 4, by decide, by decide⟩], false⟩,
    ⟨"open", .neq, [.boolean true], false⟩]
  sorting := [⟨"price", .descending⟩, ⟨"id", .ascending⟩]
  paging := { page := some 0, size := some 20 }
  aggregates := { sum := ["price"], min := ["price"], max := ["price", "id"] }
  flags := { count := true, distinct := true }

theorem sql_renderPlan_crowded :
    (∃ rendered, renderPlan none crowdedPlan = .ok rendered ∧ rendered.sql = crowdedPlan.sql) ∧
      crowdedPlan.sql =
        "SELECT DISTINCT id, name, SUM(price) AS sum_price, MIN(price) AS min_price, " ++
        "MAX(price) AS max_price, MAX(id) AS max_id, COUNT(*) AS total_count FROM orders " ++
        "WHERE LOWER(name) BETWEEN LOWER('O''Neil') AND LOWER('z') AND price >= -1.2500 " ++
        "AND open != true ORDER BY price DESC, id ASC LIMIT 20 OFFSET 0" := by
  have h : renderPlan none crowdedPlan = .ok _ := rfl
  exact ⟨⟨_, h, sql_renderPlan h⟩, by decide +kernel⟩

end Sql
end TableQuery
