import TableQuery.Proofs.Outcome
import TableQuery.Proofs.Sql.ReadBack
import TableQuery.Proofs.Sql.Validity

/-!
# Safety from injection

Whatever texts and names a plan holds, its statement says what the plan says and nothing else: read
back by a reader that knows only the statement, it asks for just the content of the plan. So plans
that ask for different things have different statements.
-/

namespace TableQuery

open Outcome

/-- What a plan asks for. The projection counts only if fields of rows are shown. -/
def Plan.content (plan : Plan) : Sql.Content where
  distinct := plan.flags.distinct
  columns := (if plan.flags.entities then plan.projection else []).map .field ++
    plan.aggregates.sum.map (.aggregate .sum) ++ plan.aggregates.avg.map (.aggregate .avg) ++
    plan.aggregates.min.map (.aggregate .min) ++ plan.aggregates.max.map (.aggregate .max) ++
    (if plan.flags.count then [.count] else [])
  entity := plan.entity.name
  filters := plan.filters
  sorting := plan.sorting
  limit := plan.paging.limit
  offset := plan.paging.offset

theorem Plan.columns_content (plan : Plan) :
    plan.content.columns = (if plan.flags.entities then plan.projection else []).map .field ++
      plan.aggregates.pairs.map (fun pair => .aggregate pair.1 pair.2) ++
      (if plan.flags.count then [.count] else []) := by
  simp only [content, Aggregates.pairs, List.map_append, List.map_map, List.append_assoc]
  rfl

namespace Sql

/-!
## Names

The name of an aggregate's column is plain if the name of the field is.
-/

theorem isNamePart_of_isNameStart {c : Char} (h : isNameStart c = true) : isNamePart c = true := by
  simp only [isNameStart, Bool.or_eq_true] at h
  simp only [isNamePart, Char.isAlphanum, Bool.or_eq_true]
  rcases h with halpha | hunder
  · exact Or.inl (Or.inl halpha)
  · exact Or.inr hunder

theorem all_isNamePart_of_isPlainName {name : String} (h : isPlainName name = true) :
    name.toList.all isNamePart = true := by
  unfold isPlainName at h
  cases hchars : name.toList with
  | nil => rfl
  | cons c rest =>
      rw [hchars] at h
      simp only [isPlainChars, Bool.and_eq_true] at h
      simp only [List.all_cons, Bool.and_eq_true]
      exact ⟨isNamePart_of_isNameStart h.1, h.2⟩

theorem isPlainName_resultName (function : AggregateFunction) {field : String}
    (h : isPlainName field = true) : isPlainName (function.resultName field) = true := by
  have hparts := all_isNamePart_of_isPlainName h
  unfold isPlainName AggregateFunction.resultName
  rw [String.toList_append, String.toList_append]
  cases function with
  | sum => exact hparts
  | avg => exact hparts
  | min => exact hparts
  | max => exact hparts

/-!
## The parts of a statement

Every part that a plan gives has plain names only and is made of the lexemes of what the plan asks
for.
-/

theorem fieldColumn_eq_ok {field : String} {column : ResultColumn}
    (h : fieldColumn field = .ok column) :
    column.isPlain = true ∧ column.lexemes = (Shown.field field).lexemes := by
  rcases map_eq_ok.mp h with ⟨expr, hexpr, hcolumn⟩
  rcases columnExpr_eq_ok hexpr with ⟨hplain, heq⟩
  rw [← hcolumn, heq]
  constructor
  · simp [ResultColumn.isPlain, Expr.isPlain, hplain]
  · rfl

theorem aggregateColumn_eq_ok {pair : AggregateFunction × String} {column : ResultColumn}
    (h : aggregateColumn pair = .ok column) :
    column.isPlain = true ∧ column.lexemes = (Shown.aggregate pair.1 pair.2).lexemes := by
  rcases map_eq_ok.mp h with ⟨expr, hexpr, hcolumn⟩
  rcases columnExpr_eq_ok hexpr with ⟨hplain, heq⟩
  have hsql : isPlainName pair.1.sql = true := by
    cases pair.1 <;> decide
  rw [← hcolumn, heq]
  constructor
  · simp [ResultColumn.isPlain, Expr.isPlain, Expr.isPlainList, hplain, hsql,
      isPlainName_resultName pair.1 hplain]
  · rfl

theorem orderTerm_eq_ok {key : SortKey} {term : OrderTerm} (h : orderTerm key = .ok term) :
    term.expr.isPlain = true ∧ term.lexemes = sortLexemes key := by
  rcases map_eq_ok.mp h with ⟨expr, hexpr, hterm⟩
  rcases columnExpr_eq_ok hexpr with ⟨hplain, heq⟩
  rw [← hterm, heq]
  exact ⟨hplain, rfl⟩

def foldExpr (ignoreCase : Bool) (expr : Expr) : Expr :=
  if ignoreCase then expr.lower else expr

theorem lexemes_foldExpr (ignoreCase : Bool) {expr : Expr} {lexeme : Lexeme}
    (h : expr.lexemes = [lexeme]) : (foldExpr ignoreCase expr).lexemes = folded ignoreCase lexeme := by
  cases ignoreCase with
  | true =>
      simp only [foldExpr, if_true, Expr.lower, Expr.lexemes, Expr.lexemesList, Expr.lexemesMore, h]
      rfl
  | false => exact h

theorem isPlain_foldExpr (ignoreCase : Bool) {expr : Expr} (h : expr.isPlain = true) :
    (foldExpr ignoreCase expr).isPlain = true := by
  cases ignoreCase with
  | true =>
      have hlower : isPlainName "LOWER" = true := by decide
      simp [foldExpr, Expr.lower, Expr.isPlain, Expr.isPlainList, h, hlower]
  | false => exact h

theorem lexemes_scalarExpr (value : Scalar) : (scalarExpr value).lexemes = [scalarLexeme value] := by
  cases value <;> rfl

theorem isPlain_scalarExpr (value : Scalar) : (scalarExpr value).isPlain = true := by
  cases value <;> rfl

theorem complete_of_check {criterion : Criterion}
    (h : criterion.operator.check criterion.field criterion.values = .ok ()) :
    Complete criterion := by
  unfold Operator.check at h
  simp only at h
  split at h
  · cases h
  · rename_i hlength
    exact Classical.not_not.mp hlength

theorem conditionExpr?_eq_some {criterion : Criterion} {condition : Expr}
    (hcomplete : Complete criterion) (hplain : isPlainName criterion.field = true)
    (h : conditionExpr? criterion.operator
      (foldExpr criterion.ignoreCase (.column criterion.field))
      (criterion.values.map fun value => foldExpr criterion.ignoreCase (scalarExpr value)) =
        some condition) :
    condition.isPlain = true ∧ condition.lexemes = criterionLexemes criterion := by
  have hvalues := hcomplete.values_eq
  obtain ⟨field, operator, values, ignoreCase⟩ := criterion
  have hcolumnPlain : (foldExpr ignoreCase (.column field)).isPlain = true :=
    isPlain_foldExpr ignoreCase hplain
  have hcolumn : (foldExpr ignoreCase (.column field)).lexemes = folded ignoreCase (.word field) :=
    lexemes_foldExpr ignoreCase rfl
  have hscalarPlain := fun value => isPlain_foldExpr ignoreCase (isPlain_scalarExpr value)
  have hscalar := fun value => lexemes_foldExpr ignoreCase (lexemes_scalarExpr value)
  rcases hvalues with ⟨hoperator, low, high, hvalues⟩ | ⟨hoperator, value, hvalues⟩
  · simp only at hoperator hvalues
    subst hoperator hvalues
    cases h
    constructor
    · simp [Expr.isPlain, hcolumnPlain, hscalarPlain]
    · simp only [Expr.lexemes, hcolumn, hscalar]
      rfl
  · simp only at hoperator hvalues
    subst hvalues
    cases operator with
    | between => exact absurd rfl hoperator
    | _ =>
        cases h
        constructor
        · simp [Expr.isPlain, hcolumnPlain, hscalarPlain]
        · simp only [Expr.lexemes, hcolumn, hscalar]
          rfl

theorem conditionExpr?_of_criterionExpr {criterion : Criterion} {condition : Expr}
    (h : criterionExpr criterion = .ok condition) :
    Complete criterion ∧ isPlainName criterion.field = true ∧
      conditionExpr? criterion.operator
        (foldExpr criterion.ignoreCase (.column criterion.field))
        (criterion.values.map fun value => foldExpr criterion.ignoreCase (scalarExpr value)) =
          some condition := by
  rcases bind_eq_ok.mp h with ⟨_, hcheck, h⟩
  rcases bind_eq_ok.mp h with ⟨column, hcolumn, h⟩
  rcases columnExpr_eq_ok hcolumn with ⟨hplain, rfl⟩
  refine ⟨complete_of_check hcheck, hplain, ?_⟩
  simp only at h
  split at h
  · rename_i found hfound
    cases h
    exact hfound
  · cases h

theorem criterionExpr_eq_ok {criterion : Criterion} {condition : Expr}
    (h : criterionExpr criterion = .ok condition) :
    (Complete criterion ∧ condition.isPlain = true) ∧
      condition.lexemes = criterionLexemes criterion := by
  rcases conditionExpr?_of_criterionExpr h with ⟨hcomplete, hplain, hcondition⟩
  rcases conditionExpr?_eq_some hcomplete hplain hcondition with ⟨hexpr, hlexemes⟩
  exact ⟨⟨hcomplete, hexpr⟩, hlexemes⟩

theorem lexemes_all? (conditions : List Expr) :
    (Expr.all? conditions).map Expr.lexemes = joined? (.word "AND") Expr.lexemes conditions := by
  cases conditions with
  | nil => rfl
  | cons first rest =>
      simp only [Expr.all?, Option.map_some, joined?, List.isEmpty_cons, Bool.false_eq_true,
        if_false, Option.some.injEq]
      induction rest generalizing first with
      | nil => rfl
      | cons second rest ih =>
          rw [List.foldl_cons, ih (.binary first .and second)]
          cases rest with
          | nil => rfl
          | cons third rest =>
              simp only [List.map_cons, joined, Expr.lexemes, List.append_assoc, List.cons_append]
              rfl

theorem isPlain_all? {conditions : List Expr} (h : ∀ expr ∈ conditions, expr.isPlain = true) :
    ∀ condition ∈ Expr.all? conditions, condition.isPlain = true := by
  intro condition hcondition
  cases conditions with
  | nil => cases hcondition
  | cons first rest =>
      cases hcondition
      induction rest generalizing first with
      | nil => exact h first (by simp)
      | cons second rest ih =>
          apply ih
          intro expr hexpr
          rcases List.mem_cons.mp hexpr with rfl | hrest
          · simp [Expr.isPlain, h first (by simp), h second (by simp)]
          · exact h expr (by simp [hrest])

theorem joined?_congr {α β : Type} {left : α → List Lexeme} {right : β → List Lexeme} {xs : List α}
    {ys : List β} (separator : Lexeme) (h : xs.map left = ys.map right) :
    joined? separator left xs = joined? separator right ys := by
  have hempty : xs.isEmpty = ys.isEmpty := by
    rw [← List.isEmpty_map (f := left), h, List.isEmpty_map]
  rw [joined?, joined?, hempty, h]

/-!
## The statement of a plan
-/

theorem lexemes_number (word : Option UInt64) :
    (word.map fun word => Expr.number (.ofUInt64 word)).map Expr.lexemes =
      word.map fun word => [Lexeme.number (.ofUInt64 word)] := by
  cases word <;> rfl

theorem isPlain_number (word : Option UInt64) :
    ∀ expr ∈ word.map fun word => Expr.number (.ofUInt64 word), expr.isPlain = true := by
  intro expr hexpr
  rcases Option.map_eq_some_iff.mp hexpr with ⟨_, _, heq⟩
  rw [← heq]
  rfl

theorem columns_of_mapM {plan : Plan} {shown aggregated : List ResultColumn}
    (hshown : (if plan.flags.entities then plan.projection else []).mapM fieldColumn = .ok shown)
    (haggregated : plan.aggregates.pairs.mapM aggregateColumn = .ok aggregated) :
    (∀ column ∈ shown ++ aggregated ++ (if plan.flags.count then [countColumn] else []),
        column.isPlain = true) ∧
      (shown ++ aggregated ++ (if plan.flags.count then [countColumn] else [])).map
        ResultColumn.lexemes = plan.content.columns.map Shown.lexemes := by
  rcases mapM_eq_ok_view (fun _ _ => fieldColumn_eq_ok) hshown with ⟨_, hplain, hlexemes⟩
  rcases mapM_eq_ok_view (fun _ _ => aggregateColumn_eq_ok) haggregated with
    ⟨_, hplain', hlexemes'⟩
  constructor
  · intro column hcolumn
    rcases List.mem_append.mp hcolumn with hrow | hcount
    · rcases List.mem_append.mp hrow with hfield | haggregate
      · exact (hplain column hfield).elim fun _ h => h
      · exact (hplain' column haggregate).elim fun _ h => h
    · split at hcount
      · cases List.mem_singleton.mp hcount
        decide
      · cases hcount
  · simp only [Plan.columns_content, List.map_append, hlexemes, hlexemes', List.map_map]
    congr 1
    split <;> rfl

theorem Select.ofPlan_eq_ok {table : Option Handle} {plan : Plan} {select : Select}
    (h : Select.ofPlan table plan = .ok select) :
    select.IsPlain ∧ select.lexemes = plan.content.lexemes ∧
      ∀ criterion ∈ plan.content.filters, Complete criterion := by
  rcases Select.parts_of_ofPlan h with
    ⟨shown, aggregated, conditions, order, hplain, hshown, haggregated, hconditions, horder, rfl⟩
  rcases columns_of_mapM hshown haggregated with ⟨hcolumnsPlain, hcolumns⟩
  rcases mapM_eq_ok_view (fun _ _ => criterionExpr_eq_ok) hconditions with
    ⟨hcomplete, hconditionsPlain, hfilters⟩
  rcases mapM_eq_ok_view (fun _ _ => orderTerm_eq_ok) horder with ⟨_, horderPlain, hsorting⟩
  refine ⟨⟨hcolumnsPlain, ?_, ?_, ?_, isPlain_number _, isPlain_number _⟩, ?_, ?_⟩
  · intro found hfound
    cases hfound
    exact hplain
  · exact isPlain_all? fun expr hexpr => (hconditionsPlain expr hexpr).elim fun _ h => h.2
  · intro term hterm
    exact (horderPlain term hterm).elim fun _ h => h
  · have hempty := congrArg List.isEmpty hcolumns
    rw [List.isEmpty_map, List.isEmpty_map] at hempty
    have horder : Select.orderLexemes? order = joined? (.symbol .comma) sortLexemes plan.sorting :=
      joined?_congr (.symbol .comma) hsorting
    simp only [Select.lexemes, Select.columnsLexemes, Content.lexemes, Content.bodyLexemes,
      Content.columnsLexemes, Content.clausesLexemes, Content.orderLexemes, Content.windowLexemes,
      hempty, hcolumns, lexemes_all?, joined?_congr _ hfilters, horder, lexemes_number]
    rfl
  · intro criterion hcriterion
    exact (hcomplete criterion hcriterion).elim fun _ h => h.1

theorem ofSql?_of_renderPlan {table : Option Handle} {plan : Plan} {rendered : Rendered}
    (h : renderPlan table plan = .ok rendered) : Content.ofSql? rendered.sql = some plan.content := by
  rcases bind_eq_ok.mp h with ⟨select, hselect, hrendered⟩
  cases hrendered
  rcases Select.ofPlan_eq_ok hselect with ⟨hplain, hlexemes, hcomplete⟩
  rw [Content.ofSql?, Select.lexemes?_render hplain, hlexemes]
  exact Content.ofLexemes?_lexemes hcomplete

/-- The statement of a plan, read by itself, asks for what the plan asks for. So no text and no name
in a plan changes what the statement asks for, and plans that ask for different things have different
statements. -/
theorem ofSql?_renderPlan {table : Option Handle} {plan : Plan} {rendered : Rendered}
    (h : renderPlan table plan = .ok rendered) :
    Content.ofSql? rendered.sql = some plan.content ∧
      ∀ (table' : Option Handle) (plan' : Plan) (rendered' : Rendered),
        renderPlan table' plan' = .ok rendered' → rendered'.sql = rendered.sql →
          plan'.content = plan.content := by
  refine ⟨ofSql?_of_renderPlan h, ?_⟩
  intro table' plan' rendered' h' hsql
  have hcontent := ofSql?_of_renderPlan h'
  rw [hsql, ofSql?_of_renderPlan h] at hcontent
  exact (Option.some.inj hcontent).symm

/-- A plan whose names are keywords and whose texts hold quotes, keywords and whole clauses. -/
def keywordPlan : Plan where
  entity := ⟨"FROM", by decide⟩
  projection := ["DISTINCT", "AS"]
  filters := [⟨"WHERE", .like, [.string "x' OR '1' = '1"], true⟩,
    ⟨"AND", .between, [.string "' AND '", .number (.ofUInt64 7)], false⟩]
  sorting := [⟨"LIMIT", .descending⟩]
  paging := { page := some 2, size := some 10 }
  aggregates := { sum := ["ORDER"] }

def keywordStatement : Rendered where
  sql := "SELECT DISTINCT, AS, SUM(ORDER) AS sum_ORDER FROM FROM " ++
    "WHERE LOWER(WHERE) LIKE LOWER('x'' OR ''1'' = ''1') AND AND BETWEEN ''' AND ''' AND 7 " ++
    "ORDER BY LIMIT DESC LIMIT 10 OFFSET 10"
  columns := ["DISTINCT", "AS", "sum_ORDER"]

theorem ofSql?_renderPlan_keywords :
    renderPlan none keywordPlan = .ok keywordStatement ∧
      Content.ofSql? keywordStatement.sql = some keywordPlan.content := by
  have h : renderPlan none keywordPlan = .ok keywordStatement := by
    rfl
  exact ⟨h, (ofSql?_renderPlan h).1⟩

end Sql
end TableQuery
