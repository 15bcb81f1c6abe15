import Mathlib.Data.List.Nodup
import TableQuery.Proofs.OrderedMap
import TableQuery.Proofs.Sql.Statement
import TableQuery.Result.ResultSet

/-!
# Result columns

The names that are reported with a statement are the names of the columns in its select list. An
aggregate has a name that no other column of an aggregate has, as long as no function is asked for
one field twice. So results can be kept by these names.
-/

namespace TableQuery

open Outcome

/-!
## The columns of a select list

A column of a select list shows something under a name. A field has its own name, and a call has the
name behind it.
-/

namespace Sql

/-- What is shown, under a name, as it is written in a select list. A field has its own name. -/
def Shown.item (shown : Shown) (name : String) : String :=
  match shown with
  | .field _ => name
  | .aggregate function column => function.sql ++ "(" ++ column ++ ") AS " ++ name
  | .count => "COUNT(*) AS " ++ name

def Shown.isCall : Shown → Bool
  | .field _ => false
  | .aggregate _ _ => true
  | .count => true

def Content.aliases (content : Content) (names : List String) : List String :=
  ((content.columns.zip names).filter fun column => column.1.isCall).map Prod.snd

end Sql

/-- No function is asked for a field twice. -/
def Aggregates.Distinct (aggregates : Aggregates) : Prop :=
  aggregates.sum.Nodup ∧ aggregates.avg.Nodup ∧ aggregates.min.Nodup ∧ aggregates.max.Nodup

def ResultSet.withAggregates (result : ResultSet) (pairs : List (String × Cell)) : ResultSet :=
  pairs.foldl (fun result pair => result.putAggregate pair.1 pair.2) result

/-!
## Names

The word of a function has three letters, so the name of an aggregate says the function and the
field. None is the name of the number of rows.
-/

namespace AggregateFunction

theorem length_word (function : AggregateFunction) : function.word.toList.length = 3 := by
  cases function <;> rfl

theorem word_inj {function function' : AggregateFunction} (h : function.word = function'.word) :
    function = function' := by
  cases function <;> cases function' <;> simp [word] at h ⊢

theorem resultName_inj {function function' : AggregateFunction} {field field' : String}
    (h : function.resultName field = function'.resultName field') :
    function = function' ∧ field = field' := by
  have hchars := congrArg String.toList h
  simp only [resultName, String.toList_append, List.append_assoc] at hchars
  have hlength := function.length_word.trans function'.length_word.symm
  rcases List.append_inj hchars hlength with ⟨hword, hfield⟩
  exact ⟨word_inj (String.toList_injective hword),
    String.toList_injective (List.append_cancel_left hfield)⟩

theorem resultName_ne_totalCount (function : AggregateFunction) (field : String) :
    function.resultName field ≠ Sql.totalCount := by
  intro h
  have hhead : (function.resultName field).toList.head? = function.word.toList.head? := by
    rw [resultName, String.toList_append, String.toList_append, List.append_assoc]
    cases function <;> rfl
  rw [h] at hhead
  revert hhead
  cases function <;> decide

end AggregateFunction

theorem Aggregates.nodup_pairs_iff (aggregates : Aggregates) :
    aggregates.pairs.Nodup ↔ aggregates.Distinct := by
  have hmap : ∀ (function : AggregateFunction) (fields : List String),
      (fields.map (function, ·)).Nodup ↔ fields.Nodup := by
    intro function fields
    exact List.nodup_map_iff fun field field' h => (Prod.mk.inj h).2
  have hapart : ∀ {function function' : AggregateFunction} (fields fields' : List String),
      function ≠ function' → (fields.map (function, ·)).Disjoint (fields'.map (function', ·)) := by
    intro function function' fields fields' hne pair hpair hpair'
    rcases List.mem_map.mp hpair with ⟨field, _, rfl⟩
    rcases List.mem_map.mp hpair' with ⟨field', _, heq⟩
    exact hne (Prod.mk.inj heq).1.symm
  have hfunctions : AggregateFunction.sum ≠ .avg ∧ AggregateFunction.sum ≠ .min ∧
      AggregateFunction.sum ≠ .max ∧ AggregateFunction.avg ≠ .min ∧
      AggregateFunction.avg ≠ .max ∧ AggregateFunction.min ≠ .max := by decide
  simp only [pairs, List.append_assoc, List.nodup_append', List.disjoint_append_right, hmap, ne_eq,
    hfunctions, not_false_eq_true, hapart, and_true, and_self, Distinct]

theorem Plan.nodup_resultNames_iff (plan : Plan) :
    (plan.aggregates.pairs.map (fun pair => pair.1.resultName pair.2) ++
      (if plan.flags.count then [Sql.totalCount] else [])).Nodup ↔ plan.aggregates.Distinct := by
  have hnames : (plan.aggregates.pairs.map fun pair => pair.1.resultName pair.2).Nodup ↔
      plan.aggregates.Distinct := by
    rw [← Aggregates.nodup_pairs_iff]
    refine List.nodup_map_iff fun pair pair' h => ?_
    rcases AggregateFunction.resultName_inj h with ⟨hfunction, hfield⟩
    exact Prod.ext hfunction hfield
  split
  · rw [← hnames, List.nodup_append']
    constructor
    · exact And.left
    · intro h
      refine ⟨h, List.nodup_singleton _, ?_⟩
      intro name hname hcount
      rcases List.mem_map.mp hname with ⟨pair, _, rfl⟩
      exact pair.1.resultName_ne_totalCount pair.2 (List.mem_singleton.mp hcount)
  · rw [List.append_nil, hnames]

/-!
## Results by name

Aggregates that are set one by one are all kept just if their names are different.
-/

theorem ResultSet.aggregates_withAggregates (result : ResultSet) (pairs : List (String × Cell)) :
    (result.withAggregates pairs).aggregates =
      pairs.foldl (fun map pair => map.insert pair.1 pair.2) result.aggregates := by
  induction pairs generalizing result with
  | nil => rfl
  | cons pair pairs ih =>
      exact ih (result.putAggregate pair.1 pair.2)

theorem ResultSet.keeps_iff {names : List String} :
    (∀ rows cells, cells.length = names.length →
      (ResultSet.withAggregates { rows } (names.zip cells)).aggregates.entries = names.zip cells) ↔
      names.Nodup := by
  constructor
  · intro h
    have hkept := h [] (names.map fun _ => .null) (List.length_map _)
    rw [aggregates_withAggregates] at hkept
    have hnames := OrderedMap.entries_ofList_iff.mp hkept
    rwa [List.map_fst_zip (Nat.le_of_eq (List.length_map _).symm)] at hnames
  · intro h rows cells hlength
    rw [aggregates_withAggregates]
    refine OrderedMap.entries_ofList_iff.mpr ?_
    rwa [List.map_fst_zip (Nat.le_of_eq hlength.symm)]

/-!
## The columns of a plan
-/

namespace Sql

def Shown.name : Shown → String
  | .field name => name
  | .aggregate function column => function.resultName column
  | .count => totalCount

theorem map_name_columns (plan : Plan) :
    plan.content.columns.map Shown.name = resultNames plan := by
  simp only [Plan.columns_content, resultNames, List.map_append, List.map_map]
  congr 1
  · congr 1
    exact List.map_id' _
  · split <;> rfl

theorem item_name_aggregate (function : AggregateFunction) (field : String) :
    (Shown.aggregate function field).item (function.resultName field) = function.item field := by
  cases function
  all_goals
    simp only [Shown.item, AggregateFunction.resultName, AggregateFunction.item,
      String.append_assoc]
    rfl

theorem map_item_columns (plan : Plan) :
    plan.content.columns.map (fun shown => shown.item shown.name) = plan.selectItems := by
  rw [Plan.selectItems_eq]
  simp only [Plan.columns_content, List.map_append, List.map_map]
  congr 1
  · congr 1
    · exact List.map_id' _
    · exact List.map_congr_left fun pair _ => item_name_aggregate pair.1 pair.2
  · split <;> rfl

theorem aliases_map_name (content : Content) :
    content.aliases (content.columns.map Shown.name) =
      (content.columns.filter Shown.isCall).map Shown.name := by
  rw [Content.aliases]
  induction content.columns with
  | nil => rfl
  | cons shown columns ih =>
      rw [List.map_cons, List.zip_cons_cons, List.filter_cons, List.filter_cons]
      cases shown.isCall with
      | true => rw [if_pos rfl, if_pos rfl, List.map_cons, List.map_cons, ih]
      | false => exact ih

theorem aliases_resultNames (plan : Plan) :
    plan.content.aliases (resultNames plan) =
      plan.aggregates.pairs.map (fun pair => pair.1.resultName pair.2) ++
        (if plan.flags.count then [totalCount] else []) := by
  have hfields : ∀ fields : List String, (fields.map Shown.field).filter Shown.isCall = [] := by
    intro fields
    refine List.filter_eq_nil_iff.mpr fun shown hshown => ?_
    rcases List.mem_map.mp hshown with ⟨field, _, rfl⟩
    exact Bool.false_ne_true
  have hpairs : ∀ pairs : List (AggregateFunction × String),
      (pairs.map fun pair => Shown.aggregate pair.1 pair.2).filter Shown.isCall =
        pairs.map fun pair => Shown.aggregate pair.1 pair.2 := by
    intro pairs
    refine List.filter_eq_self.mpr fun shown hshown => ?_
    rcases List.mem_map.mp hshown with ⟨pair, _, rfl⟩
    rfl
  rw [← map_name_columns, aliases_map_name, Plan.columns_content, List.filter_append, List.filter_append,
    hfields, hpairs, List.nil_append, List.map_append, List.map_map]
  congr 1
  split <;> rfl

theorem head?_selectItems {table : Option Handle} {plan : Plan} (h : plan.Renderable table) :
    ∀ item ∈ plan.selectItems, ∃ c rest, item.toList = c :: rest ∧ c ≠ '*' := by
  intro item hitem
  rw [Plan.selectItems_eq, List.mem_append, List.mem_append] at hitem
  rcases hitem with (hshown | haggregate) | hcount
  · split at hshown
    · next hentities =>
        rcases h.shown hentities item hshown with ⟨c, rest, hchars, hstart, _⟩
        refine ⟨c, rest, hchars, ?_⟩
        rintro rfl
        revert hstart
        unfold StartsIdentifier
        decide
    · cases hshown
  · rcases List.mem_map.mp haggregate with ⟨pair, _, rfl⟩
    obtain ⟨function, field⟩ := pair
    cases function
    all_goals
      simp only [AggregateFunction.item, String.toList_append]
      exact ⟨_, _, rfl, by decide⟩
  · split at hcount
    · rw [List.mem_singleton.mp hcount]
      exact ⟨_, _, rfl, by decide⟩
    · cases hcount

theorem selectList_eq_star_iff {table : Option Handle} {plan : Plan} (h : plan.Renderable table) :
    (if plan.selectItems.isEmpty then "*" else ", ".intercalate plan.selectItems) = "*" ↔
      plan.selectItems = [] := by
  cases hitems : plan.selectItems with
  | nil => exact ⟨fun _ => rfl, fun _ => rfl⟩
  | cons first rest =>
      have hfirst : first ∈ plan.selectItems := by
        rw [hitems]
        exact List.mem_cons_self
      rcases head?_selectItems h first hfirst with ⟨c, more, hchars, hstar⟩
      have hlist : ", ".intercalate (first :: rest) = first ++ ", ".intercalate ("" :: rest) := by
        rw [← String.intercalate_cons_append, String.append_empty]
      constructor
      · intro hstar'
        have hhead := congrArg (fun text => text.toList.head?) (hlist.symm.trans hstar')
        simp only [String.toList_append, hchars] at hhead
        exact absurd (Option.some.inj hhead) hstar
      · intro hnil
        cases hnil

theorem zipWith_item_columns (plan : Plan) :
    List.zipWith Shown.item plan.content.columns (resultNames plan) = plan.selectItems := by
  rw [← map_name_columns, List.zipWith_map_right, List.zipWith_self, map_item_columns]

theorem selectItems_eq_nil_iff (plan : Plan) : plan.selectItems = [] ↔ resultNames plan = [] := by
  rw [← map_item_columns, ← map_name_columns, List.map_eq_nil_iff, List.map_eq_nil_iff]

theorem exists_render_eq {table : Option Handle} {plan : Plan} {select : Select}
    (h : Select.ofPlan table plan = .ok select) :
    ∃ rest, select.render = "SELECT" ++ (if plan.flags.distinct then " DISTINCT" else "") ++ " " ++
      (if plan.selectItems.isEmpty then "*" else ", ".intercalate plan.selectItems) ++
      " FROM " ++ plan.entity.name ++ rest := by
  rcases Select.parts_of_ofPlan h with
    ⟨shown, aggregated, _, _, _, hshown, haggregated, _, _, rfl⟩
  have hfrom : Select.clause "FROM" (some plan.entity.name) = " FROM " ++ plan.entity.name := rfl
  simp only [Select.render, renderColumns_eq, render_columns hshown haggregated, hfrom,
    String.append_assoc]
  exact ⟨_, rfl⟩

/-- The text of a statement, from its first words to the table, names the reported columns in their
order, each as what the statement shows there. Without names it shows all columns. The names of its
aggregates are different, and a result by name keeps them all, just if no function is asked for a
field twice. -/
theorem selectList_renderPlan {table : Option Handle} {plan : Plan} {rendered : Rendered}
    (h : renderPlan table plan = .ok rendered) :
    ∃ content list rest, Content.ofSql? rendered.sql = some content ∧
      rendered.sql = "SELECT" ++ (if content.distinct then " DISTINCT" else "") ++ " " ++ list ++
        " FROM " ++ content.entity ++ rest ∧
      (list = "*" ↔ rendered.columns = []) ∧
      content.columns.length = rendered.columns.length ∧
      (rendered.columns ≠ [] →
        list = ", ".intercalate (List.zipWith Shown.item content.columns rendered.columns)) ∧
      ((content.aliases rendered.columns).Nodup ↔ plan.aggregates.Distinct) ∧
      ((∀ rows cells, cells.length = (content.aliases rendered.columns).length →
        (ResultSet.withAggregates { rows }
          ((content.aliases rendered.columns).zip cells)).aggregates.entries =
            (content.aliases rendered.columns).zip cells) ↔ plan.aggregates.Distinct) := by
  have hrenderable := succeeds_renderPlan.mp ⟨rendered, h⟩
  rcases bind_eq_ok.mp h with ⟨select, hselect, hrendered⟩
  cases hrendered
  have hnodup : (plan.content.aliases (resultNames plan)).Nodup ↔ plan.aggregates.Distinct := by
    rw [aliases_resultNames]
    exact plan.nodup_resultNames_iff
  have hread : Content.ofSql? select.render = some plan.content := by
    rcases Select.ofPlan_eq_ok hselect with ⟨hplain, hlexemes, hcomplete⟩
    rw [Content.ofSql?, Select.lexemes?_render hplain, hlexemes]
    exact Content.ofLexemes?_lexemes hcomplete
  rcases exists_render_eq hselect with ⟨rest, hsql⟩
  refine ⟨plan.content, _, rest, hread, hsql, ?_, ?_, ?_, hnodup, ResultSet.keeps_iff.trans hnodup⟩
  · rw [selectList_eq_star_iff hrenderable, selectItems_eq_nil_iff]
  · rw [← map_name_columns, List.length_map]
  · intro hcolumns
    have hitems : plan.selectItems.isEmpty = false := by
      rw [← Bool.not_eq_true, List.isEmpty_iff, selectItems_eq_nil_iff]
      exact hcolumns
    rw [hitems, zipWith_item_columns]
    rfl

/-- A plan whose fields look like the names of aggregates. -/
def lookalikePlan : Plan where
  entity := ⟨"COUNT", by decide⟩
  projection := ["sum_x", "total_count", "DISTINCT"]
  aggregates := { sum := ["x", "count"], avg := ["sum_x"], min := ["x"], max := ["x", "AS"] }
  flags := { count := true, distinct := true }

theorem selectList_renderPlan_lookalikes :
    ∃ rendered content, renderPlan none lookalikePlan = .ok rendered ∧
      Content.ofSql? rendered.sql = some content ∧
      rendered.columns = ["sum_x", "total_count", "DISTINCT", "sum_x", "sum_count", "avg_sum_x",
        "min_x", "max_x", "max_AS", "total_count"] ∧
      content.columns.length = 10 ∧ (content.aliases rendered.columns).Nodup := by
  have h : renderPlan none lookalikePlan = .ok _ := rfl
  have hdistinct : lookalikePlan.aggregates.Distinct := by
    unfold Aggregates.Distinct
    decide
  rcases selectList_renderPlan h with ⟨content, _, _, hcontent, _, _, hlength, _, hnodup, _⟩
  exact ⟨_, content, h, hcontent, rfl, hlength, hnodup.mpr hdistinct⟩

end Sql

end TableQuery
