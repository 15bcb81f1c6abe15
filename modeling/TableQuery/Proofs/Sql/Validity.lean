import TableQuery.Proofs.Outcome
import TableQuery.Proofs.Schema.Filing
import TableQuery.Sql.OfPlan

/-!
# Plans that can be written

A plan is written as a statement just if its names are identifiers, its fields are declared, its
operands fit their operators and there is something to select. A plan that is not written has a
fault of validation, which points at no text.
-/

namespace TableQuery

open Outcome

/-!
## What has to hold of a plan

The conditions are stated on the plan as a whole, each for itself, and not in the order in which
they are checked.
-/

namespace Sql

def StartsIdentifier (c : Char) : Prop :=
  ('A' ≤ c ∧ c ≤ 'Z') ∨ ('a' ≤ c ∧ c ≤ 'z') ∨ c = '_'

/-- A name that starts with a letter or an underscore and goes on with letters, underscores and
digits. -/
def IsIdentifier (name : String) : Prop :=
  ∃ c rest, name.toList = c :: rest ∧ StartsIdentifier c ∧
    ∀ part ∈ rest, StartsIdentifier part ∨ ('0' ≤ part ∧ part ≤ '9')

end Sql

open Sql (IsIdentifier)

def Aggregates.fields (aggregates : Aggregates) : List String :=
  aggregates.sum ++ aggregates.avg ++ aggregates.min ++ aggregates.max

/-- All fields that a plan names: shown, aggregated, compared, sorted by. -/
def Plan.mentions (plan : Plan) : List String :=
  plan.projection ++ plan.aggregates.fields ++ plan.filters.map Criterion.field ++
    plan.sorting.map SortKey.field

structure Criterion.Fits (criterion : Criterion) : Prop where
  count : criterion.values.length = if criterion.operator = .between then 2 else 1
  pattern : criterion.operator = .like → ∀ value, Scalar.boolean value ∉ criterion.values

/-- A plan that can be written, with its fields checked against a handle if there is one. -/
structure Plan.Renderable (table : Option Handle) (plan : Plan) : Prop where
  entity : IsIdentifier plan.entity.name
  declared : ∀ found ∈ table, ∀ field ∈ plan.mentions, found.hasField field = true
  shown : plan.flags.entities = true → ∀ field ∈ plan.projection, IsIdentifier field
  aggregated : ∀ field ∈ plan.aggregates.fields, IsIdentifier field
  compared : ∀ criterion ∈ plan.filters, IsIdentifier criterion.field ∧ criterion.Fits
  sorted : ∀ key ∈ plan.sorting, IsIdentifier key.field
  selects : ¬ (plan.flags.entities = false ∧ plan.aggregates.fields = [] ∧ plan.flags.count = false)

/-- The first field of a list that a handle does not have. -/
def Handle.FirstMissing (handle : Handle) (fields : List String) (field : String) : Prop :=
  ∃ before after, fields = before ++ field :: after ∧
    (∀ other ∈ before, handle.hasField other = true) ∧ handle.hasField field = false

/-!
## Fields

The fields of a plan are checked without repetitions, in the order of their first mention. The first
one that is missing is the same with repetitions.
-/

theorem Aggregates.map_snd_pairs (aggregates : Aggregates) :
    aggregates.pairs.map Prod.snd = aggregates.fields := by
  simp [pairs, fields, Function.comp_def]

theorem Plan.fields_eq_mentions (plan : Plan) : plan.fields = plan.mentions := by
  rw [fields, Aggregates.map_snd_pairs, mentions]

/-- The first name with a property is the first one among the names that are not repeated. The names
seen so far stand in front of the names to come. -/
theorem Plan.find?_foldl_firstSeen (p : String → Bool) (names seen : List String) :
    (names.foldl (fun seen name => if seen.contains name then seen else seen ++ [name]) seen).find? p =
      (seen ++ names).find? p := by
  induction names generalizing seen with
  | nil => simp
  | cons name names ih =>
      rw [List.foldl_cons, ih]
      by_cases hseen : seen.contains name = true
      · rw [if_pos hseen, List.find?_append, List.find?_append, List.find?_cons]
        cases hp : p name with
        | false => rfl
        | true =>
            have hfound : (seen.find? p).isSome = true :=
              List.find?_isSome.mpr ⟨name, List.contains_iff_mem.mp hseen, hp⟩
            rcases Option.isSome_iff_exists.mp hfound with ⟨found, hfind⟩
            rw [hfind]
            rfl
      · rw [if_neg hseen, List.append_assoc]
        rfl

theorem Plan.find?_referencedFields (plan : Plan) (p : String → Bool) :
    plan.referencedFields.find? p = plan.mentions.find? p := by
  rw [referencedFields, firstSeen, find?_foldl_firstSeen, List.nil_append, fields_eq_mentions]

theorem Plan.mem_referencedFields {plan : Plan} {field : String} :
    field ∈ plan.referencedFields ↔ field ∈ plan.mentions := by
  have hfind := congrArg Option.isSome (plan.find?_referencedFields (· == field))
  rw [Bool.eq_iff_iff, List.find?_isSome, List.find?_isSome] at hfind
  simpa using hfind

theorem Handle.find?_eq_some_iff (handle : Handle) (fields : List String) (field : String) :
    fields.find? (fun field => !handle.hasField field) = some field ↔
      handle.FirstMissing fields field := by
  rw [List.find?_eq_some_iff_append, Bool.not_eq_true']
  constructor
  · intro h
    rcases h with ⟨hfield, before, after, hfields, hbefore⟩
    exact ⟨before, after, hfields, by simpa using hbefore, hfield⟩
  · intro h
    rcases h with ⟨before, after, hfields, hbefore, hfield⟩
    exact ⟨hfield, before, after, hfields, by simpa using hbefore⟩

namespace Sql

theorem checkFields_eq_ok_iff {table : Option Handle} {plan : Plan} :
    checkFields table plan = .ok () ↔
      ∀ found ∈ table, ∀ field ∈ plan.referencedFields, found.hasField field = true := by
  cases table with
  | none => simp [checkFields]
  | some found =>
      simp only [checkFields, Option.mem_some_iff]
      split
      · rename_i field hfield
        have hmem := List.mem_of_find?_eq_some hfield
        have hnot := List.find?_some hfield
        simp only [reduceCtorEq, false_iff]
        intro h
        rw [h found rfl field hmem] at hnot
        cases hnot
      · rename_i hnone
        simpa using hnone

theorem checkFields_eq_error_iff {table : Option Handle} {plan : Plan} {fault : Fault} :
    checkFields table plan = .error fault ↔
      ∃ found field, table = some found ∧ found.FirstMissing plan.mentions field ∧
        fault = { cause := .unknownColumn found.name field } := by
  constructor
  · intro h
    cases table with
    | none => cases h
    | some found =>
        simp only [checkFields, plan.find?_referencedFields] at h
        split at h
        · rename_i field hfound
          have hfirst := (found.find?_eq_some_iff plan.mentions field).mp hfound
          cases h
          exact ⟨found, field, rfl, hfirst, rfl⟩
        · cases h
  · rintro ⟨found, field, rfl, hfirst, rfl⟩
    have hfound := (found.find?_eq_some_iff plan.mentions field).mpr hfirst
    simp only [checkFields, plan.find?_referencedFields, hfound]

/-!
## Names and operands

A name is written just if it is an identifier. Only a pattern refuses values, and only truth values.
-/

theorem isNameStart_iff {c : Char} : isNameStart c = true ↔ StartsIdentifier c := by
  have hupper : c.isUpper = decide ('A' ≤ c ∧ c ≤ 'Z') := rfl
  have hlower : c.isLower = (decide ('a' ≤ c) && decide (c ≤ 'z')) := rfl
  have halpha : c.isAlpha = (c.isUpper || c.isLower) := rfl
  rw [isNameStart, halpha, hupper, hlower]
  simp [StartsIdentifier, or_assoc]

theorem isNamePart_iff {c : Char} :
    isNamePart c = true ↔ StartsIdentifier c ∨ ('0' ≤ c ∧ c ≤ '9') := by
  rw [← isNameStart_iff, isNamePart, isNameStart, Char.isAlphanum, Char.isDigit]
  simp only [Bool.or_eq_true, Bool.and_eq_true, decide_eq_true_eq]
  exact or_right_comm

theorem isPlainName_iff {name : String} : isPlainName name = true ↔ IsIdentifier name := by
  unfold isPlainName IsIdentifier
  cases name.toList with
  | nil => simp [isPlainChars]
  | cons c rest =>
      simp only [isPlainChars, Bool.and_eq_true, List.all_eq_true, isNameStart_iff, isNamePart_iff]
      constructor
      · intro h
        exact ⟨c, rest, rfl, h⟩
      · rintro ⟨_, _, heq, h⟩
        cases heq
        exact h

instance (name : String) : Decidable (IsIdentifier name) :=
  decidable_of_iff _ isPlainName_iff

theorem succeeds_checkedName {name : String} :
    Succeeds (checkedName name) ↔ IsIdentifier name := by
  rw [← isPlainName_iff, checkedName]
  split
  · rename_i hplain
    exact iff_of_true (succeeds_ok name) hplain
  · rename_i hplain
    exact iff_of_false (not_succeeds_error _) hplain

theorem checkedName_eq_ok {name found : String} (h : checkedName name = .ok found) :
    isPlainName name = true ∧ found = name := by
  unfold checkedName at h
  split at h
  · rename_i hplain
    cases h
    exact ⟨hplain, rfl⟩
  · cases h

theorem columnExpr_eq_ok {name : String} {expr : Expr} (h : columnExpr name = .ok expr) :
    isPlainName name = true ∧ expr = .column name := by
  rcases map_eq_ok.mp h with ⟨found, hfound, hexpr⟩
  rcases checkedName_eq_ok hfound with ⟨hplain, heq⟩
  rw [← hexpr, heq]
  exact ⟨hplain, rfl⟩

theorem succeeds_columnExpr {name : String} : Succeeds (columnExpr name) ↔ IsIdentifier name :=
  succeeds_map.trans succeeds_checkedName

theorem length_operands (operator : Operator) :
    operator.operands.length = if operator = .between then 2 else 1 := by
  cases operator <;> rfl

theorem firstRefused?_eq_none_iff {operator : Operator} {values : List Scalar}
    (hlength : values.length = operator.operands.length) :
    firstRefused? operator.operands values = none ↔
      (operator = .like → ∀ value, Scalar.boolean value ∉ values) := by
  rw [firstRefused?, List.findIdx?_eq_none_iff]
  cases operator with
  | like =>
      rcases List.length_eq_one_iff.mp hlength with ⟨operand, rfl⟩
      cases operand <;> simp [Operator.operands, OperandKind.accepts]
  | _ =>
      refine iff_of_true ?_ (fun h => by cases h)
      rintro ⟨value, kind⟩ hpair
      have hkind := (List.of_mem_zip hpair).2
      simp only [Operator.operands, List.mem_cons, List.not_mem_nil, or_false, or_self] at hkind
      subst hkind
      rfl

theorem check_eq_ok_iff {criterion : Criterion} :
    criterion.operator.check criterion.field criterion.values = .ok () ↔ criterion.Fits := by
  simp only [Operator.check]
  split
  · rename_i hlength
    refine iff_of_false (fun h => by cases h) fun hfits => hlength ?_
    rw [length_operands]
    exact hfits.count
  · rename_i hlength
    have hlength := Classical.not_not.mp hlength
    have hpattern := firstRefused?_eq_none_iff hlength
    rw [length_operands] at hlength
    split
    · rename_i hrefused
      refine iff_of_false (fun h => by cases h) fun hfits => ?_
      rw [hpattern.mpr hfits.pattern] at hrefused
      cases hrefused
    · rename_i hrefused
      exact iff_of_true rfl ⟨hlength, hpattern.mp hrefused⟩

theorem exists_conditionExpr? {criterion : Criterion} (h : criterion.Fits) (column : Expr)
    (operand : Scalar → Expr) :
    ∃ condition, conditionExpr? criterion.operator column (criterion.values.map operand) =
      some condition := by
  have hcount := h.count
  cases hoperator : criterion.operator with
  | between =>
      rw [hoperator, if_pos rfl] at hcount
      match criterion.values, hcount with
      | [low, high], _ => exact ⟨_, rfl⟩
  | _ =>
      rw [hoperator, if_neg (by decide)] at hcount
      rcases List.length_eq_one_iff.mp hcount with ⟨value, hvalues⟩
      rw [hvalues]
      exact ⟨_, rfl⟩

theorem succeeds_criterionExpr {criterion : Criterion} :
    Succeeds (criterionExpr criterion) ↔ IsIdentifier criterion.field ∧ criterion.Fits := by
  unfold criterionExpr
  rw [succeeds_bind]
  constructor
  · rintro ⟨_, hcheck, hrest⟩
    rcases succeeds_bind.mp hrest with ⟨column, hcolumn, _⟩
    exact ⟨succeeds_columnExpr.mp ⟨column, hcolumn⟩, check_eq_ok_iff.mp hcheck⟩
  · rintro ⟨hname, hfits⟩
    rcases succeeds_columnExpr.mpr hname with ⟨column, hcolumn⟩
    refine ⟨(), check_eq_ok_iff.mpr hfits, succeeds_bind.mpr ⟨column, hcolumn, ?_⟩⟩
    rcases exists_conditionExpr? hfits (if criterion.ignoreCase then column.lower else column)
      (fun value => if criterion.ignoreCase then (scalarExpr value).lower else scalarExpr value)
      with ⟨condition, hcondition⟩
    simp only [hcondition]
    exact succeeds_ok condition

/-!
## The statement of a plan

A table can only refuse a plan. What it takes is written as if there were no table.
-/

theorem Select.parts_of_ofPlan {table : Option Handle} {plan : Plan} {select : Select}
    (h : Select.ofPlan table plan = .ok select) :
    ∃ shown aggregated conditions order, isPlainName plan.entity.name = true ∧
      (if plan.flags.entities then plan.projection else []).mapM fieldColumn = .ok shown ∧
      plan.aggregates.pairs.mapM aggregateColumn = .ok aggregated ∧
      plan.filters.mapM criterionExpr = .ok conditions ∧
      plan.sorting.mapM orderTerm = .ok order ∧
      select = {
        distinct := plan.flags.distinct
        columns := shown ++ aggregated ++ (if plan.flags.count then [countColumn] else [])
        table := some plan.entity.name
        condition := Expr.all? conditions
        order
        limit := plan.paging.limit.map fun word => .number (.ofUInt64 word)
        offset := plan.paging.offset.map fun word => .number (.ofUInt64 word) } := by
  rcases bind_eq_ok.mp h with ⟨entity, hentity, h⟩
  rcases bind_eq_ok.mp h with ⟨_, _, h⟩
  rcases bind_eq_ok.mp h with ⟨shown, hshown, h⟩
  rcases bind_eq_ok.mp h with ⟨aggregated, haggregated, h⟩
  simp only at h
  generalize hcolumns :
    shown ++ aggregated ++ (if plan.flags.count then [countColumn] else []) = columns at h
  split at h
  · cases h
  rcases bind_eq_ok.mp h with ⟨conditions, hconditions, h⟩
  rcases bind_eq_ok.mp h with ⟨order, horder, h⟩
  cases h
  rcases checkedName_eq_ok hentity with ⟨hplain, rfl⟩
  refine ⟨shown, aggregated, conditions, order, hplain, hshown, haggregated, hconditions, horder, ?_⟩
  rw [hcolumns]

theorem Select.ofPlan_eq_bind (table : Option Handle) (plan : Plan) :
    Select.ofPlan table plan =
      (checkedName plan.entity.name >>= fun _ =>
        checkFields table plan >>= fun _ => Select.ofPlan none plan) := by
  unfold Select.ofPlan
  cases checkedName plan.entity.name with
  | error fault => rfl
  | ok entity =>
      cases checkFields table plan with
      | error fault => rfl
      | ok _ => rfl

theorem isEmpty_columns_iff {plan : Plan} {shown aggregated : List ResultColumn}
    (hshown : (if plan.flags.entities then plan.projection else []).mapM fieldColumn = .ok shown)
    (haggregated : plan.aggregates.pairs.mapM aggregateColumn = .ok aggregated) :
    ((shown ++ aggregated ++ (if plan.flags.count then [countColumn] else [])).isEmpty &&
        !plan.flags.entities) = true ↔
      plan.flags.entities = false ∧ plan.aggregates.fields = [] ∧ plan.flags.count = false := by
  have hpairs : aggregated = [] ↔ plan.aggregates.fields = [] := by
    rw [← Aggregates.map_snd_pairs, List.map_eq_nil_iff, ← List.length_eq_zero_iff,
      length_of_mapM_eq_ok haggregated, List.length_eq_zero_iff]
  cases hentities : plan.flags.entities with
  | true => simp
  | false =>
      rw [hentities] at hshown
      cases hshown
      cases plan.flags.count <;> simp [hpairs]

theorem succeeds_ofPlan_none {plan : Plan} :
    Succeeds (Select.ofPlan none plan) ↔
      IsIdentifier plan.entity.name ∧
      (plan.flags.entities = true → ∀ field ∈ plan.projection, IsIdentifier field) ∧
      (∀ field ∈ plan.aggregates.fields, IsIdentifier field) ∧
      (∀ criterion ∈ plan.filters, IsIdentifier criterion.field ∧ criterion.Fits) ∧
      (∀ key ∈ plan.sorting, IsIdentifier key.field) ∧
      ¬ (plan.flags.entities = false ∧ plan.aggregates.fields = [] ∧ plan.flags.count = false) := by
  have hshown : Succeeds ((if plan.flags.entities then plan.projection else []).mapM fieldColumn) ↔
      (plan.flags.entities = true → ∀ field ∈ plan.projection, IsIdentifier field) := by
    rw [succeeds_mapM]
    simp only [fieldColumn, succeeds_map, succeeds_columnExpr]
    cases plan.flags.entities <;> simp
  have haggregated : Succeeds (plan.aggregates.pairs.mapM aggregateColumn) ↔
      ∀ field ∈ plan.aggregates.fields, IsIdentifier field := by
    rw [succeeds_mapM, ← Aggregates.map_snd_pairs, List.forall_mem_map]
    simp only [aggregateColumn, succeeds_map, succeeds_columnExpr]
  have hconditions : Succeeds (plan.filters.mapM criterionExpr) ↔
      ∀ criterion ∈ plan.filters, IsIdentifier criterion.field ∧ criterion.Fits := by
    simp only [succeeds_mapM, succeeds_criterionExpr]
  have horder : Succeeds (plan.sorting.mapM orderTerm) ↔
      ∀ key ∈ plan.sorting, IsIdentifier key.field := by
    simp only [succeeds_mapM, orderTerm, succeeds_map, succeeds_columnExpr]
  rw [← succeeds_checkedName, ← hshown, ← haggregated, ← hconditions, ← horder]
  constructor
  · intro h
    rcases succeeds_bind.mp h with ⟨entity, hentity, h⟩
    rcases succeeds_bind.mp h with ⟨_, _, h⟩
    rcases succeeds_bind.mp h with ⟨shown, hshown, h⟩
    rcases succeeds_bind.mp h with ⟨aggregated, haggregated, h⟩
    have hnothing := isEmpty_columns_iff hshown haggregated
    simp only at h
    generalize shown ++ aggregated ++ (if plan.flags.count then [countColumn] else []) = columns
      at h hnothing
    split at h
    · exact absurd h (not_succeeds_error _)
    · rename_i hsome
      rcases succeeds_bind.mp h with ⟨conditions, hconditions, h⟩
      rcases succeeds_bind.mp h with ⟨order, horder, _⟩
      exact ⟨⟨entity, hentity⟩, ⟨shown, hshown⟩, ⟨aggregated, haggregated⟩,
        ⟨conditions, hconditions⟩, ⟨order, horder⟩,
        fun h => hsome (hnothing.mpr h)⟩
  · rintro ⟨⟨entity, hentity⟩, ⟨shown, hshown⟩, ⟨aggregated, haggregated⟩,
      ⟨conditions, hconditions⟩, ⟨order, horder⟩, hsome⟩
    rw [← isEmpty_columns_iff hshown haggregated] at hsome
    unfold Select.ofPlan
    rw [hentity, hshown, haggregated, hconditions, horder]
    simp only [checkFields, ok_bind, hsome]
    exact succeeds_ok _

/-!
## Faults
-/

structure IsUnplaced (fault : Fault) : Prop where
  validation : fault.faultClass = .validation
  span : fault.span = none
  source : fault.source = none

/-- A fault of validation that points at no text and is not about a column of a table. -/
structure IsPlanFault (fault : Fault) : Prop extends IsUnplaced fault where
  cause : ∀ table column, fault.cause ≠ .unknownColumn table column

theorem failsIn_checkedName (name : String) : FailsIn IsPlanFault (checkedName name) := by
  unfold checkedName
  split
  · exact FailsIn.ok name
  · exact FailsIn.error ⟨⟨rfl, rfl, rfl⟩, by simp⟩

theorem failsIn_columnExpr (name : String) : FailsIn IsPlanFault (columnExpr name) :=
  FailsIn.map Expr.column (failsIn_checkedName name)

theorem failsIn_check (operator : Operator) (field : String) (values : List Scalar) :
    FailsIn IsPlanFault (operator.check field values) := by
  simp only [Operator.check]
  split
  · exact FailsIn.error ⟨⟨rfl, rfl, rfl⟩, by simp⟩
  · split
    · exact FailsIn.error ⟨⟨rfl, rfl, rfl⟩, by simp⟩
    · exact FailsIn.ok ()

theorem failsIn_criterionExpr (criterion : Criterion) :
    FailsIn IsPlanFault (criterionExpr criterion) := by
  apply FailsIn.bind (failsIn_check _ _ _)
  intro _
  apply FailsIn.bind (failsIn_columnExpr _)
  intro column
  simp only
  split
  · exact FailsIn.ok _
  · exact FailsIn.error ⟨⟨rfl, rfl, rfl⟩, by simp⟩

theorem failsIn_ofPlan_none (plan : Plan) : FailsIn IsPlanFault (Select.ofPlan none plan) := by
  have hfields : FailsIn IsPlanFault (checkFields none plan) := FailsIn.ok ()
  have hshown : ∀ field, FailsIn IsPlanFault (fieldColumn field) :=
    fun field => FailsIn.map _ (failsIn_columnExpr field)
  have haggregated : ∀ pair, FailsIn IsPlanFault (aggregateColumn pair) :=
    fun pair => FailsIn.map _ (failsIn_columnExpr pair.2)
  have horder : ∀ key, FailsIn IsPlanFault (orderTerm key) :=
    fun key => FailsIn.map _ (failsIn_columnExpr key.field)
  apply FailsIn.bind (failsIn_checkedName _)
  intro entity
  apply FailsIn.bind hfields
  intro _
  apply FailsIn.bind (FailsIn.mapM hshown _)
  intro shown
  apply FailsIn.bind (FailsIn.mapM haggregated _)
  intro aggregated
  simp only
  generalize shown ++ aggregated ++ (if plan.flags.count then [countColumn] else []) = columns
  split
  · exact FailsIn.error ⟨⟨rfl, rfl, rfl⟩, by simp⟩
  · exact FailsIn.bind (FailsIn.mapM failsIn_criterionExpr _) fun conditions =>
      FailsIn.bind (FailsIn.mapM horder _) fun order => FailsIn.ok _

/-!
## Rendering

A plan is written as it is without a table, unless the table refuses a field.
-/

theorem succeeds_renderPlan {table : Option Handle} {plan : Plan} :
    Succeeds (renderPlan table plan) ↔ plan.Renderable table := by
  have hselect : Succeeds (renderPlan table plan) ↔ Succeeds (Select.ofPlan table plan) := by
    constructor
    · intro h
      rcases succeeds_bind.mp h with ⟨select, hselect, _⟩
      exact ⟨select, hselect⟩
    · rintro ⟨select, hselect⟩
      exact succeeds_bind.mpr ⟨select, hselect, succeeds_ok _⟩
  have hdeclared : checkFields table plan = .ok () ↔
      ∀ found ∈ table, ∀ field ∈ plan.mentions, found.hasField field = true := by
    simp only [checkFields_eq_ok_iff, Plan.mem_referencedFields]
  rw [hselect, Select.ofPlan_eq_bind]
  constructor
  · intro h
    rcases succeeds_bind.mp h with ⟨_, _, h⟩
    rcases succeeds_bind.mp h with ⟨_, hfields, h⟩
    rcases succeeds_ofPlan_none.mp h with
      ⟨hentity, hshown, haggregated, hcompared, hsorted, hselects⟩
    exact ⟨hentity, hdeclared.mp hfields, hshown, haggregated, hcompared, hsorted, hselects⟩
  · intro h
    rcases succeeds_checkedName.mpr h.entity with ⟨entity, hentity⟩
    refine succeeds_bind.mpr ⟨entity, hentity, succeeds_bind.mpr ⟨(), hdeclared.mpr h.declared, ?_⟩⟩
    exact succeeds_ofPlan_none.mpr
      ⟨h.entity, h.shown, h.aggregated, h.compared, h.sorted, h.selects⟩

theorem renderPlan_eq_ok_iff {table : Option Handle} {plan : Plan} {rendered : Rendered} :
    renderPlan table plan = .ok rendered ↔
      checkFields table plan = .ok () ∧ renderPlan none plan = .ok rendered := by
  simp only [renderPlan, Select.ofPlan_eq_bind table, bind_eq_ok]
  constructor
  · rintro ⟨select, ⟨_, _, _, hfields, hselect⟩, hrendered⟩
    exact ⟨hfields, select, hselect, hrendered⟩
  · rintro ⟨hfields, select, hselect, hrendered⟩
    rcases bind_eq_ok.mp hselect with ⟨entity, hentity, _⟩
    exact ⟨select, ⟨entity, hentity, (), hfields, hselect⟩, hrendered⟩

theorem renderPlan_eq_error_iff {table : Option Handle} {plan : Plan} {fault : Fault} :
    renderPlan table plan = .error fault ↔
      checkedName plan.entity.name = .error fault ∨
      (IsIdentifier plan.entity.name ∧
        (checkFields table plan = .error fault ∨
          checkFields table plan = .ok () ∧ Select.ofPlan none plan = .error fault)) := by
  have hselect : renderPlan table plan = .error fault ↔ Select.ofPlan table plan = .error fault := by
    rw [renderPlan, bind_eq_error]
    exact or_iff_left (fun ⟨_, _, h⟩ => by cases h)
  rw [hselect, Select.ofPlan_eq_bind, bind_eq_error, ← succeeds_checkedName]
  simp only [bind_eq_error]
  apply or_congr_right
  constructor
  · rintro ⟨entity, hentity, hfields | ⟨_, hfields, hrest⟩⟩
    · exact ⟨⟨entity, hentity⟩, Or.inl hfields⟩
    · exact ⟨⟨entity, hentity⟩, Or.inr ⟨hfields, hrest⟩⟩
  · rintro ⟨⟨entity, hentity⟩, hfields | ⟨hfields, hrest⟩⟩
    · exact ⟨entity, hentity, Or.inl hfields⟩
    · exact ⟨entity, hentity, Or.inr ⟨(), hfields, hrest⟩⟩

theorem failsIn_renderPlan (table : Option Handle) (plan : Plan) :
    FailsIn IsUnplaced (renderPlan table plan) := by
  intro fault h
  rcases renderPlan_eq_error_iff.mp h with hentity | ⟨_, hfields | ⟨_, hrest⟩⟩
  · exact (failsIn_checkedName _ fault hentity).toIsUnplaced
  · rcases checkFields_eq_error_iff.mp hfields with ⟨found, field, _, _, rfl⟩
    exact ⟨rfl, rfl, rfl⟩
  · exact (failsIn_ofPlan_none plan fault hrest).toIsUnplaced

theorem renderPlan_eq_unknownColumn_iff {table : Option Handle} {plan : Plan}
    {name column : String} :
    renderPlan table plan = .error { cause := .unknownColumn name column } ↔
      IsIdentifier plan.entity.name ∧
        ∃ found, table = some found ∧ found.name = name ∧
          found.FirstMissing plan.mentions column := by
  rw [renderPlan_eq_error_iff]
  constructor
  · rintro (hentity | ⟨hentity, hfields | ⟨_, hrest⟩⟩)
    · exact absurd rfl ((failsIn_checkedName _ _ hentity).cause name column)
    · rcases checkFields_eq_error_iff.mp hfields with ⟨found, field, htable, hfirst, heq⟩
      cases heq
      exact ⟨hentity, found, htable, rfl, hfirst⟩
    · exact absurd rfl ((failsIn_ofPlan_none plan _ hrest).cause name column)
  · rintro ⟨hentity, found, htable, rfl, hfirst⟩
    exact Or.inr ⟨hentity, Or.inl
      (checkFields_eq_error_iff.mpr ⟨found, column, htable, hfirst, rfl⟩)⟩

theorem criterionExpr_eq_error {criterion : Criterion} {fault : Fault}
    (h : criterionExpr criterion = .error fault) :
    criterion.operator.check criterion.field criterion.values = .error fault ∨
      columnExpr criterion.field = .error fault := by
  rcases bind_eq_error.mp h with hcheck | ⟨_, hcheck, hrest⟩
  · exact Or.inl hcheck
  · rcases bind_eq_error.mp hrest with hcolumn | ⟨column, hcolumn, _⟩
    · exact Or.inr hcolumn
    · have hsucceeds : Succeeds (criterionExpr criterion) :=
        succeeds_criterionExpr.mpr
          ⟨succeeds_columnExpr.mp ⟨column, hcolumn⟩, check_eq_ok_iff.mp hcheck⟩
      rw [h] at hsucceeds
      exact absurd hsucceeds (not_succeeds_error fault)

/-- Just the plans that meet the conditions are written. All other plans, with a handle or without
one, have a fault of validation that points at no text. It is about a column just if the entity is
an identifier and the handle does not have all fields of the plan, and then it names the first of these
fields. A condition whose operands were checked never lacks an operand. The handle of a table has just
the fields that the table declares, or all fields if the table declares none. -/
theorem renderPlan_ok_iff_renderable (table : Option Handle) (plan : Plan) :
    ((∃ rendered, renderPlan table plan = .ok rendered) ↔ plan.Renderable table) ∧
    (∀ fault, renderPlan table plan = .error fault →
      fault.faultClass = .validation ∧ fault.span = none ∧ fault.source = none) ∧
    (∀ name column, renderPlan table plan = .error { cause := .unknownColumn name column } ↔
      IsIdentifier plan.entity.name ∧
        ∃ found, table = some found ∧ found.name = name ∧
          found.FirstMissing plan.mentions column) ∧
    (∀ criterion fault, criterionExpr criterion = .error fault →
      criterion.operator.check criterion.field criterion.values = .error fault ∨
        columnExpr criterion.field = .error fault) ∧
    ∀ (found : Table) (field : String), found.handle.hasField field = true ↔
      (found.columns.keys ≠ [] → field ∈ found.columns.keys) := by
  refine ⟨succeeds_renderPlan, ?_, ?_, ?_, Table.hasField_iff⟩
  · intro fault hfault
    have hunplaced := failsIn_renderPlan table plan fault hfault
    exact ⟨hunplaced.validation, hunplaced.span, hunplaced.source⟩
  · intro name column
    exact renderPlan_eq_unknownColumn_iff
  · intro criterion fault hfault
    exact criterionExpr_eq_error hfault

/-- A plan that only counts rows and names fields that it does not show. -/
def countingPlan : Plan where
  entity := ⟨"payments", by decide⟩
  projection := ["id", "no column"]
  flags := { count := true, entities := false }

def idTable : Table :=
  .ofColumns "payments" [{ name := "id", type := .bigint }] none

/-- A field that is not shown need not be an identifier, but it has to be declared. -/
theorem renderPlan_ok_iff_renderable_counting :
    (∃ rendered, renderPlan none countingPlan = .ok rendered) ∧
      renderPlan (some idTable.handle) countingPlan =
        .error { cause := .unknownColumn "payments" "no column" } := by
  have hentity : IsIdentifier countingPlan.entity.name := by decide
  have hnone : countingPlan.Renderable none := by
    constructor
    · exact hentity
    · intro found hfound
      cases hfound
    · intro hentities
      cases hentities
    · intro field hfield
      cases hfield
    · intro criterion hcriterion
      cases hcriterion
    · intro key hkey
      cases hkey
    · decide
  have hfirst : idTable.handle.FirstMissing countingPlan.mentions "no column" :=
    ⟨["id"], [], rfl, by decide, by decide⟩
  constructor
  · exact (renderPlan_ok_iff_renderable none countingPlan).1.mpr hnone
  · exact ((renderPlan_ok_iff_renderable (some idTable.handle) countingPlan).2.2.1 _ _).mpr
      ⟨hentity, idTable.handle, rfl, rfl, hfirst⟩

end Sql

end TableQuery
